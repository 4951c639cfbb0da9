import TaskCrew.Decimal.Basic

/-!
# Numerals within bounds

The reading of a whole text as an integer of a fixed range: an optional sign, then digits. Digits
are taken from left to right, and the first thing that goes wrong names the fault: a character that
is no digit, or a digit that carries the number past an end of its range.

* `Range` — the least and the greatest number, and whether a minus sign is understood;
* `Fault`, `Fault.message` — why a text is no numeral;
* `read` — the number that a text denotes.

**Design.** The sign decides in which direction the digits are added up, so that the least number
of a range with negative numbers is reached without passing its greatest.
-/

namespace TaskCrew.Decimal

/-- The numbers that a numeral may denote. -/
structure Range where
  least : Int
  greatest : Int
  /-- Whether a minus sign is understood. -/
  signed : Bool

namespace Range

def count : Range := ⟨0, 18446744073709551615, false⟩

def integer : Range := ⟨-9223372036854775808, 9223372036854775807, true⟩

end Range

namespace Numeral

/-- Why a text is no numeral of a range. -/
inductive Fault
  | empty
  /-- A character that is no digit, or a sign without digits. -/
  | invalidDigit
  /-- The number is above the greatest of its range. -/
  | tooLarge
  /-- The number is below the least of its range. -/
  | tooSmall
  deriving DecidableEq, Repr

def Fault.message : Fault → String
  | .empty => "cannot parse integer from empty string"
  | .invalidDigit => "invalid digit found in string"
  | .tooLarge => "number too large to fit in target type"
  | .tooSmall => "number too small to fit in target type"

/-- Adds digits to a number that grows upwards. -/
def addUp (greatest : Int) (n : Int) : List Char → Except Fault Int
  | [] => .ok n
  | c :: cs =>
    if !c.isDigit then .error .invalidDigit
    else if 10 * n + digitValue c > greatest then .error .tooLarge
    else addUp greatest (10 * n + digitValue c) cs

/-- Adds digits to a number that grows downwards. -/
def addDown (least : Int) (n : Int) : List Char → Except Fault Int
  | [] => .ok n
  | c :: cs =>
    if !c.isDigit then .error .invalidDigit
    else if 10 * n - digitValue c < least then .error .tooSmall
    else addDown least (10 * n - digitValue c) cs

/-- The number of a range that a text denotes. -/
def read (r : Range) : List Char → Except Fault Int
  | [] => .error .empty
  | ['+'] => .error .invalidDigit
  | ['-'] => .error .invalidDigit
  | '+' :: cs => addUp r.greatest 0 cs
  | '-' :: cs => if r.signed then addDown r.least 0 cs else .error .invalidDigit
  | cs => addUp r.greatest 0 cs

end Numeral

end TaskCrew.Decimal
