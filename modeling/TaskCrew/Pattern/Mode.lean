import TaskCrew.Pattern.Basic
import TaskCrew.Text.Blank

/-!
# What signs of a pattern stand for

The signs of a written pattern mean one thing or another as letters in front of them say.

* `Mode` — what is in force in a part of a pattern, and `Mode.read?`, the letters that change it;
* `Mode.skip` — blanks and comments, which may be in force as well;
* `Mode.literal?`, `Mode.dot?` — what a character and a dot stand for;
* `Sign`, `Mode.readEscape?` — what follows a backslash.

**Design.** Nothing is known of letters and digits beyond ASCII. So a pattern for any character may
not ask for letters, digits or words, or for any case; one for ASCII alone may, but it may not ask
for whatever is not in a set.
-/

namespace TaskCrew.Pattern

/-- What is in force in a part of a pattern. -/
structure Mode where
  /-- Letters stand for themselves in any case. -/
  anyCase : Bool := false
  /-- Lines have starts and ends of their own. -/
  manyLines : Bool := false
  /-- The dot stands for a line end too. -/
  dotAll : Bool := false
  /-- Repetitions are short, and long if marked. -/
  swapped : Bool := false
  /-- Sets are of ASCII characters only. -/
  ascii : Bool := false
  /-- A carriage return may end lines. -/
  crlf : Bool := false
  /-- Blanks and comments may stand between signs. -/
  spaced : Bool := false
  deriving DecidableEq, Repr

namespace Mode

/-! ## Changing the mode -/

/-- The mode with what a letter names switched on or off. -/
def set? (m : Mode) (letter : Char) (on : Bool) : Option Mode :=
  match letter with
  | 'i' => some { m with anyCase := on }
  | 'm' => some { m with manyLines := on }
  | 's' => some { m with dotAll := on }
  | 'U' => some { m with swapped := on }
  | 'u' => some { m with ascii := !on }
  | 'R' => some { m with crlf := on }
  | 'x' => some { m with spaced := on }
  | _ => none

/-- The mode after letters and a colon or a closing parenthesis, with that sign. Letters behind a
dash are switched off; no sign may come twice, and the dash not last. -/
def readFrom? (m : Mode) (on : Bool) (seen : List Char) :
    List Char → Option (Mode × Char × List Char)
  | [] => none
  | c :: cs =>
    if c = ':' ∨ c = ')' then
      if seen.head? = some '-' then none else some (m, c, cs)
    else if seen.contains c then none
    else if c = '-' then m.readFrom? false (c :: seen) cs
    else match m.set? c on with
      | none => none
      | some m => m.readFrom? on (c :: seen) cs

/-- The mode after what stands behind a question mark in a parenthesis. -/
def read? (m : Mode) (cs : List Char) : Option (Mode × Char × List Char) :=
  if cs.head? = some ')' then none else m.readFrom? true [] cs

/-! ## Blanks and comments -/

/-- The text after blanks and comments; a comment goes on to the end of its line. -/
def skipSpace (inComment : Bool) : List Char → List Char
  | [] => []
  | c :: cs =>
    if inComment then skipSpace (c != '\n') cs
    else if Text.isBlank c then skipSpace false cs
    else if c = '#' then skipSpace true cs
    else c :: cs

/-- The text after blanks and comments, if they may stand there. -/
def skip (m : Mode) (cs : List Char) : List Char :=
  if m.spaced then skipSpace false cs else cs

/-- The first character that is no blank and does not begin a comment. -/
def peekSpace (inComment : Bool) : List Char → Option Char
  | [] => none
  | c :: cs =>
    if Text.isBlank c then peekSpace inComment cs
    else if !inComment && c == '#' then peekSpace true cs
    else some c

/-- The next character, past blanks if they may stand there. -/
def peek (m : Mode) (cs : List Char) : Option Char :=
  if m.spaced then peekSpace false cs else cs.head?

/-! ## Characters, dots and line ends -/

/-- What a character that has no meaning of its own stands for. -/
def literal? (m : Mode) (c : Char) : Option CharSet :=
  if !m.anyCase then some (.single c)
  else if m.ascii then some (.anyCase (.single c))
  else none

def dot? (m : Mode) : Option CharSet :=
  if m.ascii then none
  else if m.dotAll then some .all
  else if m.crlf then some (.complement (.ofRanges [('\n', '\n'), ('\r', '\r')]))
  else some (.complement (.single '\n'))

def start (m : Mode) : Anchor :=
  if m.manyLines then .lineStart m.crlf else .textStart

def finish (m : Mode) : Anchor :=
  if m.manyLines then .lineEnd m.crlf else .textEnd

end Mode

/-! ## Behind a backslash -/

/-- What a sign stands for. -/
inductive Sign
  /-- A character. -/
  | char (c : Char)
  /-- A set. -/
  | set (s : CharSet)
  /-- An anchor. -/
  | anchor (a : Anchor)
  deriving DecidableEq, Repr

def hexDigit? (c : Char) : Option Nat :=
  if c.isDigit then some (c.toNat - '0'.toNat)
  else if 'a' ≤ c ∧ c ≤ 'f' then some (c.toNat - 'a'.toNat + 10)
  else if 'A' ≤ c ∧ c ≤ 'F' then some (c.toNat - 'A'.toNat + 10)
  else none

namespace Mode

/-- The value of so many hexadecimal digits after those of a value. -/
def readHex? (m : Mode) (value : Nat) : Nat → List Char → Option (Nat × List Char)
  | 0, cs => some (value, cs)
  | _ + 1, [] => none
  | n + 1, c :: cs =>
    match hexDigit? c with
    | none => none
    | some d => m.readHex? (16 * value + d) n (m.skip cs)

/-- The character of so many hexadecimal digits. -/
def readCode? (m : Mode) (size : Nat) (cs : List Char) : Option (Sign × List Char) :=
  match m.readHex? 0 size (m.skip cs) with
  | none => none
  | some (n, cs) =>
    if ¬ n.isValidChar ∨ (m.ascii ∧ size = 2 ∧ 128 ≤ n) then none
    else some (.char (Char.ofNat n), cs)

/-- What only a pattern for ASCII may ask for. -/
def onlyAscii? (m : Mode) (sign : Sign) (cs : List Char) : Option (Sign × List Char) :=
  if m.ascii then some (sign, cs) else none

/-- What a backslash and the text behind it stand for. Letters and digits without a meaning may not
follow it, and neither may characters beyond ASCII. -/
def readEscape? (m : Mode) : List Char → Option (Sign × List Char)
  | [] => none
  | 'x' :: cs => m.readCode? 2 cs
  | 'u' :: cs => m.readCode? 4 cs
  | 'U' :: cs => m.readCode? 8 cs
  | 'd' :: cs => m.onlyAscii? (.set .digits) cs
  | 's' :: cs => m.onlyAscii? (.set .blanks) cs
  | 'w' :: cs => m.onlyAscii? (.set .words) cs
  | 'b' :: cs => m.onlyAscii? (.anchor .wordEdge) cs
  | 'B' :: cs => m.onlyAscii? (.anchor .noWordEdge) cs
  | '<' :: cs => m.onlyAscii? (.anchor .wordStart) cs
  | '>' :: cs => m.onlyAscii? (.anchor .wordEnd) cs
  | 'A' :: cs => some (.anchor .textStart, cs)
  | 'z' :: cs => some (.anchor .textEnd, cs)
  | 'a' :: cs => some (.char '\x07', cs)
  | 'f' :: cs => some (.char '\x0c', cs)
  | 't' :: cs => some (.char '\t', cs)
  | 'n' :: cs => some (.char '\n', cs)
  | 'r' :: cs => some (.char '\r', cs)
  | 'v' :: cs => some (.char '\x0b', cs)
  | c :: cs => if c.toNat < 128 ∧ ¬ c.isAlphanum then some (.char c, cs) else none

end Mode

end TaskCrew.Pattern
