import TaskCrew.Crew.Notice
import TaskCrew.Decimal.Numeral

/-!
# How much is logged

* `Verbosity` — down to which level entries pass;
* `Verbosity.read?` — the verbosity that a number or a word stands for.
-/

namespace TaskCrew

/-- Down to which level entries pass; without one, none does. -/
structure Verbosity where
  least : Option Level
  deriving DecidableEq, Repr

namespace Verbosity

def rank (v : Verbosity) : Nat :=
  match v.least with
  | some l => l.rank
  | none => 0

def passes (v : Verbosity) (l : Level) : Bool :=
  l.rank ≤ v.rank

def everything : Verbosity := ⟨some .trace⟩

def nothing : Verbosity := ⟨none⟩

def join (v w : Verbosity) : Verbosity :=
  if v.rank ≤ w.rank then w else v

def greatest (vs : List Verbosity) : Verbosity :=
  vs.foldl join nothing

/-- The verbosity that a number stands for. -/
def ofNumber? (n : Int) : Option Verbosity :=
  if n = 0 then some nothing
  else (Level.all.find? fun l => (l.rank : Int) == n).map fun l => ⟨some l⟩

/-- The verbosity that a word stands for, in letters of any case. -/
def ofWord? (word : List Char) : Option Verbosity :=
  let word := word.map Char.toUpper
  if word = "OFF".toList then some nothing
  else (Level.all.find? fun l => l.word.toList == word).map fun l => ⟨some l⟩

/-- The verbosity that a number or a word stands for. -/
def read? (text : List Char) : Option Verbosity :=
  match Decimal.Numeral.read .count text with
  | .ok n => ofNumber? n
  | .error _ => ofWord? text

end Verbosity

end TaskCrew
