/-!
# Sets of characters

* `CharSet`, `CharSet.contains` — a set of characters as a pattern describes it, and membership;
* `CharSet.single`, `CharSet.ofRanges`, … — sets made from these;
* `CharSet.named?` — the sets that have names.

**Design.** A set is a description that is never listed out, so sets of all characters but a few
cost nothing.
-/

namespace TaskCrew

/-- A set of characters. -/
inductive CharSet
  | all
  | range (first last : Char)
  /-- What is in one of two sets. -/
  | union (s t : CharSet)
  /-- What is in both of two sets. -/
  | inter (s t : CharSet)
  | complement (s : CharSet)
  /-- What is in a set up to the case of ASCII letters. -/
  | anyCase (s : CharSet)
  deriving DecidableEq, Repr

namespace CharSet

/-- Whether a character belongs to a set. -/
def contains : CharSet → Char → Bool
  | all, _ => true
  | range first last, c => first ≤ c && c ≤ last
  | union s t, c => s.contains c || t.contains c
  | inter s t, c => s.contains c && t.contains c
  | complement s, c => !s.contains c
  | anyCase s, c => s.contains c || s.contains c.toLower || s.contains c.toUpper

def none : CharSet :=
  complement all

def single (c : Char) : CharSet :=
  range c c

/-- What is in the first set but not in the second. -/
def without (s t : CharSet) : CharSet :=
  inter s (complement t)

/-- What is in one of two sets but not in the other. -/
def either (s t : CharSet) : CharSet :=
  union (s.without t) (t.without s)

/-- The characters from one to another, for each of these pairs. -/
def ofRanges (ranges : List (Char × Char)) : CharSet :=
  ranges.foldr (fun (first, last) s => union (range first last) s) none

def digits : CharSet :=
  range '0' '9'

/-- The ASCII letters, the ASCII digits and the underscore. -/
def words : CharSet :=
  ofRanges [('0', '9'), ('A', 'Z'), ('_', '_'), ('a', 'z')]

def blanks : CharSet :=
  ofRanges [('\t', '\r'), (' ', ' ')]

/-- The set of ASCII characters of a name. -/
def named? (name : String) : Option CharSet :=
  match name with
  | "alnum" => some (ofRanges [('0', '9'), ('A', 'Z'), ('a', 'z')])
  | "alpha" => some (ofRanges [('A', 'Z'), ('a', 'z')])
  | "ascii" => some (range '\x00' '\x7f')
  | "blank" => some (ofRanges [('\t', '\t'), (' ', ' ')])
  | "cntrl" => some (ofRanges [('\x00', '\x1f'), ('\x7f', '\x7f')])
  | "digit" => some digits
  | "graph" => some (range '!' '~')
  | "lower" => some (range 'a' 'z')
  | "print" => some (range ' ' '~')
  | "punct" => some (ofRanges [('!', '/'), (':', '@'), ('[', '`'), ('\x7b', '~')])
  | "space" => some blanks
  | "upper" => some (range 'A' 'Z')
  | "word" => some words
  | "xdigit" => some (ofRanges [('0', '9'), ('A', 'F'), ('a', 'f')])
  | _ => Option.none

theorem contains_none (c : Char) : none.contains c = false := rfl

theorem contains_single (c d : Char) : (single c).contains d = true ↔ d = c := by
  simp only [single, contains, Bool.and_eq_true, decide_eq_true_eq]
  constructor
  · exact fun h => Char.le_antisymm h.2 h.1
  · rintro rfl
    exact ⟨Char.le_refl _, Char.le_refl _⟩

end CharSet

end TaskCrew
