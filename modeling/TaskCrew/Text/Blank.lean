/-!
# Blank characters

The characters with the Unicode property `White_Space`, and trimming by them.

* `isBlank` — the property;
* `trimStart`, `trimEnd`, `trim` — a text without the blanks at its start, its end or both.

Every blank of core's ASCII class is blank here (`isBlank_of_isWhitespace`).
-/

namespace TaskCrew.Text

/-- The Unicode property `White_Space`. -/
def isBlank (c : Char) : Bool :=
  let n := c.toNat
  (9 ≤ n && n ≤ 13) || n == 32 || n == 0x85 || n == 0xa0 || n == 0x1680 ||
    (0x2000 ≤ n && n ≤ 0x200a) || n == 0x2028 || n == 0x2029 || n == 0x202f || n == 0x205f ||
    n == 0x3000

/-- The text without the blanks at its start. -/
def trimStart (cs : List Char) : List Char :=
  cs.dropWhile isBlank

/-- The text without the blanks at its end. -/
def trimEnd (cs : List Char) : List Char :=
  (cs.reverse.dropWhile isBlank).reverse

/-- The text without the blanks at its start and its end. -/
def trim (cs : List Char) : List Char :=
  trimEnd (trimStart cs)

/-- Every blank of the ASCII class is blank. -/
theorem isBlank_of_isWhitespace {c : Char} (h : c.isWhitespace = true) : isBlank c = true := by
  simp only [Char.isWhitespace, Bool.or_eq_true, decide_eq_true_eq] at h
  rcases h with ((rfl | rfl) | rfl) | rfl <;> decide

end TaskCrew.Text
