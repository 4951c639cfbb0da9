import TaskCrew.Json.Value

/-!
# The grammar of documents

A document is a tree that is written down: every token has its spelling, and blanks stand wherever
they may. Reading a document is compared with the tree that it was written from.

* `Blank` — blanks between tokens;
* `Glyph`, `chars?` — how a text value is spelled, and the characters it stands for, if it is Unicode;
* `Numeral`, `Numeral.integer?` — how a number is spelled, and the integer it denotes, if it is spelled
  as one;
* `Scalar`, `Padded`, `Member`, `Value` — values of any depth, with the blanks around their tokens;
* `Value.write` — the text of a value, and `Value.induct`, induction over its parts.

Whatever a tree is, its text is well formed, so nothing here can fail: there are no trees for anything
else. What a document must not contain to be read is a matter of what its values are wanted for.
-/

namespace TaskCrew.Json

/-! ## Blanks -/

/-- Characters that separate tokens, any number of them. -/
structure Blank where
  text : List Char
  separates : ∀ c ∈ text, isSeparator c = true

def Blank.none : Blank :=
  ⟨[], by simp⟩

/-! ## Text values -/

/-- A hexadecimal digit. -/
structure HexDigit where
  value : Fin 16
  upper : Bool := false

def HexDigit.char (d : HexDigit) : Char :=
  if d.value < 10 then Char.ofNat (48 + d.value)
  else Char.ofNat ((if d.upper then 55 else 87) + d.value)

/-- A code of four hexadecimal digits. -/
structure HexCode where
  first : HexDigit
  second : HexDigit
  third : HexDigit
  fourth : HexDigit

namespace HexCode

def chars (n : HexCode) : List Char :=
  [n.first.char, n.second.char, n.third.char, n.fourth.char]

def value (n : HexCode) : Nat :=
  4096 * n.first.value + 256 * n.second.value + 16 * n.third.value + n.fourth.value

end HexCode

/-- The escapes of one letter. -/
inductive Escape
  | quote
  | backslash
  | slash
  | backspace
  | formFeed
  | lineFeed
  | carriageReturn
  | tab
  deriving DecidableEq, Repr

namespace Escape

/-- The letter after the backslash. -/
def letter : Escape → Char
  | quote => '"'
  | backslash => '\\'
  | slash => '/'
  | backspace => 'b'
  | formFeed => 'f'
  | lineFeed => 'n'
  | carriageReturn => 'r'
  | tab => 't'

/-- The character that the escape stands for. -/
def char : Escape → Char
  | quote => '"'
  | backslash => '\\'
  | slash => '/'
  | backspace => '\x08'
  | formFeed => '\x0c'
  | lineFeed => '\n'
  | carriageReturn => '\r'
  | tab => '\t'

end Escape

/-- A character that can stand for itself in a text value. -/
def IsPlain (c : Char) : Prop :=
  c ≠ '"' ∧ c ≠ '\\' ∧ 32 ≤ c.toNat

/-- One sign in the spelling of a text value. -/
inductive Glyph
  | plain (c : Char) (plain : IsPlain c)
  | escape (e : Escape)
  | code (n : HexCode)

def Glyph.write : Glyph → List Char
  | .plain c _ => [c]
  | .escape e => ['\\', e.letter]
  | .code n => '\\' :: 'u' :: n.chars

/-- A spelled text value between quotes. -/
def writeGlyphs (gs : List Glyph) : List Char :=
  '"' :: gs.flatMap Glyph.write ++ ['"']

/-- The characters that a spelling stands for, unless a surrogate in it is not part of a pair. -/
def chars? : List Glyph → Option (List Char)
  | [] => some []
  | .plain c _ :: gs => (chars? gs).map (c :: ·)
  | .escape e :: gs => (chars? gs).map (e.char :: ·)
  | .code n :: gs =>
    if isTrailingSurrogate n.value then none
    else if isLeadingSurrogate n.value then
      match gs with
      | .code m :: gs =>
        if isTrailingSurrogate m.value then
          (chars? gs).map
            (Char.ofNat (0x10000 + 1024 * (n.value - 0xd800) + (m.value - 0xdc00)) :: ·)
        else none
      | _ => none
    else (chars? gs).map (Char.ofNat n.value :: ·)

/-! ## Numbers -/

/-- Digits, at least one. -/
structure Digits where
  text : List Char
  ne_nil : text ≠ []
  isDigit : ∀ c ∈ text, c.isDigit = true

def writeFraction : Option Digits → List Char
  | none => []
  | some ds => '.' :: ds.text

/-- The exponent part of a number. -/
structure Exponent where
  capital : Bool
  /-- The sign, if there is one; it may be a minus. -/
  sign : Option Bool
  digits : Digits

/-- The exponent after its letter. -/
def Exponent.signed (e : Exponent) : List Char :=
  match e.sign with
  | none => e.digits.text
  | some false => '+' :: e.digits.text
  | some true => '-' :: e.digits.text

def writeExponent : Option Exponent → List Char
  | none => []
  | some e => (if e.capital then 'E' else 'e') :: e.signed

/-- A number as it is spelled. -/
structure Numeral where
  negative : Bool
  integer : Digits
  /-- Only zero itself begins with a zero. -/
  leading : ∀ ds, integer.text = '0' :: ds → ds = []
  fraction : Option Digits
  exponent : Option Exponent

namespace Numeral

/-- What follows the integer digits. -/
def tail (x : Numeral) : List Char :=
  writeFraction x.fraction ++ writeExponent x.exponent

/-- The number without its sign. -/
def unsigned (x : Numeral) : List Char :=
  x.integer.text ++ x.tail

def write (x : Numeral) : List Char :=
  if x.negative then '-' :: x.unsigned else x.unsigned

def magnitude (x : Numeral) : Nat :=
  Decimal.value x.integer.text

/-- The integer that is spelled, if there is neither a fraction nor an exponent; minus zero is none. -/
def integer? (x : Numeral) : Option Int :=
  if x.fraction.isSome ∨ x.exponent.isSome ∨ (x.negative ∧ x.magnitude = 0) then none
  else some (if x.negative then -x.magnitude else x.magnitude)

end Numeral

/-! ## Values -/

/-- A value without brackets. -/
inductive Scalar
  | null
  | bool (b : Bool)
  | number (x : Numeral)
  | text (gs : List Glyph)

def Scalar.write : Scalar → List Char
  | .null => ['n', 'u', 'l', 'l']
  | .bool true => ['t', 'r', 'u', 'e']
  | .bool false => ['f', 'a', 'l', 's', 'e']
  | .number x => x.write
  | .text gs => writeGlyphs gs

/-! ### What values without brackets can be taken for -/

/-- The integer that is spelled, if it lies within a range. -/
def Numeral.within? (r : Decimal.Range) (x : Numeral) : Option Int :=
  x.integer?.filter fun i => r.least ≤ i ∧ i ≤ r.greatest

namespace Scalar

def count? : Scalar → Option UInt64
  | .number x => (x.within? .count).map fun i => UInt64.ofNat i.toNat
  | _ => none

def integer? : Scalar → Option Int64
  | .number x => (x.within? .integer).map Int64.ofInt
  | _ => none

/-- A count, or the null value for none. -/
def countOrNull? : Scalar → Option (Option UInt64)
  | .null => some none
  | x => x.count?.map some

def string? : Scalar → Option String
  | .text gs => (chars? gs).map String.ofList
  | _ => none

end Scalar

/-! ### Values of any depth -/

/-- Something with the blanks before and after it. -/
structure Padded (α : Type) where
  before : Blank
  item : α
  after : Blank

def Padded.write {α : Type} (f : α → List Char) (x : Padded α) : List Char :=
  x.before.text ++ f x.item ++ x.after.text

/-- A member of an object. -/
structure Member (α : Type) where
  key : Padded (List Glyph)
  value : Padded α

def Member.write {α : Type} (f : α → List Char) (m : Member α) : List Char :=
  m.key.write writeGlyphs ++ ':' :: m.value.write f

/-- A value of any depth. The last gap of a list or an object stands before its end. -/
inductive Value
  | scalar (x : Scalar)
  | list (elements : List (Padded Value)) (gap : Blank)
  | object (members : List (Member Value)) (gap : Blank)

/-- Parts with commas between them. -/
def separated (parts : List (List Char)) : List Char :=
  List.intercalate [','] parts

theorem sizeOf_item_lt {es : List (Padded Value)} {e : Padded Value} (h : e ∈ es) :
    sizeOf e.item < sizeOf es := by
  have lt := List.sizeOf_lt_of_mem h
  obtain ⟨before, item, after⟩ := e
  simp only [Padded.mk.sizeOf_spec] at lt ⊢
  omega

theorem sizeOf_value_lt {ms : List (Member Value)} {m : Member Value} (h : m ∈ ms) :
    sizeOf m.value.item < sizeOf ms := by
  have lt := List.sizeOf_lt_of_mem h
  obtain ⟨key, before, item, after⟩ := m
  simp only [Member.mk.sizeOf_spec, Padded.mk.sizeOf_spec] at lt ⊢
  omega

namespace Value

def write : Value → List Char
  | .scalar x => x.write
  | .list es gap =>
    '[' :: separated (es.map fun e => e.before.text ++ e.item.write ++ e.after.text) ++
      gap.text ++ [']']
  | .object ms gap =>
    '\x7b' :: separated (ms.map fun m => m.key.write writeGlyphs ++
      ':' :: (m.value.before.text ++ m.value.item.write ++ m.value.after.text)) ++
      gap.text ++ ['\x7d']
  termination_by v => sizeOf v
  decreasing_by
  · have := sizeOf_item_lt ‹_›
    simp only [Value.list.sizeOf_spec]
    omega
  · have := sizeOf_value_lt ‹_›
    simp only [Value.object.sizeOf_spec]
    omega

theorem write_scalar (x : Scalar) : (scalar x).write = x.write := by
  rw [write]

theorem write_list (es : List (Padded Value)) (gap : Blank) :
    (list es gap).write =
      '[' :: separated (es.map (·.write write)) ++ gap.text ++ [']'] := by
  rw [write]
  rfl

theorem write_object (ms : List (Member Value)) (gap : Blank) :
    (object ms gap).write =
      '\x7b' :: separated (ms.map (·.write write)) ++ gap.text ++ ['\x7d'] := by
  rw [write]
  rfl

/-- What holds of a value whenever it holds of the values within it holds of every value. -/
@[elab_as_elim]
theorem induct {motive : Value → Prop} (scalar : ∀ x, motive (.scalar x))
    (list : ∀ es gap, (∀ e ∈ es, motive e.item) → motive (.list es gap))
    (object : ∀ ms gap, (∀ m ∈ ms, motive m.value.item) → motive (.object ms gap)) :
    ∀ v, motive v
  | .scalar x => scalar x
  | .list es gap => list es gap fun e _ => induct scalar list object e.item
  | .object ms gap => object ms gap fun m _ => induct scalar list object m.value.item
  termination_by v => sizeOf v
  decreasing_by
  · have := sizeOf_item_lt ‹_›
    simp only [Value.list.sizeOf_spec]
    omega
  · have := sizeOf_value_lt ‹_›
    simp only [Value.object.sizeOf_spec]
    omega

end Value

end TaskCrew.Json
