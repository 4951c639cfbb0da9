import TaskCrew.Crew.Log
import TaskCrew.Pattern.Reader
import TaskCrew.Telemetry.Verbosity

/-!
# Directives for log entries

A directive says how much is logged of a topic, under labels, or of what has a field. It is
written as `topic[label{field=value}]=level`, and every part may be missing.

* `ValueTest` — what is asked of the value of a field;
* `Directive` — the parts of a directive;
* `Directive.read` — the directive that a text stands for, or why it stands for none;
* `Directive.coversEntry`, `Directive.coversLabel`, `Directive.holdsFor` — what a directive is
  about.

**Design.** Blanks may surround a directive. Its signs are looked for without the blanks before
it, but the parts are cut out of the text with them, at as many bytes from its start. So blanks in
front shift every part, and a cut may fall within a character.
-/

namespace TaskCrew

/-! ## Tests of values -/

/-- What is asked of the value of a field. -/
inductive ValueTest
  | number (n : UInt64)
  /-- To be a text at whose end the first match of a written pattern ends. -/
  | text (written : List Char) (pattern : Pattern)
  /-- To be of a kind that no field is of. -/
  | never
  deriving DecidableEq, Repr

namespace ValueTest

/-- Whether a text is a decimal number, perhaps with a point and an exponent. -/
def isDecimal (cs : List Char) : Bool :=
  let unsigned : List Char → List Char
    | '+' :: cs | '-' :: cs => cs
    | cs => cs
  let cs := unsigned cs
  let word := cs.map Char.toLower
  if word = "inf".toList ∨ word = "infinity".toList ∨ word = "nan".toList then true
  else
    let whole := cs.takeWhile Char.isDigit
    let (places, rest) := match cs.dropWhile Char.isDigit with
      | '.' :: cs => (cs.takeWhile Char.isDigit, cs.dropWhile Char.isDigit)
      | cs => ([], cs)
    (!whole.isEmpty || !places.isEmpty) &&
      match rest with
      | [] => true
      | 'e' :: cs | 'E' :: cs =>
        let power := unsigned cs
        !power.isEmpty && power.all Char.isDigit
      | _ => false

/-- The test that a text stands for: a number, a truth value, or else a pattern. -/
def read? (text : List Char) : Option ValueTest :=
  if text = "true".toList ∨ text = "false".toList then some .never
  else match Decimal.Numeral.read .count text with
    | .ok n => some (.number (UInt64.ofNat n.toNat))
    | .error _ =>
      if isDecimal text then some .never
      else (Pattern.read? text).map (.text text)

def holds : ValueTest → FieldValue → Bool
  | .number n, .number m => n == m
  | .text _ p, .text s => p.isMatch s
  | _, _ => false

end ValueTest

/-! ## Directives -/

/-- How much is logged of a topic, under labels, or of what has a field. -/
structure Directive where
  /-- What topics begin with; nothing is for all. -/
  topic : Option (List Char)
  label : Option (List Char)
  /-- The name of a field, and perhaps a test of its value. -/
  field : Option (List Char × Option ValueTest)
  verbosity : Verbosity
  deriving DecidableEq, Repr

namespace Directive

/-- Why a text stands for no directive. -/
inductive Fault
  | malformed
  /-- A cut falls within a character. -/
  | splitCharacter
  deriving DecidableEq, Repr

/-- Whether a directive that does not begin with a bracket may begin with a character. -/
def mayBegin (c : Char) : Bool :=
  c == '-' || c == ':' || c == '_' || Text.isAlphanumeric c

def bytes : List Char → Nat
  | [] => 0
  | c :: cs => c.utf8Size + bytes cs

/-- What follows the first bytes of a text. -/
def dropBytes : Nat → List Char → Except Fault (List Char)
  | 0, cs => .ok cs
  | _ + 1, [] => .error .splitCharacter
  | n + 1, c :: cs =>
    if c.utf8Size ≤ n + 1 then dropBytes (n + 1 - c.utf8Size) cs else .error .splitCharacter

def takeBytes : Nat → List Char → Except Fault (List Char)
  | 0, _ => .ok []
  | _ + 1, [] => .error .splitCharacter
  | n + 1, c :: cs =>
    if c.utf8Size ≤ n + 1 then (takeBytes (n + 1 - c.utf8Size) cs).map (c :: ·)
    else .error .splitCharacter

/-- The part of a text that begins after some bytes and takes some bytes. -/
def cut (text : List Char) (start size : Nat) : Except Fault (List Char) :=
  match dropBytes start text with
  | .ok rest => takeBytes size rest
  | .error f => .error f

/-- The value, or that the text is not understood. -/
def understood {α : Type} : Option α → Except Fault α
  | some a => .ok a
  | none => .error .malformed

/-- The verbosity after an equals sign, from some byte of the text on; none is everything. -/
def readVerbosity (text : List Char) (start : Nat) : Except Fault Verbosity :=
  match dropBytes start text with
  | .error f => .error f
  | .ok [] => .ok .everything
  | .ok rest => understood (Verbosity.read? rest)

/-- The verbosity after the closing bracket, which is at the start of `cs` and at some byte of the
text. -/
def readEnd (text : List Char) (start : Nat) (cs : List Char) : Except Fault Verbosity :=
  match cs with
  | [']'] => .ok .everything
  | ']' :: '=' :: _ => readVerbosity text (start + 2)
  | _ => .error .malformed

/-- The field that a text asks for, with the test of its value behind an equals sign. -/
def readField (text : List Char) : Except Fault (List Char × Option ValueTest) :=
  let name := text.takeWhile (· != '=')
  match text, text.dropWhile (· != '=') with
  | [], _ => .error .malformed
  | _, [] => .ok (name, none)
  | _, _ :: value =>
    match ValueTest.read? (value.takeWhile (· != '=')) with
    | some test => .ok (name, some test)
    | none => .error .malformed

/-- The directive of a topic whose label begins with `cs` and at some byte of the text. -/
def readLabel (topic : Option (List Char)) (text : List Char) (start : Nat) (cs : List Char) :
    Except Fault Directive :=
  let name := cs.takeWhile fun c => c != ']' && c != '\x7b'
  let afterName := start + bytes name
  match cs.dropWhile fun c => c != ']' && c != '\x7b' with
  | [] => .error .malformed
  | '\x7b' :: rest => do
    let label ← cut text start (bytes name)
    let shown := rest.takeWhile (· != '\x7d')
    let afterField := afterName + 1 + bytes shown
    match rest.dropWhile (· != '\x7d') with
    | [] => .error .malformed
    | _ :: rest =>
      let field ← readField (← cut text (afterName + 1) (bytes shown))
      let verbosity ← readEnd text (afterField + 1) rest
      return ⟨topic, if label.isEmpty then none else some label, some field, verbosity⟩
  | rest => do
    let label ← cut text start (bytes name)
    let verbosity ← readEnd text afterName rest
    return ⟨topic, some label, none, verbosity⟩

/-- The directive that a text stands for. -/
def read (text : List Char) : Except Fault Directive :=
  match Text.trim text with
  | [] => .error .malformed
  | '[' :: rest => readLabel none text 1 rest
  | c :: cs =>
    let name := (c :: cs).takeWhile fun c => c != '=' && c != '['
    if !mayBegin c then .error .malformed
    else match (c :: cs).dropWhile fun c => c != '=' && c != '[' with
      | [] =>
        match Verbosity.read? text with
        | some v => .ok ⟨none, none, none, v⟩
        | none => .ok ⟨some text, none, none, .everything⟩
      | '=' :: _ => do
        let topic ← cut text 0 (bytes name)
        return ⟨some topic, none, none, ← readVerbosity text (bytes name + 1)⟩
      | _ :: rest => do
        let topic ← cut text 0 (bytes name)
        readLabel (some topic) text (bytes name + 1) rest

/-! ## What directives are about -/

/-- The name of the field that is asked for. -/
def fieldName? (d : Directive) : Option (List Char) :=
  d.field.map (·.1)

/-- The test of the value of the field. -/
def test? (d : Directive) : Option ValueTest :=
  d.field.bind (·.2)

/-- Whether a directive is for a topic. -/
def coversTopic (d : Directive) (topic : String) : Bool :=
  d.topic.all fun start => start.isPrefixOf topic.toList

/-- Whether a directive is for what carries these names. -/
def coversFields (d : Directive) (names : List String) : Bool :=
  d.fieldName?.all fun name => names.contains (String.ofList name)

/-- Whether a directive is for an entry as such. -/
def coversEntry (d : Directive) (n : Notice) : Bool :=
  d.label.isNone && d.test?.isNone && d.coversTopic n.topic && d.coversFields n.carried

/-- Whether a directive is for what is logged under a kind of labels. -/
def coversLabel (d : Directive) (l : RunLabel) : Bool :=
  (d.label.isSome || d.field.isSome) && d.coversTopic RunLabel.topic &&
    d.label.all (· == RunLabel.name.toList) && d.coversFields (l.fields.map (·.1))

/-- Whether the values of a label pass the test of a directive. -/
def holdsFor (d : Directive) (l : RunLabel) : Bool :=
  match d.field with
  | some (name, some test) => (l.fields.lookup (String.ofList name)).any test.holds
  | _ => true

/-- Two directives are about the same, so the later one replaces the earlier one. -/
def sameSubject (d e : Directive) : Bool :=
  d.topic == e.topic && d.label == e.label && d.field == e.field

/-- How special a directive is among those for an entry: the longer its topic the more, then with a
field more than without, and then by the order of the field names. -/
def isAtLeastAsSpecial (d e : Directive) : Bool :=
  let length (d : Directive) : Nat := (d.topic.map fun t => t.length + 1).getD 0
  length e < length d || (length d == length e &&
    match e.fieldName?, d.fieldName? with
    | none, _ => true
    | some _, none => false
    | some a, some b => String.ofList a ≤ String.ofList b)

end Directive

end TaskCrew
