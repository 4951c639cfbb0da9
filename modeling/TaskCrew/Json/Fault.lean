import TaskCrew.Text.Quoted
import TaskCrew.Decimal.Shortest

/-!
# Faults of a document

What can be wrong with a document, where, and how it is said.

* `Json.Place`, `Json.Place.after` — lines and columns of a text, counted in bytes;
* `Json.Cause`, `Json.Cause.message` — what is wrong;
* `Json.Fault` — a cause together with the text that was still unread;
* `Json.Fault.message` — the wording with the place.

**Design.** A reader works on the list of unread characters and knows no positions. A fault keeps
the unread text, and a number of bytes beyond it, from which the place is computed once, against the
whole text: a character outside ASCII takes several bytes, and a fault may lie after the first.
-/

namespace TaskCrew.Json

/-! ## Places -/

/-- A place in a text. -/
structure Place where
  /-- The line, counted from one. -/
  line : Nat
  /-- How many bytes of the line lie before the place. -/
  column : Nat
  deriving DecidableEq, Repr

def byteCount (cs : List Char) : Nat :=
  cs.foldl (fun n c => n + c.utf8Size) 0

def Place.advance (p : Place) : Nat → List Char → Place
  | 0, _ => p
  | _, [] => p
  | bytes + 1, c :: cs =>
    if c = '\n' then Place.advance ⟨p.line + 1, 0⟩ bytes cs
    else if c.utf8Size ≤ bytes + 1 then
      Place.advance ⟨p.line, p.column + c.utf8Size⟩ (bytes + 1 - c.utf8Size) cs
    else ⟨p.line, p.column + bytes + 1⟩

/-- The place after the first `bytes` bytes of a text. -/
def Place.after (text : List Char) (bytes : Nat) : Place :=
  Place.advance ⟨1, 0⟩ bytes text

/-! ## Causes -/

/-- What stands where something else was wanted. -/
inductive Found
  | null
  | bool (value : Bool)
  | integer (value : Int)
  | float (value : Float)
  | text (value : String)
  | list
  | object

/-- How the thing that was found is named. -/
def Found.message : Found → String
  | .null => "null"
  | .bool b => "boolean `" ++ toString b ++ "`"
  | .integer n => "integer `" ++ toString n ++ "`"
  | .float x => "floating point `" ++ Decimal.shown x ++ "`"
  | .text s => "string " ++ Text.quoted s
  | .list => "sequence"
  | .object => "map"

/-- What is wanted at a place of a document. -/
inductive Wanted
  | count
  | integer
  | text
  | config
  deriving DecidableEq, Repr

/-- How the thing that is wanted is named. -/
def Wanted.message : Wanted → String
  | .count => "usize"
  | .integer => "i64"
  | .text => "a string"
  | .config => "struct RunConfig"

/-- What is wrong with a document. -/
inductive Cause
  /-- The text ends where a value should stand or in the middle of one. -/
  | endInValue
  /-- The text ends within a text value. -/
  | endInText
  | endInList
  | endInObject
  | expectedColon
  /-- After an element stands neither a comma nor the end of the list. -/
  | expectedListEnd
  /-- After a member stands neither a comma nor the end of the object. -/
  | expectedObjectEnd
  | expectedLiteral
  | expectedValue
  /-- A backslash is followed by no escape. -/
  | invalidEscape
  | invalidNumber
  /-- A number is too large for a floating point number. -/
  | numberOutOfRange
  /-- A control character stands in a text value. -/
  | controlCharacter
  /-- The key of a member is no text value. -/
  | keyNotText
  /-- A surrogate is not part of a pair. -/
  | loneSurrogate
  /-- A leading surrogate is not followed by an escape of a code. -/
  | missingSurrogate
  /-- A comma is followed by the end of its list or object. -/
  | trailingComma
  | trailingCharacters
  | wrongType (found : Found) (wanted : Wanted)
  /-- A value has the right type and is out of range. -/
  | wrongValue (found : Found) (wanted : Wanted)
  | duplicate (key : String)

def Cause.message : Cause → String
  | .endInValue => "EOF while parsing a value"
  | .endInText => "EOF while parsing a string"
  | .endInList => "EOF while parsing a list"
  | .endInObject => "EOF while parsing an object"
  | .expectedColon => "expected `:`"
  | .expectedListEnd => "expected `,` or `]`"
  | .expectedObjectEnd => "expected `,` or `\x7d`"
  | .expectedLiteral => "expected ident"
  | .expectedValue => "expected value"
  | .invalidEscape => "invalid escape"
  | .invalidNumber => "invalid number"
  | .numberOutOfRange => "number out of range"
  | .controlCharacter => "control character (\\u0000-\\u001F) found while parsing a string"
  | .keyNotText => "key must be a string"
  | .loneSurrogate => "lone leading surrogate in hex escape"
  | .missingSurrogate => "unexpected end of hex escape"
  | .trailingComma => "trailing comma"
  | .trailingCharacters => "trailing characters"
  | .wrongType found wanted => "invalid type: " ++ found.message ++ ", expected " ++ wanted.message
  | .wrongValue found wanted =>
    "invalid value: " ++ found.message ++ ", expected " ++ wanted.message
  | .duplicate key => "duplicate field `" ++ key ++ "`"

/-! ## Faults -/

/-- A cause, and where it was noticed: the unread text, and a number of bytes beyond its start. -/
structure Fault where
  cause : Cause
  unread : List Char
  /-- How many bytes of the unread text lie before the place. -/
  beyond : Nat := 0

/-- A fault at the start of the unread text. -/
def Fault.before (cause : Cause) (unread : List Char) : Fault :=
  ⟨cause, unread, 0⟩

/-- A fault after the first byte of the unread text, or at the end if nothing is left. -/
def Fault.past (cause : Cause) (unread : List Char) : Fault :=
  ⟨cause, unread, if unread.isEmpty then 0 else 1⟩

/-- Where a fault lies in the whole text. -/
def Fault.place (f : Fault) (text : List Char) : Place :=
  Place.after text (byteCount text - byteCount f.unread + f.beyond)

/-- The wording of a fault, with its place in the whole text. -/
def Fault.message (f : Fault) (text : List Char) : String :=
  let p := f.place text
  f.cause.message ++ " at line " ++ toString p.line ++ " column " ++ toString p.column

/-- What a reader gives: a value with the text after it, or a fault. -/
abbrev Reading (α : Type) := Except Fault (α × List Char)

end TaskCrew.Json
