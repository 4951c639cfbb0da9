/-!
# Environments

* `Environment` — variables with their values, of which some may be no text;
* `Environment.text?` — the text of a variable;
* `Environment.textAt?` — the text that a name leads to, in which equals signs may be;
* `Environment.set` — the environment with one variable set.

What `set` does to the texts is said by `text?_set_self` and `text?_set_of_ne`.
-/

namespace TaskCrew

/-- The value of a variable. -/
inductive Environment.Value
  | text (s : String)
  | raw (bytes : List UInt8)
  deriving DecidableEq, Repr

/-- Variables with their values. -/
structure Environment where
  /-- The names with the values; the first entry of a name counts. -/
  entries : List (String × Environment.Value)

namespace Environment

def Value.ofBytes (bytes : List UInt8) : Value :=
  match String.fromUTF8? (ByteArray.mk bytes.toArray) with
  | some s => .text s
  | none => .raw bytes

def Value.text? : Value → Option String
  | .text s => some s
  | .raw _ => none

def value? (e : Environment) (name : String) : Option Value :=
  e.entries.lookup name

/-- The text of a variable; one that is unset or no text has none. -/
def text? (e : Environment) (name : String) : Option String :=
  (e.value? name).bind Value.text?

/-- What follows a text at the start of another one. -/
def after? : List Char → List Char → Option (List Char)
  | [], cs => some cs
  | _ :: _, [] => none
  | x :: xs, c :: cs => if x = c then after? xs cs else none

/-- The text that a name leads to. The entries of an environment are a name, an equals sign and a
text, so a name with an equals sign in it leads to the rest of an entry that begins like it. -/
def textAt? (e : Environment) (name : List Char) : Option String :=
  let variableName := String.ofList (name.takeWhile (· != '='))
  match name.dropWhile (· != '=') with
  | [] => e.text? variableName
  | _ :: more =>
    (e.text? variableName).bind fun text =>
      (after? (more ++ ['=']) text.toList).map String.ofList

/-- The environment with a variable set to a text. -/
def set (e : Environment) (name : String) (text : String) : Environment :=
  ⟨(name, .text text) :: e.entries.filter fun entry => entry.1 != name⟩

theorem value?_set_self (e : Environment) (name text : String) :
    (e.set name text).value? name = some (.text text) := by
  simp [set, value?]

theorem value?_set_of_ne {e : Environment} {name other : String} (text : String)
    (h : other ≠ name) : (e.set name text).value? other = e.value? other := by
  have hb : (other == name) = false := by simpa using h
  simp only [set, value?, List.lookup_cons, hb]
  induction e.entries with
  | nil => rfl
  | cons entry entries ih =>
    obtain ⟨k, v⟩ := entry
    by_cases hk : k = name
    · subst hk; simpa [List.lookup_cons, hb] using ih
    · have : (k != name) = true := by simpa using hk
      simp only [List.filter_cons, this, if_true, List.lookup_cons, ih]

theorem text?_set_self (e : Environment) (name text : String) :
    (e.set name text).text? name = some text := by
  simp [text?, value?_set_self, Value.text?]

theorem text?_set_of_ne {e : Environment} {name other : String} (text : String)
    (h : other ≠ name) : (e.set name text).text? other = e.text? other := by
  simp [text?, value?_set_of_ne text h]

end Environment

end TaskCrew
