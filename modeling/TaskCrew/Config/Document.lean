import TaskCrew.Config.Basic
import TaskCrew.Json.Value

/-!
# Configurations as documents

A configuration is written as an object with one member for each field, and read from an object or
from a list of values in the order of the fields.

* `readSetting` — the value of a field;
* `readMembers` — the members of an object: unknown keys are passed over, a known key comes at most
  once, and members may come in any order;
* `readElements` — the elements of a list, at most one for each field;
* `readSettings` — the settings that a whole document gives;
* `ofJson` — the configuration that a document describes on a machine, or why there is none;
* `toJson` — the configuration as a document.

**Design.** A document yields settings, which are applied to the default configuration of the machine,
so whatever is missing keeps its default. Keys are compared after their escapes are resolved. A fault at a
repeated key is placed behind the blanks after the key, and behind the end of the object if that
comes next.
-/

namespace TaskCrew

open Json

def readSetting (f : Config.Field) (cs : List Char) : Reading Setting :=
  match f with
  | .workerCount => (readCount cs).map fun (n, rest) => (.workerCount n, rest)
  | .errorLimit => (readInteger cs).map fun (n, rest) => (.errorLimit n, rest)
  | .queueCapacity => (readCount? cs).map fun (n, rest) => (.queueCapacity n, rest)
  | .threadStackSize => (readCount cs).map fun (n, rest) => (.threadStackSize n, rest)
  | .threadNamePrefix => (readName cs).map fun (text, rest) => (.threadNamePrefix text, rest)

theorem readSetting_length {f : Config.Field} {cs rest : List Char} {s : Setting}
    (h : readSetting f cs = .ok (s, rest)) : rest.length < cs.length := by
  cases f <;> simp only [readSetting, Except.map] at h <;> split at h <;>
    simp only [reduceCtorEq, Except.ok.injEq, Prod.mk.injEq] at h
  · next hr => exact h.2 ▸ readCount_length hr
  · next hr => exact h.2 ▸ readInteger_length hr
  · next hr => exact h.2 ▸ readCount?_length hr
  · next hr => exact h.2 ▸ readCount_length hr
  · next hr => exact h.2 ▸ readName_length hr

/-! ## Objects -/

/-- The text after the colon of a member. -/
def readColon (cs : List Char) : Except Fault (List Char) :=
  match skipBlank cs with
  | ':' :: rest => .ok rest
  | [] => .error (.before .endInObject [])
  | rest => .error (.past .expectedColon rest)

theorem readColon_length {cs rest : List Char} (h : readColon cs = .ok rest) :
    rest.length < cs.length := by
  unfold readColon at h
  split at h
  · next hs =>
    simp only [Except.ok.injEq] at h
    exact h ▸ length_of_skipBlank hs
  · simp at h
  · simp at h

/-- The fault for a key that was there before; the text follows the key. -/
def duplicateFault (f : Config.Field) (cs : List Char) : Fault :=
  match skipBlank cs with
  | '\x7d' :: rest => .before (.duplicate f.key) rest
  | rest => .before (.duplicate f.key) rest

/-- The text after the quote that opens the key of the next member, or after the end of the object.
The first member has no comma before it. -/
def nextMember (first : Bool) (cs : List Char) : Except Fault (List Char ⊕ List Char) :=
  match skipBlank cs with
  | [] => .error (.before .endInObject [])
  | '\x7d' :: rest => .ok (.inr rest)
  | c :: rest =>
    if first then
      if c = '"' then .ok (.inl rest) else .error (.past .keyNotText (c :: rest))
    else if c = ',' then
      match skipBlank rest with
      | [] => .error (.before .endInValue [])
      | '"' :: rest => .ok (.inl rest)
      | '\x7d' :: rest => .error (.past .trailingComma ('\x7d' :: rest))
      | rest => .error (.past .keyNotText rest)
    else .error (.past .expectedObjectEnd (c :: rest))

theorem nextMember_length {first : Bool} {cs rest : List Char}
    (h : nextMember first cs = .ok (.inl rest)) : rest.length < cs.length := by
  unfold nextMember at h
  split at h
  · simp at h
  · simp at h
  · next c r _ hs =>
    have := length_of_skipBlank hs
    split at h
    · split at h
      · simp only [Except.ok.injEq, Sum.inl.injEq] at h; exact h ▸ this
      · simp at h
    · split at h
      · split at h
        · simp at h
        · next hr =>
          have := length_of_skipBlank hr
          simp only [Except.ok.injEq, Sum.inl.injEq] at h
          subst h; omega
        · simp at h
        · simp at h
      · simp at h

/-- The settings that the members of an object give, with the text after the object. Fields that
were given before are not given again. -/
def readMembers (given : List Config.Field) (first : Bool) (cs : List Char) :
    Reading (List Setting) :=
  match hn : nextMember first cs with
  | .error f => .error f
  | .ok (.inr rest) => .ok ([], rest)
  | .ok (.inl rest) =>
    have := nextMember_length hn
    match hk : readText rest with
    | .error f => .error f
    | .ok (key, rest) =>
      have := readText_length hk
      match Config.Field.ofKey? (String.ofList key) with
      | some field =>
        if given.contains field then .error (duplicateFault field rest)
        else match hc : readColon rest with
          | .error f => .error f
          | .ok rest =>
            have := readColon_length hc
            match hs : readSetting field rest with
            | .error f => .error f
            | .ok (setting, rest) =>
              have := readSetting_length hs
              match readMembers (field :: given) false rest with
              | .error f => .error f
              | .ok (settings, rest) => .ok (setting :: settings, rest)
      | none =>
        match hc : readColon rest with
        | .error f => .error f
        | .ok rest =>
          have := readColon_length hc
          match hv : passValue rest with
          | .error f => .error f
          | .ok rest =>
            have := passValue_length hv
            readMembers given false rest
  termination_by cs.length
  decreasing_by all_goals omega

/-! ## Lists -/

/-- The text at the next element of a list, or nothing at its end, which is not taken. The first
element has no comma before it. -/
def nextElement (first : Bool) (cs : List Char) : Except Fault (Option (List Char)) :=
  match skipBlank cs with
  | [] => .error (.before .endInList [])
  | ']' :: _ => .ok none
  | c :: rest =>
    if first then .ok (some (c :: rest))
    else if c = ',' then
      match skipBlank rest with
      | [] => .error (.before .endInValue [])
      | ']' :: rest => .error (.past .trailingComma (']' :: rest))
      | rest => .ok (some rest)
    else .error (.past .expectedListEnd (c :: rest))

/-- The settings that the elements of a list give to fields in order. -/
def readElements : List Config.Field → Bool → List Char → Reading (List Setting)
  | [], _, cs => .ok ([], cs)
  | field :: fields, first, cs =>
    match nextElement first cs with
    | .error f => .error f
    | .ok none => .ok ([], cs)
    | .ok (some rest) =>
      match readSetting field rest with
      | .error f => .error f
      | .ok (setting, rest) =>
        match readElements fields false rest with
        | .error f => .error f
        | .ok (settings, rest) => .ok (setting :: settings, rest)

/-- The text after the end of a list that has all its elements. -/
def readListEnd (cs : List Char) : Except Fault (List Char) :=
  match skipBlank cs with
  | [] => .error (.before .endInList [])
  | ']' :: rest => .ok rest
  | ',' :: rest =>
    match skipBlank rest with
    | ']' :: rest => .error (.past .trailingComma (']' :: rest))
    | rest => .error (.past .trailingCharacters rest)
  | rest => .error (.past .trailingCharacters rest)

/-! ## Documents -/

/-- The settings that the value at the start of a document gives. -/
def readSettingsValue (cs : List Char) : Reading (List Setting) :=
  match skipBlank cs with
  | [] => .error (.before .endInValue [])
  | '[' :: rest =>
    match readElements Config.Field.all true rest with
    | .error f => .error f
    | .ok (settings, rest) => (readListEnd rest).map fun rest => (settings, rest)
  | '\x7b' :: rest => readMembers [] true rest
  | rest => .error (refuse .config rest)

/-- The settings that a whole document gives. -/
def readSettings (cs : List Char) : Except Fault (List Setting) :=
  match readSettingsValue cs with
  | .error f => .error f
  | .ok (settings, rest) =>
    match skipBlank rest with
    | [] => .ok settings
    | rest => .error (.past .trailingCharacters rest)

namespace Config

/-- Why a document gives no configuration. -/
inductive DocumentFault
  | unreadable (text : List Char) (fault : Json.Fault)
  | refused (fault : Fault)

/-- The wording of a fault of a document. -/
def DocumentFault.message : DocumentFault → String
  | .unreadable text fault => "parse error: " ++ fault.message text
  | .refused fault => fault.message

def ofJson (m : Machine) (text : String) : Except DocumentFault Config :=
  match readSettings text.toList with
  | .error f => .error (.unreadable text.toList f)
  | .ok settings =>
    let c := (new m).setAll settings
    match c.fault? with
    | some f => .error (.refused f)
    | none => .ok c

/-! ## Writing -/

/-- The value of a setting in a document. -/
def writeValue : Setting → List Char
  | .workerCount n => Decimal.ofNat n.toNat
  | .errorLimit n => Decimal.ofInt n.toInt
  | .queueCapacity none => ['n', 'u', 'l', 'l']
  | .queueCapacity (some n) => Decimal.ofNat n.toNat
  | .threadStackSize n => Decimal.ofNat n.toNat
  | .threadNamePrefix text => writeText text.toList

/-- A setting as a member of an object. -/
def writeMember (s : Setting) : List Char :=
  writeText s.field.key.toList ++ ':' :: writeValue s

/-- The settings that make up a configuration, in the order of the fields. -/
def settings (c : Config) : List Setting :=
  [.workerCount c.workerCount, .errorLimit c.errorLimit, .queueCapacity c.queueCapacity,
    .threadStackSize c.threadStackSize, .threadNamePrefix c.threadNamePrefix]

/-- The configuration as a document without blanks. -/
def write (c : Config) : List Char :=
  '\x7b' :: List.intercalate [','] (c.settings.map writeMember) ++ ['\x7d']

def toJson (c : Config) : String :=
  String.ofList c.write

/-- The settings of a configuration, applied to any other, give it back. -/
theorem setAll_settings (c d : Config) : setAll d c.settings = c := rfl

end Config

end TaskCrew
