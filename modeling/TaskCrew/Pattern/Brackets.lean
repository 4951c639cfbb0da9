import TaskCrew.Pattern.Mode

/-!
# Sets in brackets

A set is written in brackets as characters, ranges, named sets and sets in brackets, and between
groups of them there may be signs for what is in both, in the first only, or in one only.

* `SetSign` — such a sign, and `SetSign.apply`, what it makes of two sets;
* `OpenSet` — a set whose closing bracket is still to come;
* `openSet?`, `readSet?` — the start of a set, and the rest of it.

**Design.** Each set comes with its height, which counts the sets within sets, for patterns may not
be too high.
-/

namespace TaskCrew.Pattern

/-! ## Sets under way -/

/-- A sign between two sets. -/
inductive SetSign
  | both
  | without
  | either
  deriving DecidableEq, Repr

/-- What a sign makes of two sets. -/
def SetSign.apply : SetSign → CharSet → CharSet → CharSet
  | both => .inter
  | without => .without
  | either => .either

/-- A set whose closing bracket is still to come. -/
structure OpenSet where
  /-- The set stands for what is not in it. -/
  turned : Bool := false
  /-- The set before the last sign, its height, and that sign. -/
  before : Option (CharSet × Nat × SetSign) := none
  /-- What is in the set since then. -/
  set : CharSet := .none
  /-- How many members were written since then. -/
  count : Nat := 0
  /-- The height of the highest of them. -/
  highest : Nat := 0
  deriving DecidableEq, Repr

namespace OpenSet

/-- The set with one more member of a height. -/
def add (o : OpenSet) (s : CharSet) (height : Nat) : OpenSet :=
  { o with set := .union o.set s, count := o.count + 1, highest := max o.highest height }

/-- A set in any case, if that is in force. -/
def folded (m : Mode) (s : CharSet) : CharSet :=
  if m.anyCase then .anyCase s else s

/-- What was written so far, with its height. -/
def whole (m : Mode) (o : OpenSet) : CharSet × Nat :=
  let height := if 1 < o.count then o.highest + 1 else o.highest
  match o.before with
  | none => (o.set, height)
  | some (s, h, sign) => (sign.apply (folded m s) (folded m o.set), max h height + 1)

def sign (m : Mode) (o : OpenSet) (sign : SetSign) : OpenSet :=
  let (s, height) := o.whole m
  { turned := o.turned, before := some (s, height, sign) }

end OpenSet

/-- The set or what is not in it, which no set of ASCII characters may ask for. -/
def turn? (m : Mode) (turned : Bool) (s : CharSet) : Option CharSet :=
  if !turned then some (OpenSet.folded m s)
  else if m.ascii then none
  else some (.complement (OpenSet.folded m s))

/-- The set up to its closing bracket, with its height. -/
def OpenSet.close? (m : Mode) (o : OpenSet) : Option (CharSet × Nat) :=
  let (s, height) := o.whole m
  (turn? m o.turned s).map fun s => (s, height + 1)

/-! ## Members -/

/-- A set as a member of another one: there may be none if letters stand for themselves in any case,
unless the set is of ASCII characters. -/
def member? (m : Mode) (s : CharSet) (cs : List Char) : Option (CharSet × List Char) :=
  if m.anyCase ∧ ¬ m.ascii then none else some (s, cs)

/-- The characters from one to another as a member. -/
def rangeMember? (m : Mode) (first last : Char) (cs : List Char) : Option (CharSet × List Char) :=
  if last < first ∨ (m.ascii ∧ 128 ≤ last.toNat) then none
  else member? m (.range first last) cs

/-- The sign at the start of a text within brackets. -/
def readItem? (m : Mode) : List Char → Option (Sign × List Char)
  | [] => none
  | '\\' :: cs => m.readEscape? cs
  | c :: cs => some (.char c, cs)

/-- The member at the start of a text. A dash after a character makes a range, unless the set ends
or another dash follows. -/
def readMember? (m : Mode) (cs : List Char) : Option (CharSet × List Char) :=
  match readItem? m cs with
  | none => none
  | some (item, cs) =>
    match item, m.skip cs with
    | _, [] => none
    | .anchor _, _ => none
    | .set s, '-' :: cs =>
      if m.peek cs = some ']' ∨ m.peek cs = some '-' then member? m s ('-' :: cs) else none
    | .set s, cs => member? m s cs
    | .char c, '-' :: cs =>
      if m.peek cs = some ']' ∨ m.peek cs = some '-' then rangeMember? m c c ('-' :: cs)
      else match readItem? m (m.skip cs) with
        | some (.char d, cs) => rangeMember? m c d cs
        | _ => none
    | .char c, cs => rangeMember? m c c cs

/-- The named set after an opening bracket and the text behind it; it is written between colons, and
a circumflex turns it round. -/
def readNamed? : List Char → Option (Bool × CharSet × List Char)
  | ':' :: cs =>
    let (turned, cs) := match cs with
      | '^' :: cs => (true, cs)
      | cs => (false, cs)
    match cs.dropWhile (· != ':') with
    | ':' :: ']' :: rest =>
      (CharSet.named? (String.ofList (cs.takeWhile (· != ':')))).map fun s => (turned, s, rest)
    | _ => none
  | _ => none

/-! ## Whole sets -/

/-- The set with the dashes at the start of a text, which stand for themselves there. -/
def openDashes (m : Mode) : Nat → OpenSet → List Char → OpenSet × List Char
  | n + 1, o, '-' :: cs => openDashes m n (o.add (.single '-') 0) (m.skip cs)
  | _, o, cs => (o, cs)

/-- What an opening bracket leads to. A circumflex turns the set round; dashes or a closing
bracket at the start stand for themselves. -/
def openSet? (m : Mode) (cs : List Char) : Option (OpenSet × List Char) :=
  let (turned, cs) := match m.skip cs with
    | '^' :: cs => (true, m.skip cs)
    | cs => (false, cs)
  let (o, cs) := match openDashes m cs.length { turned := turned } cs with
    | (o, ']' :: cs) =>
      if o.count = 0 then (o.add (.single ']') 0, m.skip cs) else (o, ']' :: cs)
    | (o, cs) => (o, cs)
  if o.count = 0 then some (o, cs)
  else (member? m o.set cs).map fun (_, cs) => (o, cs)

/-- The set up to its closing bracket, with its height and the text behind it. -/
def readSet? (m : Mode) : Nat → OpenSet → List Char → Option (CharSet × Nat × List Char)
  | 0, _, _ => none
  | n + 1, o, cs =>
    match m.skip cs with
    | [] => none
    | ']' :: cs => (o.close? m).map fun (s, height) => (s, height, cs)
    | '[' :: cs =>
      match readNamed? cs with
      | some (turned, s, cs) =>
        match (turn? m turned s).bind fun s => member? m s cs with
        | none => none
        | some (s, cs) => readSet? m n (o.add s 0) cs
      | none =>
        match openSet? m cs with
        | none => none
        | some (inner, cs) =>
          match readSet? m n inner cs with
          | none => none
          | some (s, height, cs) => readSet? m n (o.add s height) cs
    | '&' :: '&' :: cs => readSet? m n (o.sign m .both) cs
    | '-' :: '-' :: cs => readSet? m n (o.sign m .without) cs
    | '~' :: '~' :: cs => readSet? m n (o.sign m .either) cs
    | cs =>
      match readMember? m cs with
      | none => none
      | some (s, cs) => readSet? m n (o.add s 0) cs

end TaskCrew.Pattern
