import TaskCrew.Pattern.Brackets
import TaskCrew.Text.Digit

/-!
# Patterns as they are written

A pattern is written as characters that stand for themselves, with signs between them: a dot for
any character, brackets for a set, parentheses for a group, a bar between alternatives, and a
star, a plus or a question mark behind what may be repeated or left out.

* `Part`, `Group` — what has been read, and a group whose closing parenthesis is still to come;
* `readGroupName?` — the name of a group;
* `read?` — the pattern that a text stands for, if it is one.

**Design.** One pass over the text with the open groups on a stack. Every step takes a character, so
the length of the text bounds the steps. Each part comes with its height, for a pattern may not be
higher than `greatestHeight`.
-/

namespace TaskCrew.Pattern

/-! ## Parts and groups -/

/-- A part of a pattern. -/
structure Part where
  pattern : Pattern
  /-- How many parts lie within each other at most. -/
  height : Nat := 0
  repeatable : Bool := true
  deriving DecidableEq, Repr

/-- A group that is open. -/
structure Group where
  /-- What is in force around the group. -/
  around : Mode := {}
  /-- The alternatives before the current one, the latest first. -/
  before : List Part := []
  /-- The parts of the current alternative, the latest first. -/
  parts : List Part := []
  deriving DecidableEq, Repr

namespace Group

/-- The height of what is made of parts. -/
def heightOf (parts : List Part) : Nat :=
  let highest := (parts.map Part.height).foldl max 0
  if 1 < parts.length then highest + 1 else highest

def current (g : Group) : Part where
  pattern := g.parts.foldl (fun rest p => p.pattern.andThen rest) .empty
  height := heightOf g.parts

def whole (g : Group) : Part where
  pattern := g.before.foldl (fun rest p => .alt p.pattern rest) g.current.pattern
  height := heightOf (g.current :: g.before)

/-- The group as a part of the one around it. -/
def closed (g : Group) : Part :=
  { g.whole with height := g.whole.height + 1 }

def add (g : Group) (p : Part) : Group :=
  { g with parts := p :: g.parts }

/-- The group with a pattern as one more part. -/
def put (g : Group) (p : Pattern) : Group :=
  g.add { pattern := p }

def bar (g : Group) : Group :=
  { g with before := g.current :: g.before, parts := [] }

/-- The group with its last part repeated any number of times, at least once, or at most once, as a
sign says. What changes the mode is no part to repeat. -/
def repeat? (g : Group) (sign : Char) (eager : Bool) : Option Group :=
  match g.parts with
  | [] => none
  | p :: parts =>
    if !p.repeatable then none
    else
      let pattern :=
        if sign = '*' then Pattern.star eager p.pattern
        else if sign = '+' then .plus eager p.pattern
        else if eager then .alt p.pattern .empty
        else .alt .empty p.pattern
      some { g with parts := { pattern := pattern, height := p.height + 1 } :: parts }

end Group

/-! ## Names of groups -/

/-- Whether the name of a group may begin with a character. -/
def beginsName (c : Char) : Bool :=
  c == '_' || Text.isLetter c

/-- Whether the name of a group may go on with a character. -/
def continuesName (c : Char) : Bool :=
  c == '_' || c == '.' || c == '[' || c == ']' || Text.isAlphanumeric c

/-- The name of a group and the text behind it, if no other group has that name. -/
def readGroupName? (names : List (List Char)) (cs : List Char) :
    Option (List Char × List Char) :=
  match cs with
  | [] => none
  | c :: cs =>
    let name := c :: cs.takeWhile continuesName
    match cs.dropWhile continuesName with
    | '>' :: cs => if beginsName c ∧ name ∉ names then some (name, cs) else none
    | _ => none

/-! ## Whole patterns -/

/-- How many parts of a pattern may lie within each other. -/
def greatestHeight : Nat := 250

/-- What the rest of a text leads to, with the mode in force, the names of groups, the group that is
open and the open groups around it. -/
def readFrom? : Nat → Mode → List (List Char) → Group → List Group → List Char → Option Part
  | 0, _, _, _, _, _ => none
  | n + 1, m, names, g, outer, cs =>
    match m.skip cs with
    | [] => if outer.isEmpty then some g.whole else none
    | '|' :: cs => readFrom? n m names g.bar outer cs
    | ')' :: cs =>
      match outer with
      | [] => none
      | o :: outer => readFrom? n g.around names (o.add g.closed) outer cs
    | '(' :: cs =>
      match m.skip cs with
      | '?' :: 'P' :: '<' :: cs | '?' :: '<' :: cs =>
        match readGroupName? names cs with
        | none => none
        | some (name, cs) =>
          readFrom? n m (name :: names) { around := m } (g :: outer) cs
      | '?' :: cs =>
        match m.read? cs with
        | none => none
        | some (inner, ':', cs) => readFrom? n inner names { around := m } (g :: outer) cs
        | some (inner, _, cs) =>
          readFrom? n inner names (g.add { pattern := .empty, repeatable := false }) outer cs
      | cs => readFrom? n m names { around := m } (g :: outer) cs
    | '.' :: cs =>
      match m.dot? with
      | none => none
      | some s => readFrom? n m names (g.put (.one s)) outer cs
    | '^' :: cs => readFrom? n m names (g.put (.anchor m.start)) outer cs
    | '$' :: cs => readFrom? n m names (g.put (.anchor m.finish)) outer cs
    | '[' :: cs =>
      match openSet? m cs with
      | none => none
      | some (o, cs) =>
        match readSet? m cs.length o cs with
        | none => none
        | some (s, height, cs) =>
          readFrom? n m names (g.add { pattern := .one s, height := height }) outer cs
    | '\\' :: cs =>
      match m.readEscape? cs with
      | none => none
      | some (.char c, cs) =>
        match m.literal? c with
        | none => none
        | some s => readFrom? n m names (g.put (.one s)) outer cs
      | some (.set s, cs) => readFrom? n m names (g.put (.one s)) outer cs
      | some (.anchor a, cs) => readFrom? n m names (g.put (.anchor a)) outer cs
    | c :: cs =>
      if c = '*' ∨ c = '+' ∨ c = '?' then
        let (marked, cs) := match cs with
          | '?' :: cs => (true, cs)
          | cs => (false, cs)
        match g.repeat? c (marked == m.swapped) with
        | none => none
        | some g => readFrom? n m names g outer cs
      else if c = '\x7b' then none
      else match m.literal? c with
        | none => none
        | some s => readFrom? n m names (g.put (.one s)) outer cs

/-- The pattern that a text stands for. -/
def read? (text : List Char) : Option Pattern :=
  match readFrom? (text.length + 1) {} [] {} [] text with
  | none => none
  | some p => if p.height ≤ greatestHeight then some p.pattern else none

end TaskCrew.Pattern
