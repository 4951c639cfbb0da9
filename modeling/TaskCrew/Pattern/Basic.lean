import TaskCrew.Pattern.CharSet

/-!
# Patterns for texts

* `Anchor`, `Anchor.holds` — what a pattern may ask of a place between two characters;
* `Pattern` — what a text may look like, with preferences among the ways to match;
* `Pattern.firsts` — what a match begins with, the preferred ways first;
* `Pattern.isMatch` — whether the first match within a text reaches to its end.

**Design.** The way through a text is a list of patterns for what is left, in order of preference.
As soon as one of them is done, those behind it are given up, so of `a|ab` the second half never
has its turn. A match may begin anywhere, but a later start is preferred less than any earlier one,
and no match begins once one is done. Each pattern is kept once, so the list stays short.
-/

namespace TaskCrew

/-! ## Anchors -/

/-- What a pattern may ask of a place in a text. -/
inductive Anchor
  /-- To be at the start of the text. -/
  | textStart
  /-- To be at the end of the text. -/
  | textEnd
  /-- To be at the start of a line, where a carriage return may end lines too. -/
  | lineStart (crlf : Bool)
  /-- To be at the end of a line, where a carriage return may end lines too. -/
  | lineEnd (crlf : Bool)
  /-- To be at an end of a word. -/
  | wordEdge
  /-- To be at no end of a word. -/
  | noWordEdge
  | wordStart
  | wordEnd
  deriving DecidableEq, Repr

namespace Anchor

/-- Whether a character, if there is one, is part of a word. -/
def inWord (c : Option Char) : Bool :=
  c.any CharSet.words.contains

/-- Whether a place has what is asked, given the characters before and after it. A carriage return
and a line feed end one line together. -/
def holds (before after : Option Char) : Anchor → Bool
  | textStart => before.isNone
  | textEnd => after.isNone
  | lineStart crlf => before.all fun c =>
      c == '\n' || (crlf && c == '\r' && after != some '\n')
  | lineEnd crlf => after.all fun c =>
      if crlf then c == '\r' || (c == '\n' && before != some '\r') else c == '\n'
  | wordEdge => inWord before != inWord after
  | noWordEdge => inWord before == inWord after
  | wordStart => !inWord before && inWord after
  | wordEnd => inWord before && !inWord after

end Anchor

/-! ## Patterns -/

/-- What a text may look like. -/
inductive Pattern
  | empty
  | one (s : CharSet)
  /-- Nothing, at a place that has what is asked. -/
  | anchor (a : Anchor)
  | seq (p q : Pattern)
  /-- The first pattern, or else the second. -/
  | alt (p q : Pattern)
  /-- A pattern any number of times, as often as possible or as seldom as possible. -/
  | star (eager : Bool) (p : Pattern)
  /-- A pattern at least once, as often as possible or as seldom as possible. -/
  | plus (eager : Bool) (p : Pattern)
  deriving DecidableEq, Repr

namespace Pattern

/-- One pattern after the other, the first of which may be done. -/
def andThen : Pattern → Pattern → Pattern
  | empty, q => q
  | p, q => seq p q

/-- What a pattern that is repeated begins with, given what it begins with once. What takes no
character is done with all its repetitions. -/
def repeated (eager : Bool) (p : Pattern) (ways : List (Option (CharSet × Pattern))) :
    List (Option (CharSet × Pattern)) :=
  ways.map fun first => first.map fun (s, r) => (s, r.andThen (star eager p))

/-- What a match begins with, the preferred ways first: it is done, or takes a character of a set
and goes on with another pattern. The characters before and after the place are known. -/
def firsts (before after : Option Char) : Pattern → List (Option (CharSet × Pattern))
  | empty => [none]
  | one s => [some (s, empty)]
  | anchor a => if a.holds before after then [none] else []
  | seq p q =>
    (p.firsts before after).flatMap fun
      | none => q.firsts before after
      | some (s, r) => [some (s, r.andThen q)]
  | alt p q => (p.firsts before after ++ q.firsts before after).eraseDups
  | star true p => (repeated true p (p.firsts before after) ++ [none]).eraseDups
  | star false p => (none :: repeated false p (p.firsts before after)).eraseDups
  | plus eager p => repeated eager p (p.firsts before after)

/-- A pattern matches the nothing between the bytes of a character. -/
def splits (p : Pattern) (c : Char) : Bool :=
  1 < c.utf8Size && (p.firsts (some c) (some c)).any Option.isNone

/-- Whether the first match reaches to the end of a text, of which a part has been passed. The
matches that began there have these patterns left, and new ones may still begin or not. -/
def isMatchFrom (p : Pattern) (before : Option Char) (fresh : Bool) (left : List Pattern) :
    List Char → Bool
  | [] =>
    ((if fresh then left ++ [p] else left).flatMap (firsts before none)).any Option.isNone
  | c :: cs =>
    let ways := (if fresh then left ++ [p] else left).flatMap (firsts before (some c))
    let next := (ways.takeWhile Option.isSome).filterMap fun first =>
      first.bind fun (s, r) => if s.contains c then some r else none
    let stillFresh := fresh && ways.all Option.isSome && !p.splits c
    isMatchFrom p (some c) stillFresh next.eraseDups cs

/-- Whether the first match of a pattern within a text reaches to its end. -/
def isMatch (p : Pattern) (text : String) : Bool :=
  isMatchFrom p none true [] text.toList

end Pattern

end TaskCrew
