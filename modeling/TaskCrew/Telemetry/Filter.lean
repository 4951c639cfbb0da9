import TaskCrew.Exit
import TaskCrew.Telemetry.Directive

/-!
# Filters for log entries

A filter is a list of directives with commas between them.

* `Filter.read`, `Filter.ofText` — the directives of a text, and the filter that applies with it;
* `Filter.directive?` — the directive that counts for an entry as such;
* `Filter.underLabel` — how much is logged under a label;
* `Filter.passes` — whether an entry passes.

An entry passes by the most special directive for it, or by the greatest verbosity among the
directives for one of its labels. Labels themselves are only kept if the filter lets enough pass.
-/

namespace TaskCrew

/-- The directives by which entries pass. -/
structure Filter where
  directives : List Directive
  deriving DecidableEq, Repr

namespace Filter

/-- The pieces of a text between commas. -/
def pieces : List Char → List (List Char)
  | [] => [[]]
  | c :: cs =>
    if c = ',' then [] :: pieces cs
    else match pieces cs with
      | [] => [[c]]
      | p :: ps => (c :: p) :: ps

/-- The filter that a text stands for. Empty pieces are no directives, and without any directive
nothing passes. -/
def read (text : String) : Except Directive.Fault Filter :=
  (((pieces text.toList).filter fun p => !p.isEmpty).mapM Directive.read).map Filter.mk

/-- The filter without a text, or with one that is not understood. -/
def plain : Filter :=
  ⟨[⟨some "bounded_executor".toList, none, none, ⟨some .info⟩⟩]⟩

/-- The filter that applies with a text, if there is one. Reading breaks off when a cut falls
within a character. -/
def ofText : Option String → Exit Filter
  | none => .returned plain
  | some text =>
    match read text with
    | .ok f => .returned f
    | .error .malformed => .returned plain
    | .error .splitCharacter => .panicked

/-- The directives without those that a later one about the same replaces. -/
def current (f : Filter) : List Directive :=
  f.directives.foldl (fun ds d => ds.filter (fun e => !d.sameSubject e) ++ [d]) []

/-- The directive that counts for an entry as such: the most special one, the later one of equals.
-/
def directive? (f : Filter) (n : Notice) : Option Directive :=
  (f.directives.filter (·.coversEntry n)).foldl (fun best d =>
    match best with
    | some b => if d.isAtLeastAsSpecial b then some d else best
    | none => some d) none

/-- How much the filter lets pass at most: everything as soon as values are tested, for values are
known late. -/
def reach (f : Filter) : Verbosity :=
  if f.directives.any (·.test?.isSome) then .everything
  else .greatest (f.directives.map Directive.verbosity)

/-- How much is logged under a label. -/
def underLabel (f : Filter) (l : RunLabel) : Verbosity :=
  .greatest ((f.current.filter fun d => d.coversLabel l && d.holdsFor l).map Directive.verbosity)

def passes (f : Filter) (e : LogEntry) : Bool :=
  (f.directive? e.notice).any (·.verbosity.passes e.notice.level) ||
    (f.reach.passes RunLabel.level &&
      e.labels.any fun l => (f.underLabel l).passes e.notice.level)

end Filter

end TaskCrew
