import TaskCrew.Executor.Basic

/-!
# Building executors

* `Builder` — a name, a configuration, and a choice of what thread names begin with;
* `Builder.new`, `Builder.ofConfig` — where building starts;
* `Builder.set`, `Builder.setAll` — one setting, and settings in order;
* `Builder.build` — the executor, whose threads are named after it unless chosen otherwise.

**Design.** What thread names begin with is kept beside the configuration, for it has a default that
only the name gives. Building does not use the builder up, so it can be built at any time and go on.
-/

namespace TaskCrew

/-- What an executor is built from. -/
structure Builder where
  name : String
  /-- The configuration so far, but for what thread names begin with. -/
  config : Config
  /-- What thread names begin with, if it was chosen. -/
  threadNamePrefix : Option String
  deriving DecidableEq, Repr

namespace Builder

def new (m : Machine) (name : String) : Builder :=
  ⟨name, .new m, none⟩

/-- A builder with a configuration, whose thread names count as chosen. -/
def ofConfig (name : String) (c : Config) : Builder :=
  ⟨name, c, some c.threadNamePrefix⟩

def set (b : Builder) : Setting → Builder
  | .threadNamePrefix text => { b with threadNamePrefix := some text }
  | s => { b with config := b.config.set s }

/-- The builder with settings applied in order. -/
def setAll (b : Builder) (settings : List Setting) : Builder :=
  settings.foldl set b

def finalConfig (b : Builder) : Config :=
  b.config.set (.threadNamePrefix (b.threadNamePrefix.getD b.name))

def build (b : Builder) : Except RunError Executor :=
  Executor.named b.name b.finalConfig

/-! ## Building along the way -/

/-- One step of a session with a builder. -/
inductive Step
  | set (s : Setting)
  /-- The executor is built, and building goes on. -/
  | build
  deriving DecidableEq, Repr

def after (b : Builder) : Step → Builder
  | .set s => b.set s
  | .build => b

/-- The builder at the start and after each step. -/
def states (b : Builder) (steps : List Step) : List Builder :=
  match steps with
  | [] => [b]
  | step :: steps => b :: (b.after step).states steps

/-- What the builds along the way give. -/
def forks (b : Builder) : List Step → List (Except RunError Executor)
  | [] => []
  | .set s :: steps => (b.set s).forks steps
  | .build :: steps => b.build :: b.forks steps

def afterAll (b : Builder) (steps : List Step) : Builder :=
  steps.foldl after b

end Builder

end TaskCrew
