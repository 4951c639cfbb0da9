import TaskCrew.Config.Variables
import TaskCrew.Environment.File

/-!
# Configurations from an environment

* `Config.ofEnvironment` — the configuration that an environment gives on a machine, after a file of
  variables was loaded into it if there is one.

A file that is malformed is no fault: what comes before the malformed line counts. A file that
sets a variable to what no variable can hold makes the call break off.
-/

namespace TaskCrew.Config

/-- The environment after a file of variables, if there is one, or as it is when loading breaks
off. -/
def loadEnvironment (e : Environment) : Option String → Exit Unit × Environment
  | none => (.returned (), e)
  | some content => e.load content

/-- The configuration that an environment gives together with a file of variables, and the
environment afterwards. -/
def ofEnvironment (m : Machine) (e : Environment) (file : Option String) :
    Exit (Except VariableFault Config) × Environment :=
  match loadEnvironment e file with
  | (.returned (), e) => (.returned (ofVariables m e.text?), e)
  | (.panicked, e) => (.panicked, e)

end TaskCrew.Config
