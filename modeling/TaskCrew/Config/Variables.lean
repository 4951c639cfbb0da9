import TaskCrew.Config.Basic
import TaskCrew.Decimal.Numeral
import TaskCrew.Text.Blank

/-!
# Configurations from variables

Three fields of a configuration can be given by variables that hold a numeral, with blanks around
it.

* `Variable` — the variables, in the order in which they are asked for;
* `Variable.read` — the setting that the text of a variable gives;
* `readVariables` — the settings of all variables, with the variables that were asked for;
* `Config.ofVariables` — the configuration they make up on a machine, or why there is none.

**Design.** The variables are known through a lookup only, so the same reading serves an environment
and a table. Asking stops at the first variable that cannot be read, which the result records.
-/

namespace TaskCrew

/-- A variable that gives a field of a configuration. -/
inductive Variable
  | workerCount
  | errorLimit
  | queueCapacity
  deriving DecidableEq, Repr

namespace Variable

/-- The variables in the order in which they are asked for. -/
def all : List Variable :=
  [workerCount, errorLimit, queueCapacity]

def key : Variable → String
  | workerCount => "BOUNDED_EXECUTOR_WORKER_COUNT"
  | errorLimit => "BOUNDED_EXECUTOR_ERROR_LIMIT"
  | queueCapacity => "BOUNDED_EXECUTOR_QUEUE_CAPACITY"

/-- The numbers that a variable may hold. -/
def range : Variable → Decimal.Range
  | workerCount => .count
  | errorLimit => .integer
  | queueCapacity => .count

/-- The setting that the number of a variable gives. -/
def setting : Variable → Int → Setting
  | workerCount, n => .workerCount (UInt64.ofNat n.toNat)
  | errorLimit, n => .errorLimit (Int64.ofInt n)
  | queueCapacity, n => .queueCapacity (some (UInt64.ofNat n.toNat))

/-- The setting that the text of a variable gives. -/
def read (v : Variable) (text : String) : Except Decimal.Numeral.Fault Setting :=
  (Decimal.Numeral.read v.range (Text.trim text.toList)).map v.setting

end Variable

namespace Config

/-- Why variables give no configuration. -/
inductive VariableFault
  /-- The text of a variable cannot be read. -/
  | unreadable (which : Variable) (text : String) (fault : Decimal.Numeral.Fault)
  | refused (fault : Fault)

/-- The wording of a fault of variables: it shows the text with its blanks. -/
def VariableFault.message : VariableFault → String
  | .unreadable v text fault => v.key ++ ": cannot parse `" ++ text ++ "`: " ++ fault.message
  | .refused fault => fault.message

end Config

/-- The variables that are asked for in order, and the settings that those give which are there. -/
def readVariables (lookup : String → Option String) :
    List Variable → List Variable × Except Config.VariableFault (List Setting)
  | [] => ([], .ok [])
  | v :: vs =>
    match lookup v.key with
    | none =>
      let (asked, settings) := readVariables lookup vs
      (v :: asked, settings)
    | some text =>
      match v.read text with
      | .error f => ([v], .error (.unreadable v text f))
      | .ok setting =>
        let (asked, settings) := readVariables lookup vs
        (v :: asked, settings.map (setting :: ·))

namespace Config

/-- The variables that are asked for, up to the first that cannot be read. -/
def askedVariables (lookup : String → Option String) : List Variable :=
  (readVariables lookup Variable.all).1

def ofVariables (m : Machine) (lookup : String → Option String) : Except VariableFault Config :=
  match (readVariables lookup Variable.all).2 with
  | .error f => .error f
  | .ok settings =>
    let c := (new m).setAll settings
    match c.fault? with
    | some f => .error (.refused f)
    | none => .ok c

end Config

end TaskCrew
