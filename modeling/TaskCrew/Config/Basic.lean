import TaskCrew.Text.Quoted

/-!
# The settings of a run

* `Machine` — what the settings take from the machine that runs take place on;
* `Config`, `Config.new` — the settings, and the configuration in which nothing is set;
* `Config.Field` — the fields in their fixed order, with the keys they go by in documents;
* `Setting`, `Config.set`, `Config.setAll` — one field with a value, and settings applied in order;
* `Config.Fault`, `Config.fault?` — the checks a configuration has to pass, first one first;
* `Config.normalizedErrorLimit`, `Config.effectiveQueueCapacity` — the numbers a run works with;
* `Config.shown` — the configuration as a shown record.

**Design.** Every way to make a configuration (by hand, from a document, from variables) yields a
list of settings, and `Config.setAll` is the one place where settings take effect.
-/

namespace TaskCrew

/-- The machine that runs take place on. How many processors it has is found out by the `num_cpus`
package, which stands outside of this development; all that counts is that there is one at least. -/
structure Machine where
  cpus : UInt64
  one_le_cpus : 1 ≤ cpus
  deriving DecidableEq, Repr

/-- The settings of a run. -/
structure Config where
  /-- How many workers there are, and so how many tasks run at the same time. Its default depends on the
  machine, so only `Config.new` has it. -/
  workerCount : UInt64
  /-- How many failed tasks end the run; a number below one counts as one. -/
  errorLimit : Int64 := 1
  /-- How many tasks wait in the queue at most; unset, one for each worker. -/
  queueCapacity : Option UInt64 := none
  /-- The stack size of every thread in bytes. -/
  threadStackSize : UInt64 := 2097152
  /-- What the names of all threads begin with. -/
  threadNamePrefix : String := "bx-worker"
  deriving DecidableEq, Repr, Inhabited

/-- One field of a configuration with a value. -/
inductive Setting
  | workerCount (n : UInt64)
  | errorLimit (n : Int64)
  /-- The capacity of the queue, or that it is unset. -/
  | queueCapacity (n : Option UInt64)
  | threadStackSize (n : UInt64)
  | threadNamePrefix (text : String)
  deriving DecidableEq, Repr

namespace Config

/-- The configuration in which nothing is set: one worker for each processor, and the other fields as they
are by default. -/
def new (m : Machine) : Config where
  workerCount := m.cpus

/-- The fields of a configuration. -/
inductive Field
  | workerCount
  | errorLimit
  | queueCapacity
  | threadStackSize
  | threadNamePrefix
  deriving DecidableEq, Repr

namespace Field

def all : List Field :=
  [workerCount, errorLimit, queueCapacity, threadStackSize, threadNamePrefix]

/-- The key of a field in documents. -/
def key : Field → String
  | workerCount => "worker_count"
  | errorLimit => "error_limit"
  | queueCapacity => "queue_capacity"
  | threadStackSize => "thread_stack_size"
  | threadNamePrefix => "thread_name_prefix"

/-- The field that goes by a key. -/
def ofKey? (text : String) : Option Field :=
  all.find? fun f => f.key == text

end Field

/-! ## Applying settings -/

def set (c : Config) : Setting → Config
  | .workerCount n => { c with workerCount := n }
  | .errorLimit n => { c with errorLimit := n }
  | .queueCapacity n => { c with queueCapacity := n }
  | .threadStackSize n => { c with threadStackSize := n }
  | .threadNamePrefix text => { c with threadNamePrefix := text }

/-- The configuration with settings applied in order. -/
def setAll (c : Config) (settings : List Setting) : Config :=
  settings.foldl set c

/-! ## What a run works with -/

/-- The error limit with everything below one raised to one. -/
def normalizedErrorLimit (c : Config) : UInt64 :=
  UInt64.ofNat (max c.errorLimit.toInt 1).toNat

theorem toNat_normalizedErrorLimit (c : Config) :
    (c.normalizedErrorLimit.toNat : Int) = max c.errorLimit.toInt 1 := by
  have lt := Int64.toInt_lt c.errorLimit
  have size : (max c.errorLimit.toInt 1).toNat < UInt64.size := by
    simp only [UInt64.size]
    omega
  rw [normalizedErrorLimit, UInt64.toNat_ofNat_of_lt' size]
  omega

/-- The capacity of the queue; unset, it is the number of workers. -/
def effectiveQueueCapacity (c : Config) : UInt64 :=
  c.queueCapacity.getD c.workerCount

/-! ## Checks -/

/-- Why a configuration is refused. -/
inductive Fault
  | noWorkers
  | noStack
  | noThreadName
  deriving DecidableEq, Repr

def Fault.message : Fault → String
  | .noWorkers => "worker_count must be greater than 0"
  | .noStack => "thread_stack_size must be greater than 0"
  | .noThreadName => "thread_name_prefix must not be empty"

/-- The first check that a configuration fails, if there is one. -/
def fault? (c : Config) : Option Fault :=
  if c.workerCount = 0 then some .noWorkers
  else if c.threadStackSize = 0 then some .noStack
  else if c.threadNamePrefix = "" then some .noThreadName
  else none

/-! ## Showing -/

def shown (c : Config) : String :=
  let capacity := match c.queueCapacity with
    | some n => "Some(" ++ toString n.toNat ++ ")"
    | none => "None"
  Text.shownRecord "RunConfig"
    [(Field.workerCount.key, toString c.workerCount.toNat),
     (Field.errorLimit.key, toString c.errorLimit.toInt),
     (Field.queueCapacity.key, capacity),
     (Field.threadStackSize.key, toString c.threadStackSize.toNat),
     (Field.threadNamePrefix.key, Text.quoted c.threadNamePrefix)]

end Config

def Setting.field : Setting → Config.Field
  | .workerCount _ => .workerCount
  | .errorLimit _ => .errorLimit
  | .queueCapacity _ => .queueCapacity
  | .threadStackSize _ => .threadStackSize
  | .threadNamePrefix _ => .threadNamePrefix

end TaskCrew
