/-
Tasks: named entries of a fixed table. Each holds the event word of the task and what a call that is
blocked on behalf of the task waits for.
-/
import Executive.Event
import Executive.Registry

namespace Executive

/-- What is recorded with a task for information. -/
structure Attributes where
  priority : UInt8 := 0
  /-- The process that works for the task. -/
  pid : UInt32 := 0
  deriving DecidableEq, Repr

/-- An entry of the task table. -/
structure Task where
  busy : Bool := false
  name : String := ""
  attributes : Attributes := {}
  /-- The event word. -/
  posted : EventBits := 0
  /-- The mask of the latest blocked event wait. -/
  mask : EventBits := 0
  /-- The condition of the latest blocked event wait. -/
  condition : Condition := .all
  /-- An event wait is blocked and its condition has not been met since. -/
  waiting : Bool := false
  /-- A sleep is blocked. -/
  sleeping : Bool := false
  /-- The blocked call is to give up. -/
  interrupted : Bool := false
  /-- The number of posts received, modulo `2 ^ 32`. -/
  postCount : UInt32 := 0
  deriving DecidableEq, Repr

namespace Task

instance : Named Task := ⟨Task.busy, Task.name⟩

/-- Whether a call is blocked on behalf of the task. -/
def isBlocked (task : Task) : Bool := task.waiting || task.sleeping

/-- Whether the event word meets what the blocked event wait asked for. -/
def isSatisfied (task : Task) : Bool := task.condition.isMet task.posted task.mask

/-- Adds events to the event word and counts the post. -/
def post (task : Task) (bits : EventBits) : Task :=
  { task with posted := task.posted ||| bits, postCount := task.postCount + 1 }

/-- Removes events from the event word. -/
def clear (task : Task) (bits : EventBits) : Task :=
  { task with posted := task.posted &&& ~~~bits }

end Task

/-- The table of all tasks. -/
abbrev TaskTable := Array Task

namespace TaskTable

/-- A table of vacant entries. -/
def ofSize (size : Nat) : TaskTable := Array.replicate size {}

/-- The task in use under a number. -/
def get (tasks : TaskTable) (id : TaskId) : Except Error Task :=
  match Registry.get? tasks id.index with
  | some task => .ok task
  | none => .error (.invalidTask id)

/-- The task in use under a name. -/
def find (tasks : TaskTable) (name : String) : Except Error TaskId :=
  match Registry.find? tasks name with
  | some i => .ok ⟨i⟩
  | none => .error .invalidName

/-- Gives the first vacant entry to a new task, which starts without events. -/
def allocate (tasks : TaskTable) (name : String) (attributes : Attributes) :
    Except Error (TaskId × TaskTable) := do
  let i ← Registry.place tasks name .noFreeTask
  return (⟨i⟩, tasks.setIfInBounds i { busy := true, name, attributes })

end TaskTable

end Executive
