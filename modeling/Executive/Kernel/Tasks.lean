/-
Operations on tasks: allocating and freeing them, sleeping, and forcing a blocked call to give up.
-/
import Executive.Kernel.Critical

namespace Executive.Kernel

open Critical

/-- Allocates a task under a name that is not in use. -/
def allocateTask (name : String) (attributes : Attributes) : Service TaskId := do
  let (id, tasks) ← (← kernel).tasks.allocate name attributes
  setTasks tasks
  report (.taskAllocated id name)
  return id

/-- Frees a task and stops its sleep. A call blocked on behalf of the task is not released. -/
def freeTask (id : TaskId) : Service Unit := do
  let task ← (← kernel).tasks.get id
  disarm (sleepObject id)
  if task.isBlocked then report (.taskFreedBlocked id task.name)
  updateTask id ({ · with busy := false })
  report (.taskFreed id)

/-- The task in use under a name. -/
def identifyTask (name : String) : Service TaskId := do
  (← kernel).tasks.find name

/-- What was recorded with a task. -/
def taskAttributes (id : TaskId) : Service Attributes := do
  return (← (← kernel).tasks.get id).attributes

/-- Looks whether a sleep is over. The sleep is over when its object is not pending any more, and it
is cut short by an interrupt; otherwise it goes on. -/
def resumeSleep (id : TaskId) : Service (Progress Unit) := do
  if ← (← kernel).heap.isPending (sleepObject id) then
    if (← taskEntry id).interrupted then
      disarm (sleepObject id)
      updateTask id ({ · with interrupted := false, sleeping := false })
      throw .interrupted
    return .parked (.sleep id)
  updateTask id ({ · with sleeping := false, interrupted := false })
  return .returned ()

/-- Sleeps for a number of ticks on behalf of a task, and for one tick at least. -/
def sleep (id : TaskId) (ticks : Nat) : Service (Progress Unit) := do
  let _ ← (← kernel).tasks.get id
  arm (sleepObject id) ticks (.wakeTask id)
  updateTask id ({ · with sleeping := true })
  resumeSleep id

/-- Tells the call that is blocked on behalf of a task to give up; the result says whether there is
one. -/
def interruptTask (id : TaskId) : Service Bool := do
  let task ← (← kernel).tasks.get id
  if !task.isBlocked then return false
  updateTask id ({ · with interrupted := true })
  report (.taskInterrupted id task.name)
  notify (.task id)
  return true

end Executive.Kernel
