/-
Operations on the event words of tasks. A post adds events and ends a blocked wait whose condition
it meets; the events stay in the word until the ended wait takes them.
-/
import Executive.Kernel.Critical

namespace Executive.Kernel

open Critical

/-- Posts events to a task. -/
def postEvents (id : TaskId) (bits : EventBits) : Service Unit := do
  let task := (← (← kernel).tasks.get id).post bits
  report (.eventsPosted id bits task.posted)
  if task.waiting && task.isSatisfied then
    updateTask id fun _ => { task with waiting := false }
    notify (.task id)
  else
    updateTask id fun _ => task

/-- Posts events to a task on behalf of a driver. -/
def postFromDriver (id : TaskId) (bits : EventBits) : Service Unit := do
  report (.driverPost id)
  postEvents id bits

/-- Takes the events that a satisfied wait asked for. -/
def takeEvents (id : TaskId) (mask : EventBits) (condition : Condition) : Critical EventBits := do
  let taken := condition.consumed (← taskEntry id).posted mask
  updateTask id (·.clear taken)
  return taken

/-- Looks whether a blocked event wait is over. It is over when a post has met its condition, and it
is cut short by an interrupt; otherwise it goes on. -/
def resumeEvents (id : TaskId) (mask : EventBits) (condition : Condition) :
    Service (Progress EventBits) := do
  let task ← taskEntry id
  if !task.waiting then
    updateTask id ({ · with interrupted := false })
    return .returned (← takeEvents id mask condition)
  if task.interrupted then
    updateTask id ({ · with interrupted := false, waiting := false })
    report (.eventWaitInterrupted id)
    throw .interrupted
  return .parked (.events id mask condition)

/-- Waits for events of a task and takes them. A wait for a number of ticks is refused. -/
def waitEvents (id : TaskId) (mask : EventBits) (condition : Condition) (timeout : Timeout) :
    Service (Progress EventBits) := do
  let task ← (← kernel).tasks.get id
  if condition.isMet task.posted mask then
    return .returned (← takeEvents id mask condition)
  match timeout with
  | .noBlock => throw .noEventYet
  | .ticks _ => throw .timedEventWait
  | .indefinite =>
    updateTask id ({ · with mask, condition, waiting := true })
    report (.eventWait id mask condition)
    resumeEvents id mask condition

/-- Removes events from the event word of a task. -/
def clearEvents (id : TaskId) (bits : EventBits) : Service Unit := do
  let _ ← (← kernel).tasks.get id
  updateTask id (·.clear bits)

/-- The event word of a task. -/
def postedEvents (id : TaskId) : Service EventBits := do
  return (← (← kernel).tasks.get id).posted

end Executive.Kernel
