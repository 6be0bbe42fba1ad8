/-
Why an operation of the executive fails. Running out of a resource is never final: the caller may
try again once something has been freed.
-/
import Executive.Identifier

namespace Executive

/-- Why an operation fails. -/
inductive Error where
  | invalidName
  | nameAlreadyAssigned
  | invalidTask (task : TaskId)
  | invalidQueue (queue : QueueId)
  | invalidTimer (timer : TimerId)
  | noFreeTask
  | noFreeQueue
  | noFreeTimer
  | noFreeMessage
  | queueFull
  | queueEmpty
  | queueDeleted
  | noEventYet
  | timerExpired
  | timerIdle
  /-- An event wait was given a number of ticks. -/
  | timedEventWait
  /-- A woken receiver found its queue empty. -/
  | wokenWithoutMessage
  | interrupted
  deriving DecidableEq, Repr

/-- The wording of an error. -/
def Error.message : Error → String
  | .invalidName => "no object matches the given name"
  | .nameAlreadyAssigned => "the given name is already assigned"
  | .invalidTask task => s!"task id {task.index} is invalid"
  | .invalidQueue queue => s!"queue id {queue.index} is invalid"
  | .invalidTimer timer => s!"timer id {timer.index} is invalid"
  | .noFreeTask => "no free task handle"
  | .noFreeQueue => "no free queue control block"
  | .noFreeTimer => "no free application timer"
  | .noFreeMessage => "message container pool exhausted"
  | .queueFull => "target queue is full"
  | .queueEmpty => "requested queue is empty"
  | .queueDeleted => "queue was deleted while a waiter was blocked on it"
  | .noEventYet => "requested event condition not met"
  | .timerExpired => "timer expired"
  | .timerIdle => "attempt to abort an idle timer"
  | .timedEventWait => "configuration error: timed event waits are not supported"
  | .wokenWithoutMessage => "configuration error: queue waiter woken with no message"
  | .interrupted => "blocking wait interrupted unexpectedly"

end Executive
