/-
Operations on message queues. A post ends the wait of a blocked receiver and, where the queue is
bound, posts events to a task; a failure of the latter leaves the message posted.
-/
import Executive.Kernel.Events

namespace Executive.Kernel

open Critical

/-- Creates a queue under a name that is not in use. The task it is bound to need not exist yet. -/
def createQueue (name : String) (options : QueueOptions) : Service QueueId := do
  let (id, queues) ← (← kernel).queues.create name options
  setQueues queues
  report (.queueCreated id name options.depth)
  return id

/-- Makes the entry of a queue vacant and notifies its receiver. -/
def dropQueue (id : QueueId) : Critical Unit := do
  let (waiting, queues) ← (← kernel).queues.delete id
  setQueues queues
  if waiting then notify (.queue id)

/-- Deletes a queue and the messages it holds. -/
def deleteQueue (id : QueueId) : Service Unit := do
  let count := (← (← kernel).queues.get id).count
  if 0 < count then report (.messagesDropped id count)
  dropQueue id
  report (.queueDeleted id)

/-- Deletes all queues. -/
def deleteAllQueues : Critical Unit := do
  (← kernel).queues.live.forM dropQueue
  report .allQueuesDeleted

/-- Posts a message to a queue. -/
def postMessage (id : QueueId) (message : Message) (mode : PostMode) : Service Unit := do
  setQueues (← Service.attempt ((← kernel).queues.push id message mode))
  let queue ← (← kernel).queues.get id
  if queue.waiting then
    updateQueue id ({ · with waiting := false })
    notify (.queue id)
  match queue.binding with
  | some binding => postEvents binding.task binding.events
  | none => return

/-- Takes the first message of a queue, if it has one. -/
def takeMessage? (id : QueueId) : Critical (Option Message) := do
  let (message, queues) ← (← kernel).queues.pop id
  setQueues queues
  return message

/-- Looks whether a blocked receive is over. It is over when a message has been posted; it is cut
short by a deletion of its queue or else by an interrupt; otherwise it goes on. -/
def resumeReceive (id : QueueId) (generation : UInt64) : Service (Progress Message) := do
  let queue ← queueEntry id
  if queue.generation != generation then
    report (.queueLost id)
    throw .queueDeleted
  if !queue.waiting then
    updateQueue id ({ · with interrupted := false })
    match ← takeMessage? id with
    | some message => return .returned message
    | none => throw .wokenWithoutMessage
  if queue.interrupted then
    updateQueue id ({ · with interrupted := false, waiting := false })
    report (.receiveInterrupted id)
    throw .interrupted
  return .parked (.message id generation)

/-- Takes the first message of a queue, or waits for one. Any timeout but `noBlock` waits without an
end. -/
def receive (id : QueueId) (timeout : Timeout) : Service (Progress Message) := do
  let queue ← (← kernel).queues.get id
  match ← takeMessage? id with
  | some message => return .returned message
  | none =>
    if timeout = .noBlock then throw .queueEmpty
    updateQueue id ({ · with waiting := true })
    resumeReceive id queue.generation

/-- The queue in use under a name. -/
def identifyQueue (name : String) : Service QueueId := do
  (← kernel).queues.find name

/-- The number of messages in a queue. -/
def queueLength (id : QueueId) : Service Nat := do
  return (← (← kernel).queues.get id).count

/-- Tells the receiver blocked on a queue to give up; the result says whether there is one. -/
def interruptReceiver (id : QueueId) : Service Bool := do
  if !(← (← kernel).queues.get id).waiting then return false
  updateQueue id ({ · with interrupted := true })
  notify (.queue id)
  return true

/-- The number of free message containers. -/
def freeContainers : Critical Nat := return (← kernel).queues.pool.available

end Executive.Kernel
