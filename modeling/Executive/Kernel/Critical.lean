/-
Critical sections. A computation inside the critical section of a kernel may change its tables and
give signals: notify the calls that are blocked at a gate, or report something. A service may also
refuse with an error; what it changed and signalled before that stays changed and signalled.
-/
import Executive.Kernel.Basic
import Executive.Record

namespace Executive

/-- Where blocked calls wait. A gate belongs to an entry of a table and not to whoever is using the
entry. -/
inductive Gate where
  | task (task : TaskId)
  | queue (queue : QueueId)
  deriving DecidableEq, Repr

/-- Each entry of the task table and of the queue table has a gate. -/
def Kernel.hasGate (kernel : Kernel) : Gate → Bool
  | .task task => task.index < kernel.tasks.size
  | .queue queue => queue.index < kernel.queues.queues.size

/-- What a critical section does beside changing tables. -/
inductive Signal where
  /-- All calls that wait at a gate are to look again. -/
  | notify (gate : Gate)
  /-- Something is reported. -/
  | report (record : Record)
  deriving DecidableEq, Repr

/-- What a blocked call waits for. -/
inductive Wait where
  /-- The end of a sleep. -/
  | sleep (task : TaskId)
  /-- Events of a task. -/
  | events (task : TaskId) (mask : EventBits) (condition : Condition)
  /-- A message of the queue that was in an entry at some generation. -/
  | message (queue : QueueId) (generation : UInt64)
  deriving DecidableEq, Repr

/-- The gate at which a blocked call waits. -/
def Wait.gate : Wait → Gate
  | .sleep task | .events task _ _ => .task task
  | .message queue _ => .queue queue

/-- How far a call gets without waiting. -/
inductive Progress (α : Type) where
  | returned (value : α)
  | parked (wait : Wait)
  deriving DecidableEq, Repr

/-- A kernel inside its critical section, and the signals given so far in their order. -/
structure Section where
  kernel : Kernel
  signals : List Signal := []
  deriving DecidableEq, Repr

/-- A computation inside the critical section. -/
abbrev Critical := StateT Section Checked

/-- A computation inside the critical section that may refuse. -/
abbrev Service := ExceptT Error Critical

namespace Critical

/-- The tables as they are. -/
def kernel : Critical Kernel := return (← get).kernel

/-- Replaces the tasks. -/
def setTasks (tasks : TaskTable) : Critical Unit :=
  modify fun s => { s with kernel.tasks := tasks }

/-- Replaces the queues. -/
def setQueues (queues : QueueTable) : Critical Unit :=
  modify fun s => { s with kernel.queues := queues }

/-- Replaces the timers. -/
def setTimers (timers : TimerTable) : Critical Unit :=
  modify fun s => { s with kernel.timers := timers }

/-- Replaces the timer heap. -/
def setHeap (heap : TimerHeap) : Critical Unit :=
  modify fun s => { s with kernel.heap := heap }

/-- Gives a signal. -/
def signal (signal : Signal) : Critical Unit :=
  modify fun s => { s with signals := s.signals ++ [signal] }

/-- Reports something. -/
def report (record : Record) : Critical Unit := signal (.report record)

/-- Notifies the calls at a gate. -/
def notify (gate : Gate) : Critical Unit := do
  if (← kernel).hasGate gate then signal (.notify gate)
  else liftM (Except.error .outOfRange : Checked Unit)

/-- The entry of a task, whether the task is in use or not. -/
def taskEntry (id : TaskId) : Critical Task := do
  Checked.read (← kernel).tasks id.index

/-- Changes the entry of a task. -/
def updateTask (id : TaskId) (change : Task → Task) : Critical Unit := do
  setTasks (← Checked.update (← kernel).tasks id.index change)

/-- The entry of a queue, whether the queue is in use or not. -/
def queueEntry (id : QueueId) : Critical Queue := do
  Checked.read (← kernel).queues.queues id.index

/-- Changes the entry of a queue. -/
def updateQueue (id : QueueId) (change : Queue → Queue) : Critical Unit := do
  let table := (← kernel).queues
  setQueues { table with queues := ← Checked.update table.queues id.index change }

/-- Changes the entry of a timer. -/
def setTimer (id : TimerId) (entry : Option Timer) : Critical Unit := do
  setTimers (← Checked.write (← kernel).timers id.index entry)

/-- Schedules an object of the timer heap. -/
def arm (object : ObjectId) (delay : Nat) (action : TimerAction) : Critical Unit := do
  let (start, heap) ← (← kernel).heap.start object delay action
  setHeap heap
  match start with
  | .armed wake => report (.objectArmed object wake heap.clock)
  | .full => report (.heapFull heap.inUse object action)

/-- Takes an object off the timer heap. -/
def disarm (object : ObjectId) : Critical Unit := do
  setHeap (← (← kernel).heap.delete object)

end Critical

/-- The result of something that does not touch the kernel, or its refusal. -/
def Service.attempt {α : Type} (result : ExceptT Error Checked α) : Service α := do
  match ← (result.run : Checked (Except Error α)) with
  | .ok value => return value
  | .error error => throw error

end Executive
