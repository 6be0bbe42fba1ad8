/-
Snapshots of an executive for monitoring, and their text: a header line and then one line for each
task or queue in use. A field of the text keeps its column unless it, or one before it, is wider
than its least width.
-/
import Executive.Queue
import Executive.Task
import Executive.Text.Numeral

namespace Executive

/-- A task in use. -/
structure TaskSummary where
  id : TaskId
  pid : UInt32
  priority : UInt8
  name : String
  waiting : Bool
  eventsPosted : EventBits
  eventCount : UInt32
  deriving DecidableEq, Repr

/-- The counters of an executive and its tasks in use. -/
structure CoreSnapshot where
  name : String
  ticks : Nat
  clock : Nat
  timerObjectsInUse : Nat
  appTimersInUse : Nat
  tasks : List TaskSummary
  deriving DecidableEq, Repr

/-- A queue in use. -/
structure QueueSummary where
  id : QueueId
  /-- The task that every post also signals, the task 0 standing for none. -/
  task : TaskId
  depth : Nat
  count : Nat
  name : String
  order : WaiterOrder
  waiting : Bool
  deriving DecidableEq, Repr

/-- The queues of an executive in use and the free containers they share. -/
structure QueueSnapshot where
  name : String
  freeContainers : Nat
  queues : List QueueSummary
  deriving DecidableEq, Repr

open Text

/-- The line of a task: number, process, priority, name, whether it waits for events, its event word
and the number of posts it has received. -/
def TaskSummary.line (task : TaskSummary) : List Char :=
  fields [
    alignRight 2 (decimal task.id.index),
    alignRight 5 (decimal task.pid.toNat),
    alignRight 3 (decimal task.priority.toNat),
    alignLeft 16 task.name.toList,
    decimal task.waiting.toNat,
    zeroFill 8 (capitalHex task.eventsPosted.toNat),
    alignRight 9 (decimal task.eventCount.toNat)]

/-- The line of the counters. -/
def CoreSnapshot.header (core : CoreSnapshot) : List Char :=
  fields [
    core.name.toList,
    "core".toList,
    alignRight 9 (decimal core.ticks),
    zeroFill 8 (hex core.clock),
    decimal core.timerObjectsInUse,
    decimal core.appTimersInUse]

/-- The text of a snapshot of the core. -/
def CoreSnapshot.text (core : CoreSnapshot) : String :=
  ofLines (core.header :: core.tasks.map TaskSummary.line)

/-- The line of a queue: number, bound task, depth, number of messages and name. -/
def QueueSummary.line (queue : QueueSummary) : List Char :=
  fields [
    alignRight 2 (decimal queue.id.index),
    alignRight 3 (decimal queue.task.index),
    alignRight 3 (decimal queue.depth),
    alignRight 3 (decimal queue.count),
    queue.name.toList]

/-- The line of the shared containers. -/
def QueueSnapshot.header (queues : QueueSnapshot) : List Char :=
  fields [queues.name.toList, "queues".toList, decimal queues.freeContainers]

/-- The text of a snapshot of the queues. -/
def QueueSnapshot.text (snapshot : QueueSnapshot) : String :=
  ofLines (snapshot.header :: snapshot.queues.map QueueSummary.line)

end Executive
