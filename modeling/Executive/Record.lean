/-
Records: what an executive reports of its work, each with a level and a text.
-/
import Executive.Config
import Executive.Text.Numeral
import Executive.TimerHeap.Basic
import Executive.Timer

namespace Executive

/-- How much a record matters; a later level matters less. -/
inductive Level where
  | error
  | warn
  | info
  | debug
  | trace
  deriving DecidableEq, Repr

namespace Level

/-- The name of a level in a report. -/
def label : Level → String
  | .error => "ERROR"
  | .warn => "WARN"
  | .info => "INFO"
  | .debug => "DEBUG"
  | .trace => "TRACE"

/-- The place of a level in the order from what matters most to what matters least. -/
def rank : Level → Nat
  | .error => 0
  | .warn => 1
  | .info => 2
  | .debug => 3
  | .trace => 4

/-- Whether a report down to this level includes another one. -/
def includes (least other : Level) : Bool := other.rank ≤ least.rank

end Level

/-- Something worth reporting. -/
inductive Record where
  | started (config : Config)
  | taskAllocated (task : TaskId) (name : String)
  | taskFreedBlocked (task : TaskId) (name : String)
  | taskFreed (task : TaskId)
  | taskInterrupted (task : TaskId) (name : String)
  | eventsPosted (task : TaskId) (bits now : EventBits)
  | driverPost (task : TaskId)
  | eventWait (task : TaskId) (mask : EventBits) (condition : Condition)
  | eventWaitInterrupted (task : TaskId)
  | queueCreated (queue : QueueId) (name : String) (depth : Nat)
  | messagesDropped (queue : QueueId) (count : Nat)
  | queueDeleted (queue : QueueId)
  | allQueuesDeleted
  | queueLost (queue : QueueId)
  | receiveInterrupted (queue : QueueId)
  | timerCreated (timer : TimerId) (target : TimerTarget)
  | timerStarted (timer : TimerId) (delay : Nat) (reload : Option Nat)
  | timerDeleted (timer : TimerId)
  | timerFired (timer : TimerId)
  | timerFailed (timer : TimerId) (error : Error)
  | heapFull (inUse : Nat) (object : ObjectId) (action : TimerAction)
  | objectArmed (object : ObjectId) (wake clock : Nat)
  | objectExpired (object : ObjectId) (clock : Nat)
  | clockRebased (amount : Nat)
  | tickerStarted (rate : Nat)
  | tickerStopped
  deriving DecidableEq, Repr

namespace Record

/-- The level of a record. -/
def level : Record → Level
  | .taskFreedBlocked .. | .messagesDropped .. | .timerFailed .. | .heapFull .. => .warn
  | .taskInterrupted .. | .eventWaitInterrupted _ | .queueLost _ | .receiveInterrupted _
  | .tickerStarted _ | .tickerStopped => .info
  | .started _ | .taskAllocated .. | .taskFreed _ | .eventWait .. | .queueCreated ..
  | .queueDeleted _ | .allQueuesDeleted | .timerCreated .. | .timerDeleted _ => .debug
  | .eventsPosted .. | .driverPost _ | .timerStarted .. | .timerFired _ | .objectArmed ..
  | .objectExpired .. | .clockRebased _ => .trace

/-- An object of the timer heap in a report. -/
def objectText (object : ObjectId) : String := s!"TimerObjectId({object})"

/-- A timer action in a report. -/
def actionText : TimerAction → String
  | .wakeTask task => s!"WakeTask(TaskId({task.index}))"
  | .fireTimer timer => s!"FireTimer(TimerId({timer.index}))"

/-- A timer target in a report. -/
def targetText : TimerTarget → String
  | .event task events =>
    "Event \x7b task: TaskId(" ++ toString task.index ++ "), events: " ++ toString events ++ " \x7d"
  | .message queue message =>
    "Message \x7b queue: QueueId(" ++ toString queue.index ++ "), message: Message("
      ++ toString message ++ ") \x7d"

/-- A period in a report. -/
def periodText : Option Nat → String
  | some ticks => s!"Some({ticks})"
  | none => "None"

/-- The text of a record. -/
def text : Record → String
  | .started config =>
    s!"kernel '{config.name}' up: {config.maxTasks} tasks, {config.maxQueues} queues, "
      ++ s!"{config.maxMessages} messages, {config.maxTimerObjects} timer objects"
  | .taskAllocated task name => s!"task {task.index} '{name}' allocated"
  | .taskFreedBlocked task name => s!"task {task.index} '{name}' freed while blocked"
  | .taskFreed task => s!"task {task.index} freed"
  | .taskInterrupted task name => s!"task {task.index} '{name}' interrupted"
  | .eventsPosted task bits now =>
    s!"task {task.index} posted {Text.word bits}, now {Text.word now}"
  | .driverPost task => s!"driver post to task {task.index}"
  | .eventWait task mask condition =>
    s!"task {task.index} waits for {Text.word mask} ({condition.label})"
  | .eventWaitInterrupted task => s!"task {task.index} event wait interrupted"
  | .queueCreated queue name depth => s!"queue {queue.index} '{name}' created, depth {depth}"
  | .messagesDropped queue count => s!"queue {queue.index} deleted with {count} messages"
  | .queueDeleted queue => s!"queue {queue.index} deleted"
  | .allQueuesDeleted => "all queues deleted"
  | .queueLost queue => s!"queue {queue.index} deleted under its waiter"
  | .receiveInterrupted queue => s!"queue {queue.index} wait interrupted"
  | .timerCreated timer target => s!"timer {timer.index} created for {targetText target}"
  | .timerStarted timer delay reload =>
    s!"timer {timer.index} started, delay {delay}, reload {periodText reload}"
  | .timerDeleted timer => s!"timer {timer.index} deleted"
  | .timerFired timer => s!"timer {timer.index} fired"
  | .timerFailed timer error => s!"timer {timer.index} action failed: {error.message}"
  | .heapFull inUse object action =>
    s!"timer heap full ({inUse} objects), {objectText object} for {actionText action} not scheduled"
  | .objectArmed object wake clock =>
    s!"timer object {objectText object} armed, wake at {wake} (clock {clock})"
  | .objectExpired object clock => s!"timer object {objectText object} expired at clock {clock}"
  | .clockRebased amount => s!"timer clock rebased by {amount}"
  | .tickerStarted rate => s!"ticker started at {rate} Hz"
  | .tickerStopped => "ticker stopped"

/-- A record as a line of a report. -/
def line (record : Record) : String := s!"{record.level.label} {record.text}"

end Record

end Executive
