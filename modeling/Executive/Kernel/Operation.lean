/-
The operations of a kernel as data, with one type of result for all of them.
-/
import Executive.Kernel.Advance
import Executive.Kernel.Monitor
import Executive.Kernel.Tasks

namespace Executive

/-- An operation of a kernel, the delivery of ticks apart. -/
inductive Operation where
  | allocateTask (name : String) (attributes : Attributes)
  | freeTask (task : TaskId)
  | identifyTask (name : String)
  | taskAttributes (task : TaskId)
  | interruptTask (task : TaskId)
  | sleep (task : TaskId) (ticks : Nat)
  | postEvents (task : TaskId) (bits : EventBits)
  | postFromDriver (task : TaskId) (bits : EventBits)
  | clearEvents (task : TaskId) (bits : EventBits)
  | waitEvents (task : TaskId) (mask : EventBits) (condition : Condition) (timeout : Timeout)
  | postedEvents (task : TaskId)
  | createQueue (name : String) (options : QueueOptions)
  | deleteQueue (queue : QueueId)
  | deleteAllQueues
  | postMessage (queue : QueueId) (message : Message) (mode : PostMode)
  | receive (queue : QueueId) (timeout : Timeout)
  | identifyQueue (name : String)
  | queueLength (queue : QueueId)
  | interruptReceiver (queue : QueueId)
  | freeContainers
  | createTimer (target : TimerTarget)
  | startTimer (timer : TimerId) (delay : Nat) (reload : Option Nat)
  | abortTimer (timer : TimerId)
  | deleteTimer (timer : TimerId)
  | timerState (timer : TimerId)
  | ticks
  | scheduledObjects
  | config
  | coreSnapshot
  | queueSnapshot
  | coreText
  | queueText
  deriving DecidableEq, Repr

/-- What an operation gives back. -/
inductive Value where
  | done
  | flag (value : Bool)
  | task (id : TaskId)
  | queue (id : QueueId)
  | timer (id : TimerId)
  | attributes (attributes : Attributes)
  | bits (bits : EventBits)
  | message (message : Message)
  | count (count : Nat)
  | timerState (state : TimerState)
  | config (config : Config)
  | coreSnapshot (snapshot : CoreSnapshot)
  | queueSnapshot (snapshot : QueueSnapshot)
  | text (text : String)
  deriving DecidableEq, Repr

/-- The same progress, with its value as a result of an operation. -/
def Progress.map {α β : Type} (f : α → β) : Progress α → Progress β
  | .returned value => .returned (f value)
  | .parked wait => .parked wait

namespace Kernel

open Critical

/-- Carries out an operation until it returns or has to wait. -/
def perform : Operation → Service (Progress Value)
  | .allocateTask name attributes => return .returned (.task (← allocateTask name attributes))
  | .freeTask task => do freeTask task; return .returned .done
  | .identifyTask name => return .returned (.task (← identifyTask name))
  | .taskAttributes task => return .returned (.attributes (← taskAttributes task))
  | .interruptTask task => return .returned (.flag (← interruptTask task))
  | .sleep task ticks => return (← sleep task ticks).map fun _ => .done
  | .postEvents task bits => do postEvents task bits; return .returned .done
  | .postFromDriver task bits => do postFromDriver task bits; return .returned .done
  | .clearEvents task bits => do clearEvents task bits; return .returned .done
  | .waitEvents task mask condition timeout =>
    return (← waitEvents task mask condition timeout).map .bits
  | .postedEvents task => return .returned (.bits (← postedEvents task))
  | .createQueue name options => return .returned (.queue (← createQueue name options))
  | .deleteQueue queue => do deleteQueue queue; return .returned .done
  | .deleteAllQueues => do deleteAllQueues; return .returned .done
  | .postMessage queue message mode => do postMessage queue message mode; return .returned .done
  | .receive queue timeout => return (← receive queue timeout).map .message
  | .identifyQueue name => return .returned (.queue (← identifyQueue name))
  | .queueLength queue => return .returned (.count (← queueLength queue))
  | .interruptReceiver queue => return .returned (.flag (← interruptReceiver queue))
  | .freeContainers => return .returned (.count (← freeContainers))
  | .createTimer target => return .returned (.timer (← createTimer target))
  | .startTimer timer delay reload => do startTimer timer delay reload; return .returned .done
  | .abortTimer timer => do abortTimer timer; return .returned .done
  | .deleteTimer timer => do deleteTimer timer; return .returned .done
  | .timerState timer => return .returned (.timerState (← timerState timer))
  | .ticks => return .returned (.count (← ticks))
  | .scheduledObjects => return .returned (.count (← scheduledObjects))
  | .config => return .returned (.config (← kernel).config)
  | .coreSnapshot => return .returned (.coreSnapshot (← kernel).coreSnapshot)
  | .queueSnapshot => return .returned (.queueSnapshot (← kernel).queueSnapshot)
  | .coreText => return .returned (.text (← kernel).coreSnapshot.text)
  | .queueText => return .returned (.text (← kernel).queueSnapshot.text)

/-- Lets a blocked call look again whether its wait is over. -/
def resume : Wait → Service (Progress Value)
  | .sleep task => return (← resumeSleep task).map fun _ => .done
  | .events task mask condition => return (← resumeEvents task mask condition).map .bits
  | .message queue generation => return (← resumeReceive queue generation).map .message

end Kernel

end Executive
