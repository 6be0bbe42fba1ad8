/-
The kernel: the tables of an executive, which are only touched inside its one critical section. The
timer heap has an object for each task, with which the task sleeps, and after those one for each
application timer.
-/
import Executive.Config
import Executive.Queue
import Executive.Task
import Executive.Timer
import Executive.TimerHeap.Schedule

namespace Executive

/-- A configuration and the tables built from it. -/
structure Kernel where
  config : Config
  tasks : TaskTable
  queues : QueueTable
  timers : TimerTable
  heap : TimerHeap
  deriving DecidableEq, Repr

namespace Kernel

/-- The tables of a configuration, all vacant. -/
def ofConfig (config : Config) : Kernel where
  config
  tasks := .ofSize config.maxTasks
  queues := .ofSize config.maxQueues config.maxMessages
  timers := .ofSize config.maxAppTimers
  heap := .ofSize (config.maxTasks + config.maxAppTimers) config.maxTimerObjects config.maxTick

/-- The tables of a configuration without faults. -/
def create (config : Config) : Except Config.Fault Kernel :=
  match config.fault? with
  | some fault => .error fault
  | none => .ok (.ofConfig config)

/-- The object with which a task sleeps. -/
def sleepObject (task : TaskId) : ObjectId := task.index

/-- The object that times an application timer. -/
def timerObject (kernel : Kernel) (timer : TimerId) : ObjectId := kernel.tasks.size + timer.index

end Kernel

end Executive
