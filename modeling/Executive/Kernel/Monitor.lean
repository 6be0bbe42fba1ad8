/-
Taking snapshots of a kernel.
-/
import Executive.Kernel.Basic
import Executive.Snapshot

namespace Executive.Kernel

/-- The counters and the tasks in use. -/
def coreSnapshot (kernel : Kernel) : CoreSnapshot where
  name := kernel.config.name
  ticks := kernel.heap.ticks
  clock := kernel.heap.clock
  timerObjectsInUse := kernel.heap.inUse
  appTimersInUse := kernel.timers.inUse
  tasks := (Registry.inUse kernel.tasks).map fun (i, task) =>
    { id := ⟨i⟩
      pid := task.attributes.pid
      priority := task.attributes.priority
      name := task.name
      waiting := task.waiting
      eventsPosted := task.posted
      eventCount := task.postCount }

/-- The free containers and the queues in use. -/
def queueSnapshot (kernel : Kernel) : QueueSnapshot where
  name := kernel.config.name
  freeContainers := kernel.queues.pool.available
  queues := (Registry.inUse kernel.queues.queues).map fun (i, queue) =>
    { id := ⟨i⟩
      task := (queue.binding.map Binding.task).getD ⟨0⟩
      depth := queue.depth
      count := queue.count
      name := queue.name
      order := queue.order
      waiting := queue.waiting }

end Executive.Kernel
