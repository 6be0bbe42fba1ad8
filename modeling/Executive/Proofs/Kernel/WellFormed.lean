/-
What holds of a kernel between any two critical sections: the tables have the sizes of the
configuration, the timer heap is well formed and every object of it carries the action of the task or
timer it belongs to, and the queues share out the message containers. Operations on the heap end in
such a kernel, since start and delete do.
-/
import Executive.Proofs.Kernel.Section
import Executive.Proofs.TimerHeap.Schedule

namespace Executive

open Critical

variable {kernel : Kernel} {s : Section}

namespace Config

variable {config : Config}

/-- Whether an object of the timer heap is the one for an action: the first ones are those of the
tasks, and those of the application timers follow. -/
def Serves (config : Config) (object : ObjectId) : TimerAction → Prop
  | .wakeTask task => task.index < config.maxTasks ∧ object = task.index
  | .fireTimer timer => timer.index < config.maxAppTimers ∧ object = config.maxTasks + timer.index

theorem Serves.lt {object : ObjectId} {action : TimerAction} (h : config.Serves object action) :
    object < config.maxTasks + config.maxAppTimers := by
  cases action with
  | wakeTask task => obtain ⟨hlt, rfl⟩ := h; exact Nat.lt_add_right _ hlt
  | fireTimer timer => obtain ⟨hlt, rfl⟩ := h; exact Nat.add_lt_add_left hlt _

/-- A configuration without faults has every least value. -/
theorem least_le (h : config.fault? = none) (setting : Setting) {least : Nat}
    (hmem : (setting, least) ∈ leastValues) : least ≤ config.get setting := by
  unfold fault? at h
  split at h
  · cases h
  · rename_i hfind
    have := List.find?_eq_none.1 hfind (setting, least) hmem
    exact Nat.not_lt.1 fun hlt => this (decide_eq_true hlt)

/-- The ticks after which an object is due that is started for a delay. -/
def span (config : Config) (delay : Nat) : Nat := TimerHeap.clampDelay config.maxTick delay

theorem span_pos (config : Config) (delay : Nat) : 1 ≤ config.span delay := Nat.le_max_left ..

theorem two_le_maxTick (h : config.fault? = none) : 2 ≤ config.maxTick :=
  least_le h .maxTick (by simp [leastValues])

theorem two_le_maxTasks (h : config.fault? = none) : 2 ≤ config.maxTasks :=
  least_le h .maxTasks (by simp [leastValues])

theorem maxTick_le (h : config.fault? = none) : config.maxTick ≤ maxTickLimit := by
  unfold fault? at h
  split at h
  · cases h
  split at h
  · cases h
  · rename_i hle
    exact Nat.not_lt.1 hle

end Config

namespace Kernel

/-- A kernel whose tables fit its configuration and are consistent. -/
structure WellFormed (kernel : Kernel) : Prop where
  valid : kernel.config.fault? = none
  tasks_size : kernel.tasks.size = kernel.config.maxTasks
  timers_size : kernel.timers.size = kernel.config.maxAppTimers
  queues_size : kernel.queues.queues.size = kernel.config.maxQueues
  containers_size : kernel.queues.pool.containers.size = kernel.config.maxMessages
  objects_size : kernel.heap.objects.size = kernel.config.maxTasks + kernel.config.maxAppTimers
  slots_size : kernel.heap.slots.size = kernel.config.maxTimerObjects + 1
  maxTick_eq : kernel.heap.maxTick = kernel.config.maxTick
  heap : kernel.heap.WellFormed
  serves : ∀ object action, (kernel.heap.object object).action = some action →
    kernel.config.Serves object action
  queues : ∃ free members, kernel.queues.Holds free members

/-- The tasks of a new kernel. -/
theorem eq_of_tasks_ofConfig {config : Config} {i : Nat} {task : Task}
    (h : (ofConfig config).tasks[i]? = some task) : task = {} := by
  have hnew : (Array.replicate config.maxTasks ({} : Task))[i]? = some task := h
  rw [Array.getElem?_replicate, Option.ite_none_right_eq_some] at hnew
  exact (Option.some.inj hnew.2).symm

theorem ofConfig_wellFormed {config : Config} (h : config.fault? = none) :
    (ofConfig config).WellFormed where
  valid := h
  tasks_size := Array.size_replicate
  timers_size := Array.size_replicate
  queues_size := Array.size_replicate
  containers_size := Array.size_ofFn
  objects_size := Array.size_replicate
  slots_size := Array.size_replicate
  maxTick_eq := rfl
  heap := TimerHeap.ofSize_wellFormed ..
  serves object action haction := by
    unfold ofConfig at haction
    rw [TimerHeap.object_ofSize] at haction
    cases haction
  queues := ⟨_, _, QueueTable.ofSize_holds ..⟩

namespace WellFormed

theorem maxTick_le (h : kernel.WellFormed) : 2 ≤ kernel.heap.maxTick := by
  rw [h.maxTick_eq]; exact Config.two_le_maxTick h.valid

/-- The heap brings delays into the range that the configuration allows. -/
theorem span_eq (h : kernel.WellFormed) (delay : Nat) : kernel.heap.span delay = kernel.config.span delay := by
  unfold TimerHeap.span Config.span
  rw [h.maxTick_eq]

theorem sleepObject_serves (h : kernel.WellFormed) {id : TaskId} (hid : id.index < kernel.tasks.size) :
    kernel.config.Serves (sleepObject id) (.wakeTask id) :=
  ⟨h.tasks_size ▸ hid, rfl⟩

theorem timerObject_serves (h : kernel.WellFormed) {id : TimerId}
    (hid : id.index < kernel.timers.size) :
    kernel.config.Serves (kernel.timerObject id) (.fireTimer id) :=
  ⟨h.timers_size ▸ hid, congrArg (· + id.index) h.tasks_size⟩

theorem object_lt (h : kernel.WellFormed) {object : ObjectId} {action : TimerAction}
    (hserves : kernel.config.Serves object action) : object < kernel.heap.objects.size := by
  rw [h.objects_size]; exact hserves.lt

/-! ## Changing the tables -/

theorem setTask (h : kernel.WellFormed) (id : TaskId) (task : Task) :
    (kernel.setTask id task).WellFormed :=
  { h with tasks_size := (Array.size_setIfInBounds ..).trans h.tasks_size }

theorem setTimer (h : kernel.WellFormed) (id : TimerId) (entry : Option Timer) :
    (kernel.setTimer id entry).WellFormed :=
  { h with timers_size := (Array.size_setIfInBounds ..).trans h.timers_size }

theorem setHeap (h : kernel.WellFormed) {heap : TimerHeap} (hwf : heap.WellFormed)
    (hobjects : heap.objects.size = kernel.heap.objects.size)
    (hslots : heap.slots.size = kernel.heap.slots.size) (hmaxTick : heap.maxTick = kernel.heap.maxTick)
    (hserves : ∀ object action, (heap.object object).action = some action →
      kernel.config.Serves object action) : (kernel.setHeap heap).WellFormed :=
  { h with
    objects_size := hobjects.trans h.objects_size
    slots_size := hslots.trans h.slots_size
    maxTick_eq := hmaxTick.trans h.maxTick_eq
    heap := hwf
    serves := hserves }

theorem setHeap_of_agrees (h : kernel.WellFormed) {object : ObjectId} {heap : TimerHeap}
    (hwf : heap.WellFormed) (hag : TimerHeap.AgreesBut object kernel.heap heap)
    (hserves : ∀ action, (heap.object object).action = some action →
      kernel.config.Serves object action) : (kernel.setHeap heap).WellFormed := by
  refine h.setHeap hwf hag.size_objects hag.size_slots hag.maxTick fun j action haction => ?_
  by_cases hj : j = object
  · rw [hj] at haction ⊢; exact hserves action haction
  · rw [(hag.alike j hj).action] at haction
    exact h.serves j action haction

theorem removed (h : kernel.WellFormed) {object : ObjectId} {heap : TimerHeap} (hwf : heap.WellFormed)
    (hr : TimerHeap.Removed object kernel.heap heap) : (kernel.setHeap heap).WellFormed := by
  refine h.setHeap_of_agrees hwf hr.toAgreesBut fun action haction => ?_
  rw [hr.object] at haction
  exact h.serves object action haction

theorem rebased (h : kernel.WellFormed) {heap : TimerHeap} (hr : TimerHeap.Rebased kernel.heap heap) :
    (kernel.setHeap heap).WellFormed := by
  refine h.setHeap (hr.wellFormed h.heap) hr.size_objects (congrArg Array.size hr.slots) hr.maxTick
    fun object action haction => h.serves object action ?_
  rw [hr.object] at haction
  split at haction
  · exact haction
  · exact haction

theorem advanceClock (h : kernel.WellFormed) (delta : Nat) :
    (kernel.setHeap (kernel.heap.advanceClock delta)).WellFormed :=
  h.setHeap (TimerHeap.wellFormed_advanceClock h.heap delta) rfl rfl rfl h.serves

theorem setQueues (h : kernel.WellFormed) {table : QueueTable} {free : List Nat}
    {members : Nat → List Nat} (hsize : table.queues.size = kernel.queues.queues.size)
    (hcontainers : table.pool.containers.size = kernel.queues.pool.containers.size)
    (hholds : table.Holds free members) : (kernel.setQueues table).WellFormed :=
  { h with
    queues_size := hsize.trans h.queues_size
    containers_size := hcontainers.trans h.containers_size
    queues := ⟨free, members, hholds⟩ }

theorem putQueue (h : kernel.WellFormed) {id : QueueId} {queue : Queue} {pool : MessagePool}
    {free : List Nat} {members : Nat → List Nat} (hholds : (kernel.queues.put id queue pool).Holds free members)
    (hcontainers : pool.containers.size = kernel.queues.pool.containers.size) :
    (kernel.putQueue id queue pool).WellFormed :=
  h.setQueues (Array.size_setIfInBounds ..) hcontainers hholds

/-- An entry of the queue table may change as long as its messages stay. -/
theorem setQueue (h : kernel.WellFormed) {id : QueueId} {old queue : Queue}
    (hold : kernel.queues.queues[id.index]? = some old) (hchain : queue.chain = old.chain)
    (hcount : queue.count = old.count) (hdepth : queue.depth = old.depth)
    (hbusy : queue.busy = old.busy) : (kernel.setQueue id queue).WellFormed := by
  obtain ⟨free, members, hholds⟩ := h.queues
  obtain ⟨hc, hn, hd, hv⟩ := hholds.queue id.index old hold
  refine h.setQueues (Array.size_setIfInBounds ..) rfl
    (hholds.setQueue (Array.getElem?_eq_some_iff.1 hold).1 ⟨?_, ?_, ?_, ?_⟩ fun hb => ?_)
  · rw [hchain]; exact hc
  · rw [hcount]; exact hn
  · rw [hcount, hdepth]; exact hd
  · rw [hbusy]; exact hv
  · exact hholds.index_pos hold (hbusy ▸ hb)

end WellFormed

/-! ## The timer heap -/

/-- What is reported of a start of an object. -/
def startRecord (heap : TimerHeap) (object : ObjectId) (delay : Nat) (action : TimerAction) : Record :=
  if heap.inUseBut object < heap.capacity then .objectArmed object (heap.wakeAfter delay) heap.clock
  else .heapFull (heap.inUseBut object) object action

theorem arm_spec (h : s.kernel.WellFormed) {object : ObjectId} {action : TimerAction} (delay : Nat)
    (hserves : s.kernel.config.Serves object action) :
    (arm object delay action).Ends s fun _ t => ∃ heap,
      TimerHeap.Started object delay action s.kernel.heap heap ∧
      (s.kernel.setHeap heap).WellFormed ∧ t = ⟨s.kernel.setHeap heap,
        s.signals ++ [.report (startRecord s.kernel.heap object delay action)]⟩ := by
  obtain ⟨start, heap, hstart, hwf, hs, hanswer⟩ :=
    TimerHeap.start_spec h.heap (h.object_lt hserves) h.maxTick_le delay action
  have hwf' : (s.kernel.setHeap heap).WellFormed := by
    refine h.setHeap_of_agrees hwf hs.toAgreesBut fun action' haction => ?_
    rw [hs.action] at haction
    cases haction
    exact hserves
  have hinUse := hs.inUse
  simp only [arm, ends_bind, ends_kernel, ends_liftM]
  refine ⟨_, hstart, ?_⟩
  unfold startRecord
  by_cases hroom : s.kernel.heap.inUseBut object < s.kernel.heap.capacity
  · rw [if_pos hroom] at hanswer hinUse ⊢
    subst hanswer
    simp only [ends_setHeap, ends_report]
    exact ⟨heap, hs, hwf', by rw [hs.clock]⟩
  · rw [if_neg hroom] at hanswer hinUse ⊢
    subst hanswer
    simp only [ends_setHeap, ends_report]
    exact ⟨heap, hs, hwf', by rw [hinUse, Nat.add_zero]⟩

theorem disarm_spec (h : s.kernel.WellFormed) {object : ObjectId}
    (hobject : object < s.kernel.heap.objects.size) :
    (disarm object).Ends s fun _ t => ∃ heap, TimerHeap.Removed object s.kernel.heap heap ∧
      (s.kernel.setHeap heap).WellFormed ∧ t = ⟨s.kernel.setHeap heap, s.signals⟩ := by
  obtain ⟨heap, hdelete, hwf, hr⟩ := TimerHeap.delete_spec h.heap hobject
  simp only [disarm, ends_bind, ends_kernel, ends_liftM, ends_setHeap]
  exact ⟨heap, hdelete, heap, hr, h.removed hwf hr, rfl⟩

end Kernel

end Executive
