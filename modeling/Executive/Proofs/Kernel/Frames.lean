/-
What critical sections leave alone. Most operations do not touch the application timers at all
(`KeepsTimers`), and what the others do to one timer, or to the sleep of a task, leaves every other
timer as it was (`SameTimer`).
-/
import Executive.Proofs.Kernel.Operation

namespace Executive.Kernel

open Critical

variable {a b c : Kernel} {s t : Section} {id : TimerId}

/-! ## All timers -/

/-- The timers, the timer heap and the objects of the timers are the same. -/
structure KeepsTimers (a b : Kernel) : Prop where
  timers : b.timers = a.timers
  heap : b.heap = a.heap
  tasks_size : b.tasks.size = a.tasks.size

namespace KeepsTimers

theorem refl (a : Kernel) : KeepsTimers a a := ⟨rfl, rfl, rfl⟩

theorem trans (h : KeepsTimers a b) (k : KeepsTimers b c) : KeepsTimers a c :=
  ⟨k.timers.trans h.timers, k.heap.trans h.heap, k.tasks_size.trans h.tasks_size⟩

theorem setTask (a : Kernel) (id : TaskId) (task : Task) : KeepsTimers a (a.setTask id task) :=
  ⟨rfl, rfl, Array.size_setIfInBounds ..⟩

theorem setQueues (a : Kernel) (queues : QueueTable) : KeepsTimers a (a.setQueues queues) :=
  ⟨rfl, rfl, rfl⟩

end KeepsTimers

theorem EventsPosted.keepsTimers {task : TaskId} {bits : EventBits} {r : Except Error Unit}
    (h : EventsPosted task bits s r t) : KeepsTimers s.kernel t.kernel := by
  cases h with
  | refused => exact .refl _
  | posted => exact .setTask ..

theorem BoundPosted.keepsTimers {binding : Option Binding} {r : Except Error Unit}
    (h : BoundPosted binding s r t) : KeepsTimers s.kernel t.kernel := by
  cases binding with
  | none => rw [h.2]; exact .refl _
  | some binding => exact EventsPosted.keepsTimers h

theorem MessagePosted.keepsTimers {queue : QueueId} {message : Message} {mode : PostMode}
    {r : Except Error Unit} (h : MessagePosted queue message mode s r t) :
    KeepsTimers s.kernel t.kernel := by
  cases h with
  | refused => exact .refl _
  | pushed _ _ _ hbound => exact (KeepsTimers.setQueues ..).trans hbound.keepsTimers

theorem ActedOn.keepsTimers {target : TimerTarget} {r : Except Error Unit}
    (h : ActedOn target s r t) : KeepsTimers s.kernel t.kernel := by
  cases target with
  | event => exact EventsPosted.keepsTimers h
  | message => exact MessagePosted.keepsTimers h

theorem MessageTaken.keepsTimers {queue : QueueId} {message : Option Message}
    (h : MessageTaken queue s message t) : KeepsTimers s.kernel t.kernel := by
  cases h with
  | empty => exact .refl _
  | taken => exact .setQueues ..

theorem Received.keepsTimers {queue : QueueId} {timeout : Timeout}
    {r : Except Error (Progress Message)} (h : Received queue timeout s r t) :
    KeepsTimers s.kernel t.kernel := by
  cases h with
  | refused | empty => exact .refl _
  | served _ htaken => exact htaken.keepsTimers
  | interrupted | waits => exact .setQueues ..

theorem ReceiveResumed.keepsTimers {queue : QueueId} {generation : UInt64}
    {r : Except Error (Progress Message)} (h : ReceiveResumed queue generation s r t) :
    KeepsTimers s.kernel t.kernel := by
  cases h with
  | lost | waits => exact .refl _
  | served _ _ _ htaken => exact (KeepsTimers.setQueues ..).trans htaken.keepsTimers
  | unserved _ _ _ htaken => exact (KeepsTimers.setQueues ..).trans htaken.keepsTimers
  | interrupted => exact .setQueues ..

theorem TaskAllocated.keepsTimers {name : String} {attributes : Attributes} {r : Except Error TaskId}
    (h : TaskAllocated name attributes s r t) : KeepsTimers s.kernel t.kernel := by
  cases h with
  | refused => exact .refl _
  | allocated => exact .setTask ..

theorem TaskInterrupted.keepsTimers {task : TaskId} {r : Except Error Bool}
    (h : TaskInterrupted task s r t) : KeepsTimers s.kernel t.kernel := by
  cases h with
  | refused | unblocked => exact .refl _
  | interrupted => exact .setTask ..

theorem EventsCleared.keepsTimers {task : TaskId} {bits : EventBits} {r : Except Error Unit}
    (h : EventsCleared task bits s r t) : KeepsTimers s.kernel t.kernel := by
  cases h with
  | refused => exact .refl _
  | cleared => exact .setTask ..

theorem EventsAwaited.keepsTimers {task : TaskId} {mask : EventBits} {condition : Condition}
    {timeout : Timeout} {r : Except Error (Progress EventBits)}
    (h : EventsAwaited task mask condition timeout s r t) : KeepsTimers s.kernel t.kernel := by
  cases h with
  | refused | unmet => exact .refl _
  | met | interrupted | waits => exact .setTask ..

theorem EventsResumed.keepsTimers {task : TaskId} {mask : EventBits} {condition : Condition}
    {r : Except Error (Progress EventBits)} (h : EventsResumed task mask condition s r t) :
    KeepsTimers s.kernel t.kernel := by
  cases h with
  | woken | interrupted => exact .setTask ..
  | waits => exact .refl _

theorem QueueCreated.keepsTimers {name : String} {options : QueueOptions} {r : Except Error QueueId}
    (h : QueueCreated name options s r t) : KeepsTimers s.kernel t.kernel := by
  cases h with
  | refused => exact .refl _
  | created => exact .setQueues ..

theorem QueueDeleted.keepsTimers {queue : QueueId} {r : Except Error Unit}
    (h : QueueDeleted queue s r t) : KeepsTimers s.kernel t.kernel := by
  cases h with
  | refused => exact .refl _
  | deleted => exact .setQueues ..

theorem ReceiverInterrupted.keepsTimers {queue : QueueId} {r : Except Error Bool}
    (h : ReceiverInterrupted queue s r t) : KeepsTimers s.kernel t.kernel := by
  cases h with
  | refused | unblocked => exact .refl _
  | interrupted => exact .setQueues ..

/-! ## One timer -/

/-- One timer is the same, as far as its entry, its object and the clock go. -/
structure SameTimer (id : TimerId) (a b : Kernel) : Prop where
  entry : b.timers[id.index]? = a.timers[id.index]?
  object : (a.heap.object (a.timerObject id)).Alike (b.heap.object (b.timerObject id))
  clock : b.heap.clock = a.heap.clock
  maxTick : b.heap.maxTick = a.heap.maxTick

theorem KeepsTimers.sameTimer (h : KeepsTimers a b) (id : TimerId) : SameTimer id a b := by
  obtain ⟨htimers, hheap, hsize⟩ := h
  refine ⟨by rw [htimers], ?_, by rw [hheap], by rw [hheap]⟩
  unfold timerObject
  rw [hheap, hsize]
  exact .refl _

namespace SameTimer

theorem refl (id : TimerId) (a : Kernel) : SameTimer id a a := ⟨rfl, .refl _, rfl, rfl⟩

theorem trans (h : SameTimer id a b) (k : SameTimer id b c) : SameTimer id a c :=
  ⟨k.entry.trans h.entry, h.object.trans k.object, k.clock.trans h.clock, k.maxTick.trans h.maxTick⟩

/-- Another object of the heap may change. -/
theorem setHeap {object : ObjectId} {heap : TimerHeap} (h : TimerHeap.AgreesBut object a.heap heap)
    (hne : a.timerObject id ≠ object) : SameTimer id a (a.setHeap heap) :=
  ⟨rfl, h.alike _ hne, h.clock, h.maxTick⟩

theorem setTask (id : TimerId) (a : Kernel) (task : TaskId) (entry : Task) :
    SameTimer id a (a.setTask task entry) := (KeepsTimers.setTask ..).sameTimer id

/-- Another timer may change. -/
theorem setTimer {other : TimerId} (hne : other ≠ id) (a : Kernel) (entry : Option Timer) :
    SameTimer id a (a.setTimer other entry) := by
  refine ⟨?_, .refl _, rfl, rfl⟩
  rw [timers_setTimer, Array.getElem?_setIfInBounds, if_neg]
  intro heq
  exact hne (by cases other; cases id; cases heq; rfl)

end SameTimer

theorem timerObject_ne {other : TimerId} (hne : other ≠ id) (a : Kernel) :
    a.timerObject id ≠ a.timerObject other := by
  intro heq
  have := Nat.add_left_cancel heq
  exact hne (by cases other; cases id; cases this; rfl)

/-- No timer has the object with which a task sleeps. -/
theorem timerObject_ne_sleepObject (id : TimerId) {task : TaskId} {entry : Task}
    (h : a.tasks[task.index]? = some entry) : a.timerObject id ≠ sleepObject task := by
  have hlt := (Array.getElem?_eq_some_iff.1 h).1
  exact Nat.ne_of_gt (Nat.lt_add_right _ hlt)

/-! ## The operations -/

theorem TaskFreed.sameTimer {task : TaskId} {r : Except Error Unit} (h : TaskFreed task s r t) :
    SameTimer id s.kernel t.kernel := by
  cases h with
  | refused => exact .refl ..
  | freed hget hremove =>
    have hne := timerObject_ne_sleepObject id (TaskTable.get_eq_ok.1 hget).2.1
    exact (SameTimer.setHeap hremove.toAgreesBut hne).trans (.setTask ..)

theorem Slept.sameTimer {task : TaskId} {ticks : Nat} {r : Except Error (Progress Unit)}
    (h : Slept task ticks s r t) : SameTimer id s.kernel t.kernel := by
  cases h with
  | refused => exact .refl ..
  | interrupted hget _ hstart hremove =>
    have hne := timerObject_ne_sleepObject id (TaskTable.get_eq_ok.1 hget).2.1
    have hagrees := hstart.toAgreesBut.trans hremove.toAgreesBut
    exact (SameTimer.setHeap hagrees hne).trans (.setTask ..)
  | waits hget _ hstart =>
    have hne := timerObject_ne_sleepObject id (TaskTable.get_eq_ok.1 hget).2.1
    exact (SameTimer.setHeap hstart.toAgreesBut hne).trans (.setTask ..)

theorem SleepResumed.sameTimer {task : TaskId} {r : Except Error (Progress Unit)}
    (h : SleepResumed task s r t) : SameTimer id s.kernel t.kernel := by
  cases h with
  | woken => exact .setTask ..
  | interrupted hentry _ _ hremove =>
    have hne := timerObject_ne_sleepObject id hentry
    exact (SameTimer.setHeap hremove.toAgreesBut hne).trans (.setTask ..)
  | waits => exact .refl ..

section OtherTimer

variable {other : TimerId} {r : Except Error Unit} (hne : other ≠ id)

include hne

theorem TimerStarted.sameTimer {delay : Nat} {reload : Option Nat}
    (h : TimerStarted other delay reload s r t) : SameTimer id s.kernel t.kernel := by
  cases h with
  | refused => exact .refl ..
  | started _ hstart =>
    exact (SameTimer.setHeap hstart.toAgreesBut (timerObject_ne hne _)).trans (.setTimer hne ..)

theorem TimerAborted.sameTimer (h : TimerAborted other s r t) : SameTimer id s.kernel t.kernel := by
  cases h with
  | refused => exact .refl ..
  | stopped _ _ hremove =>
    exact (SameTimer.setHeap hremove.toAgreesBut (timerObject_ne hne _)).trans (.setTimer hne ..)
  | expired | idle => exact .setTimer hne ..

theorem TimerDeleted.sameTimer (h : TimerDeleted other s r t) : SameTimer id s.kernel t.kernel := by
  cases h with
  | refused => exact .refl ..
  | deleted _ hremove =>
    exact (SameTimer.setHeap hremove.toAgreesBut (timerObject_ne hne _)).trans (.setTimer hne ..)

/-- A timer that fires leaves the others alone. -/
theorem TimerFired.sameTimer (h : TimerFired other s r t) : SameTimer id s.kernel t.kernel := by
  cases h with
  | scheduled | inactive => exact .refl ..
  | expired _ _ hact => exact (SameTimer.setTimer hne ..).trans (hact.keepsTimers.sameTimer id)
  | rearmed _ _ hstart hact =>
    exact (SameTimer.setHeap hstart.toAgreesBut (timerObject_ne hne _)).trans
      (hact.keepsTimers.sameTimer id)

end OtherTimer

/-- An operation that may change a timer. -/
def Concerns (id : TimerId) : Operation → Prop
  | .createTimer _ => True
  | .startTimer timer .. | .abortTimer timer | .deleteTimer timer => timer = id
  | _ => False

/-- The timer that an operation starts or stops. -/
def timerOf : Operation → Option TimerId
  | .startTimer timer .. | .abortTimer timer | .deleteTimer timer => some timer
  | _ => none

theorem concerns_of_timerOf {operation : Operation} (h : timerOf operation = some id) :
    Concerns id operation := by
  cases operation with
  | startTimer | abortTimer | deleteTimer => exact Option.some.inj h
  | _ => cases h

theorem Performed.sameTimer {operation : Operation} {r : Except Error (Progress Value)}
    (h : Performed s operation r t) (hop : ¬ Concerns id operation) :
    SameTimer id s.kernel t.kernel := by
  cases operation with
  | identifyTask | taskAttributes | postedEvents | identifyQueue | queueLength | freeContainers
    | timerState | ticks | scheduledObjects | config | coreSnapshot | queueSnapshot | coreText
    | queueText =>
    obtain ⟨_, ⟨-, rfl⟩, -⟩ := h
    exact .refl ..
  | allocateTask => obtain ⟨_, h, -⟩ := h; exact h.keepsTimers.sameTimer id
  | interruptTask => obtain ⟨_, h, -⟩ := h; exact h.keepsTimers.sameTimer id
  | postEvents => obtain ⟨_, h, -⟩ := h; exact h.keepsTimers.sameTimer id
  | postFromDriver => obtain ⟨_, h, -⟩ := h; exact h.keepsTimers.sameTimer id
  | clearEvents => obtain ⟨_, h, -⟩ := h; exact h.keepsTimers.sameTimer id
  | waitEvents => obtain ⟨_, h, -⟩ := h; exact h.keepsTimers.sameTimer id
  | createQueue => obtain ⟨_, h, -⟩ := h; exact h.keepsTimers.sameTimer id
  | deleteQueue => obtain ⟨_, h, -⟩ := h; exact h.keepsTimers.sameTimer id
  | deleteAllQueues =>
    obtain ⟨_, h, -⟩ := h
    rw [h.kernel]; exact (KeepsTimers.setQueues ..).sameTimer id
  | postMessage => obtain ⟨_, h, -⟩ := h; exact h.keepsTimers.sameTimer id
  | receive => obtain ⟨_, h, -⟩ := h; exact h.keepsTimers.sameTimer id
  | interruptReceiver => obtain ⟨_, h, -⟩ := h; exact h.keepsTimers.sameTimer id
  | freeTask => obtain ⟨_, h, -⟩ := h; exact h.sameTimer
  | sleep => obtain ⟨_, h, -⟩ := h; exact h.sameTimer
  | createTimer => exact absurd trivial hop
  | startTimer => obtain ⟨_, h, -⟩ := h; exact h.sameTimer hop
  | abortTimer => obtain ⟨_, h, -⟩ := h; exact h.sameTimer hop
  | deleteTimer => obtain ⟨_, h, -⟩ := h; exact h.sameTimer hop

theorem Resumed.sameTimer {wait : Wait} {r : Except Error (Progress Value)}
    (h : Resumed s wait r t) : SameTimer id s.kernel t.kernel := by
  cases wait with
  | sleep => obtain ⟨_, h, -⟩ := h; exact h.sameTimer
  | events => obtain ⟨_, h, -⟩ := h; exact h.keepsTimers.sameTimer id
  | message => obtain ⟨_, h, -⟩ := h; exact h.keepsTimers.sameTimer id

theorem ActionDone.sameTimer {action : TimerAction} (h : ActionDone s action t)
    (hne : action ≠ .fireTimer id) : SameTimer id s.kernel t.kernel := by
  cases h with
  | woken => exact .refl ..
  | fired hfired => exact hfired.sameTimer fun heq => hne (congrArg _ heq)
  | failed hfired => exact (hfired.sameTimer fun heq => hne (congrArg _ heq)).trans (.refl ..)

/-! ## Signals -/

/-- What has been signalled stays signalled. -/
theorem EventsPosted.signals_prefix {task : TaskId} {bits : EventBits} {r : Except Error Unit}
    (h : EventsPosted task bits s r t) : s.signals <+: t.signals := by
  cases h with
  | refused => exact List.prefix_rfl
  | posted => exact List.prefix_append ..

theorem BoundPosted.signals_prefix {binding : Option Binding} {r : Except Error Unit}
    (h : BoundPosted binding s r t) : s.signals <+: t.signals := by
  cases binding with
  | none => exact h.2 ▸ List.prefix_rfl
  | some binding => exact EventsPosted.signals_prefix h

theorem MessagePosted.signals_prefix {queue : QueueId} {message : Message} {mode : PostMode}
    {r : Except Error Unit} (h : MessagePosted queue message mode s r t) : s.signals <+: t.signals := by
  cases h with
  | refused => exact List.prefix_rfl
  | pushed _ _ _ hbound => exact (List.prefix_append ..).trans hbound.signals_prefix

theorem ActedOn.signals_prefix {target : TimerTarget} {r : Except Error Unit}
    (h : ActedOn target s r t) : s.signals <+: t.signals := by
  cases target with
  | event => exact EventsPosted.signals_prefix h
  | message => exact MessagePosted.signals_prefix h

end Executive.Kernel
