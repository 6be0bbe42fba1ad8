/-
What a critical section makes of the timer heap. Outside the deliveries of ticks a section handles
one object at most: it starts the object, takes it off, or starts it and takes it off at once
(`Handled`). The object is that of the task or of the timer that the section is about, and every
other one keeps its due tick. A timer whose object is scheduled is running (`Live`).
-/
import Executive.Proofs.Kernel.Frames
import Executive.Proofs.TimerHeap.Run

namespace Executive

/-! ## One object at most -/

namespace TimerHeap

variable {a b : TimerHeap} {object : Option ObjectId} {id : ObjectId}

/-- Heap `b` is heap `a` after something was done to one object, or to none. -/
inductive Handled (a : TimerHeap) : Option ObjectId → TimerHeap → Prop
  | kept {object : Option ObjectId} : Handled a object a
  | started {id : ObjectId} {delay : Nat} {action : TimerAction} {b : TimerHeap} (hpos : 0 < id)
    (hlt : id < a.objects.size) (hstart : Started id delay action a b) : Handled a (some id) b
  | removed {id : ObjectId} {b : TimerHeap} (hremove : Removed id a b) : Handled a (some id) b
  | cut {id : ObjectId} {delay : Nat} {action : TimerAction} {armed b : TimerHeap}
    (hstart : Started id delay action a armed) (hremove : Removed id armed b) : Handled a (some id) b

theorem AgreesBut.refl (id : ObjectId) (a : TimerHeap) : AgreesBut id a a :=
  ⟨rfl, rfl, rfl, rfl, rfl, fun _ _ => .refl _⟩

theorem Handled.agreesBut (h : Handled a (some id) b) : AgreesBut id a b := by
  cases h with
  | kept => exact .refl id a
  | started _ _ hstart => exact hstart.toAgreesBut
  | removed hremove => exact hremove.toAgreesBut
  | cut hstart hremove => exact hstart.toAgreesBut.trans hremove.toAgreesBut

theorem Handled.eq_of_none (h : Handled a none b) : b = a := by
  cases h with
  | kept => rfl

/-- An object that is not handled stays as it is. -/
theorem Handled.alike (h : Handled a object b) {j : ObjectId} (hj : object ≠ some j) :
    (a.object j).Alike (b.object j) := by
  cases object with
  | none => rw [h.eq_of_none]; exact .refl _
  | some id => exact h.agreesBut.alike j fun heq => hj (congrArg some heq.symm)

theorem Handled.clock (h : Handled a object b) : b.clock = a.clock := by
  cases object with
  | none => rw [h.eq_of_none]
  | some => exact h.agreesBut.clock

theorem Handled.maxTick (h : Handled a object b) : b.maxTick = a.maxTick := by
  cases object with
  | none => rw [h.eq_of_none]
  | some => exact h.agreesBut.maxTick

theorem Handled.ticks (h : Handled a object b) : b.ticks = a.ticks := by
  cases object with
  | none => rw [h.eq_of_none]
  | some => exact h.agreesBut.ticks

/-! ## Due ticks -/

/-- Every scheduled object is pending, and the clock can reach its due tick. -/
def Sound (heap : TimerHeap) : Prop :=
  ∀ j, (heap.object j).slot ≠ 0 → (heap.object j).pending = true ∧ (heap.object j).wake ≤ clockLimit

theorem ofSize_sound (objects capacity maxTick : Nat) : (ofSize objects capacity maxTick).Sound := by
  intro j hj
  rw [object_ofSize] at hj
  exact absurd rfl hj

/-- A change of one object keeps a heap sound if that object stays so. -/
theorem Sound.of_agrees (h : a.Sound) (hag : AgreesBut id a b)
    (hid : (b.object id).slot ≠ 0 → (b.object id).pending = true ∧ (b.object id).wake ≤ clockLimit) :
    b.Sound := by
  intro j hj
  by_cases hji : j = id
  · rw [hji] at hj ⊢; exact hid hj
  · have halike := hag.alike j hji
    rw [halike.pending, halike.wake]
    exact h j fun h0 => hj (halike.scheduled.2 h0)

theorem Sound.started {delay : Nat} {action : TimerAction} (h : a.Sound)
    (hstart : Started id delay action a b) : b.Sound := by
  refine h.of_agrees hstart.toAgreesBut fun _ => ⟨hstart.pending, ?_⟩
  rw [hstart.wake]
  exact Nat.min_le_right ..

theorem Sound.removed (h : a.Sound) (hremove : Removed id a b) : b.Sound :=
  h.of_agrees hremove.toAgreesBut fun hj => absurd (by rw [hremove.object]) hj

theorem Sound.handled (h : a.Sound) (hhandled : Handled a object b) : b.Sound := by
  cases hhandled with
  | kept => exact h
  | started _ _ hstart => exact h.started hstart
  | removed hremove => exact h.removed hremove
  | cut hstart hremove => exact (h.started hstart).removed hremove

theorem Sound.rebased (h : a.Sound) (hrebase : Rebased a b) : b.Sound := by
  intro j hj
  rw [hrebase.object] at hj ⊢
  split at hj
  · rename_i h0
    exact absurd h0 hj
  · rename_i h0
    obtain ⟨hpending, hwake⟩ := h j h0
    rw [if_neg h0]
    exact ⟨hpending, Nat.le_trans (Nat.sub_le ..) hwake⟩

/-- What is started is due later, as long as time is left on the clock. -/
theorem lt_wakeAfter (hclock : a.clock < clockLimit) (delay : Nat) : a.clock < a.wakeAfter delay := by
  have := a.span_pos delay
  unfold wakeAfter
  omega

theorem Idle.of_agrees (h : a.Idle) (hag : AgreesBut id a b)
    (hid : (b.object id).slot ≠ 0 → b.clock < (b.object id).wake) : b.Idle := by
  intro j hj
  by_cases hji : j = id
  · rw [hji] at hj ⊢; exact hid hj
  · have halike := hag.alike j hji
    rw [halike.wake, hag.clock]
    exact h j fun h0 => hj (halike.scheduled.2 h0)

theorem Idle.removed (h : a.Idle) (hremove : Removed id a b) : b.Idle :=
  h.of_agrees hremove.toAgreesBut fun hj => absurd (by rw [hremove.object]) hj

theorem Idle.started {delay : Nat} {action : TimerAction} (h : a.Idle) (hclock : a.clock < clockLimit)
    (hstart : Started id delay action a b) : b.Idle := by
  refine h.of_agrees hstart.toAgreesBut fun _ => ?_
  rw [hstart.wake, hstart.clock]
  exact lt_wakeAfter hclock delay

theorem Idle.handled (h : a.Idle) (hclock : a.clock < clockLimit) (hhandled : Handled a object b) :
    b.Idle := by
  cases hhandled with
  | kept => exact h
  | started _ _ hstart => exact h.started hclock hstart
  | removed hremove => exact h.removed hremove
  | cut hstart hremove => exact (h.started hclock hstart).removed hremove

end TimerHeap

namespace Kernel

open TimerHeap (Handled)

variable {a b : Kernel} {s t : Section} {id : TimerId}

/-! ## The sections and their objects -/

/-- The object that an operation may handle. -/
def objectOf (kernel : Kernel) : Operation → Option ObjectId
  | .freeTask task | .sleep task _ => some (sleepObject task)
  | .startTimer timer .. | .abortTimer timer | .deleteTimer timer => some (kernel.timerObject timer)
  | _ => none

/-- The object that a blocked call may handle when it looks again. -/
def objectOfWait : Wait → Option ObjectId
  | .sleep task => some (sleepObject task)
  | .events .. | .message .. => none

/-- The object that the doing of an action may handle. -/
def objectOfAction (kernel : Kernel) : TimerAction → Option ObjectId
  | .wakeTask _ => none
  | .fireTimer timer => some (kernel.timerObject timer)

theorem KeepsTimers.handled (h : KeepsTimers a b) {object : Option ObjectId} :
    Handled a.heap object b.heap := by
  rw [h.heap]; exact .kept

/-- A task in use has an object, and it is not object 0. -/
theorem sleepObject_inRange (h : a.WellFormed) {task : TaskId} {entry : Task}
    (hget : a.tasks.get task = .ok entry) :
    0 < sleepObject task ∧ sleepObject task < a.heap.objects.size := by
  obtain ⟨hpos, hentry, -⟩ := TaskTable.get_eq_ok.1 hget
  exact ⟨hpos, h.object_lt (h.sleepObject_serves (Array.getElem?_eq_some_iff.1 hentry).1)⟩

theorem timerObject_pos (h : a.WellFormed) (id : TimerId) : 0 < a.timerObject id := by
  have htasks := Config.two_le_maxTasks h.valid
  unfold timerObject
  rw [h.tasks_size]
  exact Nat.add_pos_left (by omega) _

/-- So has a timer in use. -/
theorem timerObject_inRange (h : a.WellFormed) {timer : Timer} (hget : a.timers.get id = .ok timer) :
    0 < a.timerObject id ∧ a.timerObject id < a.heap.objects.size :=
  ⟨timerObject_pos h id, h.object_lt (h.timerObject_serves (TimerTable.lt_size_of_get hget))⟩

section Serves

variable {object : ObjectId} {action : TimerAction} (h : a.WellFormed)

include h

/-- The object that fires a timer is that of the timer. -/
theorem WellFormed.eq_timerObject (hserves : a.config.Serves object (.fireTimer id)) :
    object = a.timerObject id := by
  rw [hserves.2, ← h.tasks_size]; rfl

/-- What the object of a timer does is to fire the timer. -/
theorem WellFormed.eq_fireTimer (hserves : a.config.Serves (a.timerObject id) action) :
    action = .fireTimer id := by
  unfold timerObject at hserves
  rw [h.tasks_size] at hserves
  cases action with
  | wakeTask task =>
    obtain ⟨hlt, heq⟩ := hserves
    exact absurd hlt (Nat.not_lt.2 (heq ▸ Nat.le_add_right ..))
  | fireTimer timer =>
    have heq := Nat.add_left_cancel hserves.2
    cases timer
    cases id
    cases heq
    rfl

end Serves

section Operations

variable {task : TaskId}

theorem TaskFreed.handled {r : Except Error Unit} (h : TaskFreed task s r t) :
    Handled s.kernel.heap (some (sleepObject task)) t.kernel.heap := by
  cases h with
  | refused => exact .kept
  | freed _ hremove => exact .removed hremove

theorem Slept.handled {ticks : Nat} {r : Except Error (Progress Unit)} (hwf : s.kernel.WellFormed)
    (h : Slept task ticks s r t) : Handled s.kernel.heap (some (sleepObject task)) t.kernel.heap := by
  cases h with
  | refused => exact .kept
  | interrupted _ _ hstart hremove => exact .cut hstart hremove
  | waits hget _ hstart =>
    obtain ⟨hpos, hlt⟩ := sleepObject_inRange hwf hget
    exact .started hpos hlt hstart

theorem SleepResumed.handled {r : Except Error (Progress Unit)} (h : SleepResumed task s r t) :
    Handled s.kernel.heap (some (sleepObject task)) t.kernel.heap := by
  cases h with
  | woken | waits => exact .kept
  | interrupted _ _ _ hremove => exact .removed hremove

theorem TimerStarted.handled {delay : Nat} {reload : Option Nat} {r : Except Error Unit}
    (hwf : s.kernel.WellFormed) (h : TimerStarted id delay reload s r t) :
    Handled s.kernel.heap (some (s.kernel.timerObject id)) t.kernel.heap := by
  cases h with
  | refused => exact .kept
  | started hget hstart =>
    obtain ⟨hpos, hlt⟩ := timerObject_inRange hwf hget
    exact .started hpos hlt hstart

theorem TimerAborted.handled {r : Except Error Unit} (h : TimerAborted id s r t) :
    Handled s.kernel.heap (some (s.kernel.timerObject id)) t.kernel.heap := by
  cases h with
  | refused | expired | idle => exact .kept
  | stopped _ _ hremove => exact .removed hremove

theorem TimerDeleted.handled {r : Except Error Unit} (h : TimerDeleted id s r t) :
    Handled s.kernel.heap (some (s.kernel.timerObject id)) t.kernel.heap := by
  cases h with
  | refused => exact .kept
  | deleted _ hremove => exact .removed hremove

theorem TimerFired.handled {r : Except Error Unit} (hwf : s.kernel.WellFormed)
    (h : TimerFired id s r t) :
    Handled s.kernel.heap (some (s.kernel.timerObject id)) t.kernel.heap := by
  cases h with
  | scheduled | inactive => exact .kept
  | expired _ _ hact => exact hact.keepsTimers.handled
  | rearmed _ hget hstart hact =>
    obtain ⟨hpos, hlt⟩ := timerObject_inRange hwf hget
    rw [hact.keepsTimers.heap]
    exact .started hpos hlt hstart

/-- An operation handles the object it is about at most. -/
theorem Performed.handled {operation : Operation} {r : Except Error (Progress Value)}
    (hwf : s.kernel.WellFormed) (h : Performed s operation r t) :
    Handled s.kernel.heap (objectOf s.kernel operation) t.kernel.heap := by
  cases operation with
  | identifyTask | taskAttributes | postedEvents | identifyQueue | queueLength | freeContainers
    | timerState | ticks | scheduledObjects | config | coreSnapshot | queueSnapshot | coreText
    | queueText =>
    obtain ⟨_, ⟨-, rfl⟩, -⟩ := h
    exact .kept
  | allocateTask => obtain ⟨_, h, -⟩ := h; exact h.keepsTimers.handled
  | interruptTask => obtain ⟨_, h, -⟩ := h; exact h.keepsTimers.handled
  | postEvents => obtain ⟨_, h, -⟩ := h; exact h.keepsTimers.handled
  | postFromDriver => obtain ⟨_, h, -⟩ := h; exact h.keepsTimers.handled
  | clearEvents => obtain ⟨_, h, -⟩ := h; exact h.keepsTimers.handled
  | waitEvents => obtain ⟨_, h, -⟩ := h; exact h.keepsTimers.handled
  | createQueue => obtain ⟨_, h, -⟩ := h; exact h.keepsTimers.handled
  | deleteQueue => obtain ⟨_, h, -⟩ := h; exact h.keepsTimers.handled
  | deleteAllQueues =>
    obtain ⟨_, h, -⟩ := h
    rw [h.kernel]; exact .kept
  | postMessage => obtain ⟨_, h, -⟩ := h; exact h.keepsTimers.handled
  | receive => obtain ⟨_, h, -⟩ := h; exact h.keepsTimers.handled
  | interruptReceiver => obtain ⟨_, h, -⟩ := h; exact h.keepsTimers.handled
  | createTimer =>
    obtain ⟨_, h, -⟩ := h
    cases h with
    | refused | created => exact .kept
  | freeTask => obtain ⟨_, h, -⟩ := h; exact h.handled
  | sleep => obtain ⟨_, h, -⟩ := h; exact h.handled hwf
  | startTimer => obtain ⟨_, h, -⟩ := h; exact h.handled hwf
  | abortTimer => obtain ⟨_, h, -⟩ := h; exact h.handled
  | deleteTimer => obtain ⟨_, h, -⟩ := h; exact h.handled

theorem Resumed.handled {wait : Wait} {r : Except Error (Progress Value)} (h : Resumed s wait r t) :
    Handled s.kernel.heap (objectOfWait wait) t.kernel.heap := by
  cases wait with
  | sleep => obtain ⟨_, h, -⟩ := h; exact h.handled
  | events => obtain ⟨_, h, -⟩ := h; exact h.keepsTimers.handled
  | message => obtain ⟨_, h, -⟩ := h; exact h.keepsTimers.handled

theorem ActionDone.handled {action : TimerAction} (hwf : s.kernel.WellFormed)
    (h : ActionDone s action t) :
    Handled s.kernel.heap (objectOfAction s.kernel action) t.kernel.heap := by
  cases h with
  | woken => exact .kept
  | fired hfired | failed hfired =>
    have hhandled := hfired.handled hwf
    exact hhandled

end Operations

theorem NextDue.sound {action : Option TimerAction} (h : NextDue s action t)
    (hsound : s.kernel.heap.Sound) : t.kernel.heap.Sound := by
  cases h with
  | popped hpop => exact hsound.removed hpop.toRemoved
  | idle => exact hsound
  | rebased _ _ hrebase => exact hsound.rebased hrebase

/-- What becomes of one object when a delivery takes out the next due object or ends. -/
inductive Turned (object : ObjectId) (a b : TimerHeap) : Prop
  /-- Another object is taken out, or nothing happens. -/
  | kept (halike : (a.object object).Alike (b.object object)) (hclock : b.clock = a.clock)
  | taken (hslot : (a.object object).slot ≠ 0) (hdue : (a.object object).wake ≤ a.clock)
    (hobject : b.object object = { a.object object with slot := 0, pending := false })
  /-- The clock is set back, and the object ahead of it by the same amount. -/
  | setBack (hslot : (a.object object).slot ≠ 0) (hahead : a.clock < (a.object object).wake)
    (hobject : b.object object = { a.object object with wake := (a.object object).wake - a.clock })
    (hclock : b.clock = 0)
  | off (hslot : (a.object object).slot = 0) (hobject : b.object object = a.object object)

theorem NextDue.turned {action : Option TimerAction} (h : NextDue s action t) (object : ObjectId) :
    Turned object s.kernel.heap t.kernel.heap := by
  cases h with
  | idle => exact .kept (.refl _) rfl
  | @popped other _ heap hpop =>
    by_cases hown : object = other
    · subst hown
      exact .taken hpop.scheduled hpop.due hpop.object
    · exact .kept (hpop.alike object hown) hpop.clock
  | @rebased heap hidle _ hrebase =>
    have hobject := hrebase.object object
    by_cases hslot : (s.kernel.heap.object object).slot = 0
    · rw [if_pos hslot] at hobject
      exact .off hslot hobject
    · rw [if_neg hslot] at hobject
      exact .setBack hslot (hidle _ hslot) hobject hrebase.clock

theorem NextDue.maxTick {action : Option TimerAction} (h : NextDue s action t) :
    t.kernel.heap.maxTick = s.kernel.heap.maxTick := by
  cases h with
  | popped hpop => exact hpop.maxTick
  | idle => rfl
  | rebased _ _ hrebase => exact hrebase.maxTick

theorem NextDue.ticks {action : Option TimerAction} (h : NextDue s action t) :
    t.kernel.heap.ticks = s.kernel.heap.ticks := by
  cases h with
  | popped hpop => exact hpop.ticks
  | idle => rfl
  | rebased _ _ hrebase => exact hrebase.ticks

theorem NextDue.timerObject {action : Option TimerAction} (h : NextDue s action t) (id : TimerId) :
    t.kernel.timerObject id = s.kernel.timerObject id := by
  cases h with
  | popped | idle | rebased => rfl

/-- A delivery ends with nothing due and with the clock below the bound. -/
theorem NextDue.quiet (hwf : s.kernel.WellFormed) (h : NextDue s none t) :
    t.kernel.heap.Idle ∧ t.kernel.heap.clock < t.kernel.heap.maxTick := by
  cases h with
  | idle hidle hclock => exact ⟨hidle, hclock⟩
  | rebased hidle _ hrebase =>
    have hmax := hwf.maxTick_le
    refine ⟨hrebase.idle hidle, ?_⟩
    rw [heap_setHeap, hrebase.clock, hrebase.maxTick]
    omega

/-! ## Scheduled timers -/

/-- The object of a timer is on the heap. -/
def Scheduled (kernel : Kernel) (id : TimerId) : Prop :=
  (kernel.heap.object (kernel.timerObject id)).slot ≠ 0

/-- A timer runs, and is armed again after the reload period if it has one. -/
def Running (kernel : Kernel) (id : TimerId) (reload : Option Nat) : Prop :=
  ∃ target, kernel.timers.get id = .ok { target, phase := .active reload }

/-- A timer runs if its object is on the heap. -/
def Live (id : TimerId) (kernel : Kernel) : Prop :=
  kernel.Scheduled id → ∃ reload, kernel.Running id reload

theorem SameTimer.scheduled (h : SameTimer id a b) : b.Scheduled id ↔ a.Scheduled id :=
  not_congr h.object.scheduled

theorem SameTimer.get (h : SameTimer id a b) : b.timers.get id = a.timers.get id := by
  unfold TimerTable.get
  rw [h.entry]

theorem SameTimer.live (h : SameTimer id a b) (hlive : Live id a) : Live id b := by
  unfold Live Running
  rw [h.scheduled, h.get]
  exact hlive

/-- The object that a timer had is off the heap. -/
theorem not_scheduled_of_removed {heap : TimerHeap}
    (hremove : TimerHeap.Removed (a.timerObject id) a.heap heap) : ¬ (a.setHeap heap).Scheduled id :=
  fun hscheduled => hscheduled (congrArg TimerObject.slot hremove.object)

theorem TimerCreated.live {target : TimerTarget} {r : Except Error TimerId}
    (h : TimerCreated target s r t) (hlive : Live id s.kernel) : Live id t.kernel := by
  cases h with
  | refused => exact hlive
  | @created new hvacant =>
    by_cases hnew : new = id
    · subst hnew
      intro hscheduled
      obtain ⟨_, _, hget⟩ := hlive hscheduled
      rw [TimerTable.get_eq_ok, hvacant] at hget
      cases hget
    · exact (SameTimer.setTimer hnew ..).live hlive

theorem TimerStarted.live {delay : Nat} {reload : Option Nat} {r : Except Error Unit}
    (h : TimerStarted id delay reload s r t) (hlive : Live id s.kernel) : Live id t.kernel := by
  cases h with
  | refused => exact hlive
  | started hget => exact fun _ => ⟨_, _, TimerTable.get_set_self (TimerTable.lt_size_of_get hget) _⟩

theorem TimerAborted.live {r : Except Error Unit} (h : TimerAborted id s r t)
    (hlive : Live id s.kernel) : Live id t.kernel := by
  cases h with
  | refused => exact hlive
  | stopped _ _ hremove => exact (not_scheduled_of_removed (a := s.kernel) hremove).elim
  | expired hget hphase | idle hget hphase =>
    -- the timer was not running, so that its object is not on the heap
    intro hscheduled
    obtain ⟨_, _, hrunning⟩ := hlive hscheduled
    rw [hget] at hrunning
    cases hrunning
    cases hphase

theorem TimerDeleted.live {r : Except Error Unit} (h : TimerDeleted id s r t)
    (hlive : Live id s.kernel) : Live id t.kernel := by
  cases h with
  | refused => exact hlive
  | deleted _ hremove => exact (not_scheduled_of_removed (a := s.kernel) hremove).elim

theorem TimerFired.live {r : Except Error Unit} (h : TimerFired id s r t)
    (hlive : Live id s.kernel) : Live id t.kernel := by
  cases h with
  | scheduled | inactive => exact hlive
  | expired hscheduled _ hact =>
    have hsame := hact.keepsTimers.sameTimer id
    exact fun hon => absurd hscheduled (hsame.scheduled.1 hon)
  | rearmed _ hget _ hact =>
    have hsame := hact.keepsTimers.sameTimer id
    exact fun _ => ⟨_, _, hsame.get.trans hget⟩

theorem Performed.live {operation : Operation} {r : Except Error (Progress Value)}
    (h : Performed s operation r t) (hlive : Live id s.kernel) : Live id t.kernel := by
  by_cases hop : Concerns id operation
  · cases operation with
    | createTimer => obtain ⟨_, h, -⟩ := h; exact h.live hlive
    | startTimer => cases hop; obtain ⟨_, h, -⟩ := h; exact h.live hlive
    | abortTimer => cases hop; obtain ⟨_, h, -⟩ := h; exact h.live hlive
    | deleteTimer => cases hop; obtain ⟨_, h, -⟩ := h; exact h.live hlive
    | _ => exact hop.elim
  · exact (h.sameTimer hop).live hlive

theorem ActionDone.live {action : TimerAction} (h : ActionDone s action t)
    (hlive : Live id s.kernel) : Live id t.kernel := by
  by_cases haction : action = .fireTimer id
  · subst haction
    cases h with
    | fired hfired | failed hfired =>
      have hrest := hfired.live hlive
      exact hrest
  · exact (h.sameTimer haction).live hlive

theorem NextDue.live {action : Option TimerAction} (h : NextDue s action t)
    (hlive : Live id s.kernel) : Live id t.kernel := by
  cases h with
  | idle => exact hlive
  | @popped object _ heap hpop =>
    by_cases hown : s.kernel.timerObject id = object
    · subst hown
      exact (not_scheduled_of_removed hpop.toRemoved).elim
    · exact (SameTimer.setHeap hpop.toAgreesBut hown).live hlive
  | @rebased heap _ _ hrebase =>
    intro hscheduled
    refine hlive fun h0 => hscheduled ?_
    show (heap.object (s.kernel.timerObject id)).slot = 0
    rw [hrebase.object, if_pos h0, h0]

end Kernel

end Executive
