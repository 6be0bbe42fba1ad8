/-
What the operations on application timers do, and what a timer does when its object has expired.
-/
import Executive.Kernel.Timers
import Executive.Proofs.Kernel.Queues

namespace Executive

namespace TimerTable

variable {timers timers' : TimerTable} {id : TimerId} {timer : Timer}

theorem get_eq_ok : timers.get id = .ok timer ↔ timers[id.index]? = some (some timer) := by
  unfold get
  split
  · rename_i found hfound
    rw [hfound, Option.some.injEq, Option.some.injEq]
    exact ⟨Except.ok.inj, congrArg _⟩
  · rename_i hnone
    constructor
    · intro h; cases h
    · intro h; exact absurd h (hnone timer)

/-- The one reason why a timer is refused. -/
theorem get_eq_error {error : Error} (h : timers.get id = .error error) : error = .invalidTimer id := by
  unfold get at h
  split at h <;> cases h
  rfl

/-- A new table holds no timer. -/
theorem get_ofSize (size : Nat) (id : TimerId) (timer : Timer) : (ofSize size).get id ≠ .ok timer := by
  rw [ne_eq, get_eq_ok]
  simp [ofSize, Array.getElem?_replicate]

/-- The first vacant entry is given to a new timer. -/
theorem create_eq_ok {target : TimerTarget} (h : timers.create target = .ok (id, timers')) :
    timers[id.index]? = some none ∧ timers' = timers.setIfInBounds id.index (some { target }) := by
  unfold create at h
  split at h
  · rename_i i hvacant
    cases h
    have hany := List.find?_some hvacant
    obtain ⟨entry, hentry, hnone⟩ := (Option.any_eq_true ..).1 hany
    rw [Option.isNone_iff_eq_none.1 hnone] at hentry
    exact ⟨hentry, rfl⟩
  · cases h

/-- The number leads to what was entered under it. -/
theorem get_set_self (h : id.index < timers.size) (timer : Timer) :
    get (timers.setIfInBounds id.index (some timer)) id = .ok timer := by
  rw [get_eq_ok, Array.getElem?_setIfInBounds, if_pos rfl, if_pos h]

theorem get_vacated (h : id.index < timers.size) :
    get (timers.setIfInBounds id.index none) id = .error (.invalidTimer id) := by
  unfold get
  rw [Array.getElem?_setIfInBounds, if_pos rfl, if_pos h]

theorem lt_size_of_get (h : timers.get id = .ok timer) : id.index < timers.size :=
  (Array.getElem?_eq_some_iff.1 (get_eq_ok.1 h)).1

end TimerTable

namespace Kernel

open Critical

variable {s : Section} {id : TimerId} {timer : Timer}

/-- How the creation of a timer ends. -/
inductive TimerCreated (target : TimerTarget) (s : Section) : Except Error TimerId → Section → Prop
  | refused {error : Error} (hcreate : s.kernel.timers.create target = .error error) :
    TimerCreated target s (.error error) s
  | created {id : TimerId} (hvacant : s.kernel.timers[id.index]? = some none) :
    TimerCreated target s (.ok id)
      ⟨s.kernel.setTimer id (some { target }), s.signals ++ [.report (.timerCreated id target)]⟩

theorem createTimer_spec (target : TimerTarget) :
    (createTimer target).Ends s (TimerCreated target s) := by
  simp only [createTimer, Service.ends_bind, Service.ends_lift, Service.ends_result, ends_kernel]
  cases hcreate : s.kernel.timers.create target with
  | error error => exact .refused hcreate
  | ok p =>
    obtain ⟨id, timers⟩ := p
    obtain ⟨hvacant, rfl⟩ := TimerTable.create_eq_ok hcreate
    simp only [Service.ends_pure, ends_setTimers, ends_report]
    exact .created hvacant

theorem TimerCreated.wellFormed {target : TimerTarget} {r : Except Error TimerId} {t : Section}
    (h : s.kernel.WellFormed) (hp : TimerCreated target s r t) : t.kernel.WellFormed := by
  cases hp with
  | refused => exact h
  | created => exact h.setTimer ..

/-- How a start of a timer ends. -/
inductive TimerStarted (id : TimerId) (delay : Nat) (reload : Option Nat) (s : Section) :
    Except Error Unit → Section → Prop
  | refused {error : Error} (hget : s.kernel.timers.get id = .error error) :
    TimerStarted id delay reload s (.error error) s
  | started {timer : Timer} {heap : TimerHeap} (hget : s.kernel.timers.get id = .ok timer)
    (hstart : TimerHeap.Started (s.kernel.timerObject id) delay (.fireTimer id) s.kernel.heap heap) :
    TimerStarted id delay reload s (.ok ())
      ⟨(s.kernel.setHeap heap).setTimer id (some { timer with phase := .active (Timer.period? reload) }),
        s.signals ++ [.report (startRecord s.kernel.heap (s.kernel.timerObject id) delay (.fireTimer id)),
          .report (.timerStarted id delay reload)]⟩

theorem startTimer_spec (h : s.kernel.WellFormed) (id : TimerId) (delay : Nat) (reload : Option Nat) :
    (startTimer id delay reload).Ends s fun r t =>
      t.kernel.WellFormed ∧ TimerStarted id delay reload s r t := by
  cases hget : s.kernel.timers.get id with
  | error error => simpa [startTimer, hget] using ⟨h, .refused hget⟩
  | ok timer =>
    have hlt := TimerTable.lt_size_of_get hget
    have hwf := h.setTimer id (some { timer with phase := .active (Timer.period? reload) })
    simp only [startTimer, Service.ends_bind, Service.ends_lift, Service.ends_result, ends_kernel,
      hget, ends_setTimer]
    refine ⟨hlt, Critical.Ends.mono (arm_spec hwf delay (h.timerObject_serves hlt)) fun _ t ha => ?_⟩
    obtain ⟨heap, hs, hwf', rfl⟩ := ha
    simp only [ends_report, setHeap_setTimer, List.append_assoc, List.cons_append, List.nil_append]
    exact ⟨hwf', .started hget hs⟩

/-- How an abort of a timer ends. -/
inductive TimerAborted (id : TimerId) (s : Section) : Except Error Unit → Section → Prop
  | refused {error : Error} (hget : s.kernel.timers.get id = .error error) :
    TimerAborted id s (.error error) s
  | stopped {timer : Timer} {reload : Option Nat} {heap : TimerHeap}
    (hget : s.kernel.timers.get id = .ok timer) (hphase : timer.phase = .active reload)
    (hremove : TimerHeap.Removed (s.kernel.timerObject id) s.kernel.heap heap) :
    TimerAborted id s (.ok ())
      ⟨(s.kernel.setHeap heap).setTimer id (some { timer with phase := .idle }), s.signals⟩
  | expired {timer : Timer} (hget : s.kernel.timers.get id = .ok timer) (hphase : timer.phase = .fired) :
    TimerAborted id s (.error .timerExpired)
      ⟨s.kernel.setTimer id (some { timer with phase := .idle }), s.signals⟩
  | idle {timer : Timer} (hget : s.kernel.timers.get id = .ok timer) (hphase : timer.phase = .idle) :
    TimerAborted id s (.error .timerIdle)
      ⟨s.kernel.setTimer id (some { timer with phase := .idle }), s.signals⟩

theorem abortTimer_spec (h : s.kernel.WellFormed) (id : TimerId) :
    (abortTimer id).Ends s fun r t => t.kernel.WellFormed ∧ TimerAborted id s r t := by
  cases hget : s.kernel.timers.get id with
  | error error => simpa [abortTimer, hget] using ⟨h, .refused hget⟩
  | ok timer =>
    have hlt := TimerTable.lt_size_of_get hget
    have hwf := h.setTimer id (some { timer with phase := .idle })
    simp only [abortTimer, Service.ends_bind, Service.ends_lift, Service.ends_result, ends_kernel,
      hget, ends_setTimer]
    refine ⟨hlt, ?_⟩
    cases hphase : timer.phase with
    | active reload =>
      have hobject := h.object_lt (h.timerObject_serves hlt)
      simp only [Service.ends_bind, Service.ends_lift, ends_kernel]
      refine Critical.Ends.mono (disarm_spec hwf hobject) ?_
      rintro _ _ ⟨heap, hr, hwf', rfl⟩
      exact ⟨hwf', .stopped hget hphase hr⟩
    | fired => exact (Service.ends_throw _).2 ⟨hwf, .expired hget hphase⟩
    | idle => exact (Service.ends_throw _).2 ⟨hwf, .idle hget hphase⟩

/-- How the deletion of a timer ends. -/
inductive TimerDeleted (id : TimerId) (s : Section) : Except Error Unit → Section → Prop
  | refused {error : Error} (hget : s.kernel.timers.get id = .error error) :
    TimerDeleted id s (.error error) s
  | deleted {timer : Timer} {heap : TimerHeap} (hget : s.kernel.timers.get id = .ok timer)
    (hremove : TimerHeap.Removed (s.kernel.timerObject id) s.kernel.heap heap) :
    TimerDeleted id s (.ok ())
      ⟨(s.kernel.setHeap heap).setTimer id none, s.signals ++ [.report (.timerDeleted id)]⟩

theorem deleteTimer_spec (h : s.kernel.WellFormed) (id : TimerId) :
    (deleteTimer id).Ends s fun r t => t.kernel.WellFormed ∧ TimerDeleted id s r t := by
  cases hget : s.kernel.timers.get id with
  | error error => simpa [deleteTimer, hget] using ⟨h, .refused hget⟩
  | ok timer =>
    have hlt := TimerTable.lt_size_of_get hget
    have hobject := h.object_lt (h.timerObject_serves hlt)
    simp only [deleteTimer, Service.ends_bind, Service.ends_lift, Service.ends_result, ends_kernel,
      hget, ends_setTimer]
    refine ⟨hlt, Critical.Ends.mono (disarm_spec (h.setTimer id none) hobject) fun _ t hd => ?_⟩
    obtain ⟨heap, hr, hwf, rfl⟩ := hd
    rw [ends_report]
    exact ⟨hwf, .deleted hget hr⟩

theorem timerState_spec (id : TimerId) :
    (timerState id).Ends s fun r t => r = s.kernel.timers.state id ∧ t = s := by
  simp [timerState]

/-! ## Firing -/

/-- How the action of a timer on its target ends. -/
def ActedOn (target : TimerTarget) (s : Section) (r : Except Error Unit) (t : Section) : Prop :=
  match target with
  | .event task events => EventsPosted task events s r t
  | .message queue message => MessagePosted queue message .fifo s r t

theorem actOn_spec (h : s.kernel.WellFormed) (target : TimerTarget) :
    (actOn target).Ends s fun r t => t.kernel.WellFormed ∧ ActedOn target s r t := by
  cases target with
  | event task events => exact (postEvents_spec task events).mono fun r t hp => ⟨hp.wellFormed h, hp⟩
  | message queue message => exact postMessage_spec h queue message .fifo

/-- How the firing of a timer ends. -/
inductive TimerFired (id : TimerId) (s : Section) : Except Error Unit → Section → Prop
  | scheduled (hscheduled : (s.kernel.heap.object (s.kernel.timerObject id)).slot ≠ 0) :
    TimerFired id s (.ok ()) s
  | inactive (hinactive : ∀ target reload, s.kernel.timers.get id ≠ .ok { target, phase := .active reload }) :
    TimerFired id s (.ok ()) s
  | expired {target : TimerTarget} {r : Except Error Unit} {t : Section}
    (hscheduled : (s.kernel.heap.object (s.kernel.timerObject id)).slot = 0)
    (hget : s.kernel.timers.get id = .ok { target, phase := .active none })
    (hact : ActedOn target ⟨s.kernel.setTimer id (some { target, phase := .fired }),
      s.signals ++ [.report (.timerFired id)]⟩ r t) : TimerFired id s r t
  | rearmed {target : TimerTarget} {period : Nat} {heap : TimerHeap} {r : Except Error Unit} {t : Section}
    (hscheduled : (s.kernel.heap.object (s.kernel.timerObject id)).slot = 0)
    (hget : s.kernel.timers.get id = .ok { target, phase := .active (some period) })
    (hstart : TimerHeap.Started (s.kernel.timerObject id) period (.fireTimer id) s.kernel.heap heap)
    (hact : ActedOn target ⟨s.kernel.setHeap heap,
      s.signals ++ [.report (startRecord s.kernel.heap (s.kernel.timerObject id) period (.fireTimer id)),
        .report (.timerFired id)]⟩ r t) : TimerFired id s r t

theorem fireTimer_spec (h : s.kernel.WellFormed) (hid : id.index < s.kernel.timers.size) :
    (fireTimer id).Ends s fun r t => t.kernel.WellFormed ∧ TimerFired id s r t := by
  have hobject := h.object_lt (h.timerObject_serves hid)
  simp only [fireTimer, Service.ends_bind, Service.ends_lift, Service.ends_checked, ends_kernel,
    TimerHeap.isScheduled_eq hobject, Except.ok.injEq, exists_eq_left']
  by_cases hslot : (s.kernel.heap.object (s.kernel.timerObject id)).slot = 0
  · simp only [hslot, bne_self_eq_false, Bool.false_eq_true, if_false, Service.ends_bind,
      Service.ends_lift, ends_kernel]
    cases hget : s.kernel.timers.get id with
    | error error =>
      exact (Service.ends_pure _).2 ⟨h, .inactive fun _ _ heq => by rw [hget] at heq; cases heq⟩
    | ok timer =>
      obtain ⟨target, phase⟩ := timer
      cases phase with
      | idle =>
        exact (Service.ends_pure _).2 ⟨h, .inactive fun _ _ heq => by rw [hget] at heq; cases heq⟩
      | fired =>
        exact (Service.ends_pure _).2 ⟨h, .inactive fun _ _ heq => by rw [hget] at heq; cases heq⟩
      | active reload =>
        cases reload with
        | none =>
          simp only [Service.ends_bind, Service.ends_lift, ends_setTimer, ends_report]
          refine ⟨hid, Service.Ends.mono (actOn_spec (h.setTimer ..) target) fun r t hacted => ?_⟩
          exact ⟨hacted.1, .expired hslot hget hacted.2⟩
        | some period =>
          simp only [Service.ends_bind, Service.ends_lift, ends_report]
          refine Critical.Ends.mono (arm_spec h period (h.timerObject_serves hid)) ?_
          rintro _ _ ⟨heap, hstart, hwf, rfl⟩
          refine Service.Ends.mono (actOn_spec hwf target) fun r t hacted => ⟨hacted.1, ?_⟩
          simp only [List.append_assoc, List.cons_append, List.nil_append] at hacted
          exact .rearmed hslot hget hstart hacted.2
  · have hscheduled : ((s.kernel.heap.object (s.kernel.timerObject id)).slot != 0) = true :=
      bne_iff_ne.2 hslot
    simp only [hscheduled, if_true]
    exact (Service.ends_pure _).2 ⟨h, .scheduled hslot⟩

end Kernel

end Executive
