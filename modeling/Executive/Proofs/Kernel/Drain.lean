/-
A drain: due objects are taken out one after the other, and the action of each is done before the
next one is taken out (`Drains`). As long as no periodic timer is armed again at a clock that cannot
go on, each object is visited once, in the order of the due ticks, and what is not visited stays
ahead of the clock as it was (`Drained`). An armed timer comes back due later, which is what ends a
drain; at the end of the clock it comes back due at once, and a drain does not end (`Endless`).
-/
import Executive.Proofs.Kernel.Objects
import Mathlib.Data.List.Perm.Subperm

namespace Executive

open TimerHeap (clockLimit)

/-! ## Ticks that are left -/

/-- Object `id` is as many ticks ahead of the clock in heap `b` as in heap `a`. -/
structure TimerHeap.KeepsLead (id : ObjectId) (a b : TimerHeap) : Prop where
  scheduled : (b.object id).slot = 0 ↔ (a.object id).slot = 0
  action : (b.object id).action = (a.object id).action
  pending : (b.object id).pending = (a.object id).pending
  wake : (a.object id).slot ≠ 0 → (b.object id).wake + a.clock = (a.object id).wake + b.clock

namespace TimerHeap.KeepsLead

variable {a b c : TimerHeap} {id : ObjectId}

theorem refl (id : ObjectId) (a : TimerHeap) : KeepsLead id a a := ⟨Iff.rfl, rfl, rfl, fun _ => rfl⟩

theorem trans (h : KeepsLead id a b) (k : KeepsLead id b c) : KeepsLead id a c := by
  refine ⟨k.scheduled.trans h.scheduled, k.action.trans h.action, k.pending.trans h.pending, ?_⟩
  intro hslot
  have hab := h.wake hslot
  have hbc := k.wake fun h0 => hslot (h.scheduled.1 h0)
  omega

theorem of_alike (h : (a.object id).Alike (b.object id)) (hclock : b.clock = a.clock) :
    KeepsLead id a b :=
  ⟨h.scheduled, h.action, h.pending, fun _ => by rw [h.wake, hclock]⟩

/-- A rebase sets the due tick back as much as the clock. -/
theorem of_rebased (h : Rebased a b) (hidle : a.Idle) (id : ObjectId) : KeepsLead id a b := by
  have hobject := h.object id
  by_cases h0 : (a.object id).slot = 0
  · rw [if_pos h0] at hobject
    exact ⟨by rw [hobject], by rw [hobject], by rw [hobject], fun hslot => absurd h0 hslot⟩
  · have hdue := hidle id h0
    rw [if_neg h0] at hobject
    refine ⟨by rw [hobject], by rw [hobject], by rw [hobject], fun _ => ?_⟩
    rw [hobject, h.clock]
    dsimp only
    omega

end TimerHeap.KeepsLead

/-- An object that a drain takes out, its action, and the signals that doing the action gave. -/
structure Visit where
  object : ObjectId
  action : TimerAction
  signals : List Signal
  deriving DecidableEq, Repr

namespace Kernel

open TimerHeap

variable {a b c : Kernel} {visit : Visit} {visits : List Visit} {id : TimerId}

/-- A kernel when ticks have been delivered and nothing has been taken out yet. -/
def ticked (kernel : Kernel) (delta : Nat) : Kernel := kernel.setHeap (kernel.heap.advanceClock delta)

/-- The clock of a delivery of ticks, which stays at its end. -/
def clockAfter (kernel : Kernel) (delta : Nat) : Nat := min (kernel.heap.clock + delta) clockLimit

/-- One object is taken out and its action is done. -/
inductive Visits (a : Kernel) : Visit → Kernel → Prop
  | mk {object : ObjectId} {action : TimerAction} {heap : TimerHeap} {t : Section}
    (hpop : a.heap.popDue = .ok (some (object, action), heap))
    (hact : (runAction action).run { kernel := a.setHeap heap } = .ok ((), t)) :
    Visits a { object, action, signals := t.signals } t.kernel

/-- Objects are visited one after the other. -/
inductive Drains : Kernel → List Visit → Kernel → Prop
  | rest (a : Kernel) : Drains a [] a
  | visit {a b c : Kernel} {visit : Visit} {visits : List Visit} (hvisit : Visits a visit b)
    (hrest : Drains b visits c) : Drains a (visit :: visits) c

/-! ## One visit -/

theorem Visits.spec (h : a.WellFormed) (hvisit : Visits a visit b) : b.WellFormed ∧ ∃ heap t,
    Popped visit.object visit.action a.heap heap ∧
    ActionDone { kernel := a.setHeap heap } visit.action t ∧ t.kernel = b ∧ t.signals = visit.signals ∧
    (a.setHeap heap).WellFormed := by
  obtain @⟨object, action, heap, t, hpop, hact⟩ := hvisit
  obtain ⟨hwf, hpopped⟩ := Popped.of_popDue h.heap hpop
  have hwf' := h.removed hwf hpopped.toRemoved
  have hends := runAction_spec (s := { kernel := a.setHeap heap }) hwf' (h.serves _ _ hpopped.armed)
  obtain ⟨hkernel, hdone⟩ := hends.of_run hact
  exact ⟨hkernel, heap, t, hpopped, hdone, rfl, rfl, hwf'⟩

/-- A drain goes on while an object is due. -/
theorem exists_visit (h : a.WellFormed) (hdue : ¬ a.heap.Idle) : ∃ visit b, Visits a visit b := by
  rcases popDue_spec h.heap with ⟨hidle, -⟩ | ⟨object, action, heap, hpop, hwf, hpopped⟩
  · exact absurd hidle hdue
  · have hwf' := h.removed hwf hpopped.toRemoved
    obtain ⟨_, t, hact, -⟩ :=
      runAction_spec (s := { kernel := a.setHeap heap }) hwf' (h.serves _ _ hpopped.armed)
    exact ⟨_, _, .mk hpop hact⟩

/-- With nothing due there is no visit. -/
theorem Visits.not_idle (h : a.WellFormed) (hvisit : Visits a visit b) : ¬ a.heap.Idle := by
  intro hidle
  obtain ⟨-, _, _, hpop, -⟩ := hvisit.spec h
  exact Nat.not_lt.2 hpop.due (hidle _ hpop.scheduled)

theorem Visits.unique {visit' : Visit} (hvisit : Visits a visit b) (hother : Visits a visit' c) :
    visit' = visit ∧ c = b := by
  obtain @⟨_, _, _, _, hpop, hact⟩ := hvisit
  obtain @⟨_, _, _, _, hpop', hact'⟩ := hother
  rw [hpop] at hpop'
  cases hpop'
  rw [hact] at hact'
  cases hact'
  exact ⟨rfl, rfl⟩

/-- There is one way only in which a drain goes on until nothing is due. -/
theorem Drains.unique (hdrains : Drains a visits b) : a.WellFormed → b.heap.Idle →
    ∀ {visits' : List Visit} {c : Kernel}, Drains a visits' c → c.heap.Idle → visits' = visits ∧ c = b := by
  induction hdrains with
  | rest a =>
    intro h hidle visits' c hother _
    cases hother with
    | rest => exact ⟨rfl, rfl⟩
    | visit hvisit => exact absurd hidle (hvisit.not_idle h)
  | visit hvisit _ ih =>
    intro h hidle visits' c hother hidle'
    cases hother with
    | rest => exact absurd hidle' (hvisit.not_idle h)
    | visit hvisit' hrest =>
      obtain ⟨rfl, rfl⟩ := hvisit.unique hvisit'
      obtain ⟨rfl, rfl⟩ := ih (hvisit.spec h).1 hidle hrest hidle'
      exact ⟨rfl, rfl⟩

theorem Drains.append {rest : List Visit} (hdrains : Drains a visits b) :
    Drains b rest c → Drains a (visits ++ rest) c := by
  induction hdrains with
  | rest => exact id
  | visit hvisit _ ih => exact fun hrest => .visit hvisit (ih hrest)

/-- What a kernel is like whenever a drain takes out its next object. -/
structure Ticking (kernel : Kernel) : Prop where
  wellFormed : kernel.WellFormed
  sound : kernel.heap.Sound
  live : ∀ id, Live id kernel
  clock_le : kernel.heap.clock ≤ clockLimit

/-- A visit changes one object of the heap and at most the timer that has the object. -/
structure Visited (a : Kernel) (visit : Visit) (b : Kernel) : Prop
    extends AgreesBut visit.object a.heap b.heap where
  ticking : b.Ticking
  config : b.config = a.config
  scheduled : (a.heap.object visit.object).slot ≠ 0
  due : (a.heap.object visit.object).wake ≤ a.heap.clock
  first : ∀ j, (a.heap.object j).slot ≠ 0 →
    (a.heap.object visit.object).wake ≤ (a.heap.object j).wake
  armed : (a.heap.object visit.object).action = some visit.action
  timer : ∀ id, a.timerObject id ≠ visit.object → b.timers[id.index]? = a.timers[id.index]?

theorem timerObject_congr (ha : a.WellFormed) (hb : b.WellFormed) (hconfig : b.config = a.config)
    (id : TimerId) : b.timerObject id = a.timerObject id := by
  unfold timerObject
  rw [ha.tasks_size, hb.tasks_size, hconfig]

theorem Visits.visited (h : a.Ticking) (hvisit : Visits a visit b) : Visited a visit b := by
  obtain ⟨hwf, heap, t, hpop, hdone, rfl, -, hwf'⟩ := hvisit.spec h.wellFormed
  have hserves := h.wellFormed.serves _ _ hpop.armed
  have hpopped : NextDue { kernel := a } (some visit.action) _ := .popped hpop
  have hhandled := hdone.handled hwf'
  have hagrees : AgreesBut visit.object heap t.kernel.heap := by
    cases haction : visit.action with
    | wakeTask =>
      rw [haction] at hhandled
      rw [hhandled.eq_of_none]
      exact .refl _ _
    | fireTimer id =>
      rw [haction] at hhandled hserves
      rw [h.wellFormed.eq_timerObject hserves]
      exact hhandled.agreesBut
  refine ⟨hpop.toAgreesBut.trans hagrees, ⟨hwf, ?_, ?_, ?_⟩, hdone.config_eq, hpop.scheduled, hpop.due,
    hpop.first, hpop.armed, fun id hother => ?_⟩
  · exact (hpopped.sound h.sound).handled hhandled
  · exact fun id => hdone.live (hpopped.live (h.live id))
  · rw [hhandled.clock]
    exact Nat.le_trans (Nat.le_of_eq hpop.clock) h.clock_le
  · refine (hdone.sameTimer fun haction => hother ?_).entry
    rw [haction] at hserves
    exact (h.wellFormed.eq_timerObject hserves).symm

/-! ## What becomes of a visited object -/

/-- What is reported when the target of a timer refuses. -/
def failureSignals (id : TimerId) : Except Error Unit → List Signal
  | .ok _ => []
  | .error error => [.report (.timerFailed id error)]

/-- A timer fires and acts on its target, and a failure is reported. -/
def Fires (id : TimerId) (target : TimerTarget) (signals : List Signal) : Prop :=
  ∃ s r t, .report (.timerFired id) ∈ s.signals ∧ ActedOn target s r t ∧
    signals = t.signals ++ failureSignals id r

/-- What is left in kernel `b` of an object that was visited, with kernel `a` before the drain and
the clock of the drain at `now`: a sleep is over, a timer without a period has fired, and one with a
period is scheduled anew. -/
inductive Aftermath (now : Nat) (a b : Kernel) (object : ObjectId) : TimerAction → List Signal → Prop
  | woken {task : TaskId} (hoff : (b.heap.object object).slot = 0)
    (hpending : (b.heap.object object).pending = false) :
    Aftermath now a b object (.wakeTask task) [.notify (.task task)]
  | fired {id : TimerId} {target : TimerTarget} {signals : List Signal}
    (hget : a.timers.get id = .ok { target, phase := .active none }) (hfires : Fires id target signals)
    (hentry : b.timers.get id = .ok { target, phase := .fired })
    (hoff : (b.heap.object object).slot = 0) (hpending : (b.heap.object object).pending = false) :
    Aftermath now a b object (.fireTimer id) signals
  | rearmed {id : TimerId} {target : TimerTarget} {period : Nat} {signals : List Signal}
    (hget : a.timers.get id = .ok { target, phase := .active (some period) })
    (hfires : Fires id target signals)
    (hentry : b.timers.get id = .ok { target, phase := .active (some period) })
    (hon : (b.heap.object object).slot ≠ 0)
    (hwake : (b.heap.object object).wake = b.heap.clock +
      min (a.heap.span period) (clockLimit - now)) :
    Aftermath now a b object (.fireTimer id) signals

theorem Aftermath.congr {now : Nat} {object : ObjectId} {action : TimerAction} {signals : List Signal}
    (h : Aftermath now a b object action signals) (hkeeps : KeepsLead object b.heap c.heap)
    (htimer : ∀ id, action = .fireTimer id → c.timers[id.index]? = b.timers[id.index]?) :
    Aftermath now a c object action signals := by
  have hget {id : TimerId} (h : c.timers[id.index]? = b.timers[id.index]?) :
      c.timers.get id = b.timers.get id := by
    unfold TimerTable.get
    rw [h]
  cases h with
  | woken hoff hpending => exact .woken (hkeeps.scheduled.2 hoff) (hkeeps.pending.trans hpending)
  | fired hgot hfires hentry hoff hpending =>
    exact .fired hgot hfires ((hget (htimer _ rfl)).trans hentry) (hkeeps.scheduled.2 hoff)
      (hkeeps.pending.trans hpending)
  | rearmed hgot hfires hentry hon hwake =>
    have hlead := hkeeps.wake hon
    exact .rearmed hgot hfires ((hget (htimer _ rfl)).trans hentry)
      (fun h0 => hon (hkeeps.scheduled.1 h0)) (by omega)

/-- The due tick of a start, as ticks ahead of the clock. -/
theorem wakeAfter_eq {heap : TimerHeap} (hclock : heap.clock ≤ clockLimit) (delay : Nat) :
    heap.wakeAfter delay = heap.clock + min (heap.span delay) (clockLimit - heap.clock) := by
  unfold wakeAfter
  omega

theorem TimerFired.aftermath {object : ObjectId} {heap : TimerHeap} {t u : Section} {r : Except Error Unit}
    (h : a.Ticking) (hpop : Popped object (.fireTimer id) a.heap heap)
    (hobject : a.timerObject id = object) (hfired : TimerFired id { kernel := a.setHeap heap } r t)
    (hkernel : u.kernel = t.kernel)
    (hsignals : u.signals = t.signals ++ failureSignals id r) :
    Aftermath a.heap.clock a u.kernel object (.fireTimer id) u.signals := by
  subst hobject
  have hoff : (heap.object (a.timerObject id)).slot = 0 := by rw [hpop.object]
  obtain ⟨reload, target, hrunning⟩ := h.live id hpop.scheduled
  cases hfired with
  | scheduled hon => exact absurd hoff hon
  | inactive hinactive => exact absurd hrunning (hinactive _ _)
  | @expired target _ _ _ hget hact =>
    have hkeeps := hact.keepsTimers
    have hentry := TimerTable.get_set_self (TimerTable.lt_size_of_get hget) { target, phase := .fired }
    rw [hkernel]
    refine .fired hget ⟨_, r, t, by simp, hact, hsignals⟩ ?_ ?_ ?_
    · rw [hkeeps.timers]; exact hentry
    · rw [hkeeps.heap]; exact hoff
    · rw [hkeeps.heap]
      show (heap.object (a.timerObject id)).pending = false
      rw [hpop.object]
  | @rearmed target period armed _ _ _ hget hstart hact =>
    have hkeeps := hact.keepsTimers
    have hstart : Started (a.timerObject id) period (.fireTimer id) heap armed := hstart
    have hheap : t.kernel.heap = armed := hkeeps.heap
    rw [hkernel]
    refine .rearmed hget ⟨_, r, t, by simp, hact, hsignals⟩ ?_ ?_ ?_
    · rw [hkeeps.timers]; exact hget
    · -- the place of the object itself is vacant
      have hin := h.wellFormed.heap.linked.inUse_lt
      have hslots : heap.capacity = a.heap.capacity := congrArg (· - 1) hpop.size_slots
      have hinUse := hpop.inUse
      rw [if_neg hpop.scheduled] at hinUse
      have hsome := (h.wellFormed.heap.linked.occupant_slot _ trivial hpop.scheduled).1
      have hscheduled := hpop.scheduled
      rw [hheap, hstart.scheduled, hslots, inUseBut, if_pos hoff, hinUse, capacity]
      omega
    · have hclock : heap.clock ≤ clockLimit := by rw [hpop.clock]; exact h.clock_le
      rw [hheap, hstart.wake, hstart.clock, wakeAfter_eq hclock, hpop.clock, span_congr hpop.maxTick]

theorem Visits.aftermath (h : a.Ticking) (hvisit : Visits a visit b) :
    Aftermath a.heap.clock a b visit.object visit.action visit.signals := by
  obtain ⟨hwf, heap, t, hpop, hdone, rfl, hsignals, -⟩ := hvisit.spec h.wellFormed
  have hserves := h.wellFormed.serves _ _ hpop.armed
  rw [← hsignals]
  generalize visit.action = action at hpop hdone hserves
  cases hdone with
  | woken =>
    have hobject : (a.setHeap heap).heap.object visit.object = _ := hpop.object
    exact .woken (by rw [hobject]) (by rw [hobject])
  | fired hfired =>
    have hobject := h.wellFormed.eq_timerObject hserves
    exact hfired.aftermath h hpop hobject.symm rfl (List.append_nil _).symm
  | failed hfired =>
    have hobject := h.wellFormed.eq_timerObject hserves
    exact hfired.aftermath h hpop hobject.symm rfl rfl

/-! ## Drains without an end -/

/-- The clock cannot go on, and a timer that will be armed again is on the heap. -/
def Endless (kernel : Kernel) : Prop :=
  kernel.heap.clock = clockLimit ∧ ∃ id period, kernel.Scheduled id ∧ kernel.Running id (some period)

/-- Something is always due then. -/
theorem Endless.not_idle (h : a.Endless) (hsound : a.heap.Sound) : ¬ a.heap.Idle := by
  intro hidle
  obtain ⟨hclock, id, _, hscheduled, -⟩ := h
  have hahead := hidle _ hscheduled
  have hwake := (hsound _ hscheduled).2
  omega

/-- An object that has been visited is due again only if the drain is endless. -/
theorem Visits.ahead (h : a.Ticking) (hends : ¬ a.Endless) (hvisit : Visits a visit b)
    (hon : (b.heap.object visit.object).slot ≠ 0) :
    b.heap.clock < (b.heap.object visit.object).wake := by
  have hv := hvisit.visited h
  have hserves := h.wellFormed.serves _ _ hv.armed
  have hclock := h.clock_le
  have hscheduled := hv.scheduled
  have hafter := hvisit.aftermath h
  generalize visit.action = action, visit.signals = signals at hafter hserves
  cases hafter with
  | woken hoff => exact absurd hoff hon
  | fired _ _ _ hoff => exact absurd hoff hon
  | @rearmed id target period _ hget _ _ _ hwake =>
    have hobject := h.wellFormed.eq_timerObject hserves
    have hleft : a.heap.clock ≠ clockLimit := fun heq =>
      hends ⟨heq, id, period, by unfold Scheduled; rw [← hobject]; exact hscheduled, target, hget⟩
    have hspan := a.heap.span_pos period
    rw [hwake]
    omega

/-- A timer that will be armed again is on the heap. -/
def Periodic (kernel : Kernel) : Prop :=
  ∃ id period, kernel.Scheduled id ∧ kernel.Running id (some period)

/-- A visit leaves a timer of that kind, and makes none. -/
theorem Visits.periodic_iff (h : a.Ticking) (hvisit : Visits a visit b) : b.Periodic ↔ a.Periodic := by
  have hv := hvisit.visited h
  have hserves := h.wellFormed.serves _ _ hv.armed
  have hafter := hvisit.aftermath h
  have hscheduled := hv.scheduled
  have hobjects := timerObject_congr h.wellFormed hv.ticking.wellFormed hv.config
  refine exists_congr fun id => exists_congr fun period => ?_
  by_cases hown : a.timerObject id = visit.object
  · -- the timer is the one that is visited, and it is armed again if it has a period
    rw [← hown] at hserves
    have haction := h.wellFormed.eq_fireTimer hserves
    rw [haction] at hafter
    generalize visit.signals = signals at hafter
    unfold Scheduled Running
    rw [hobjects, hown]
    cases hafter with
    | fired hget _ hentry hoff =>
      refine iff_of_false (fun hboth => hboth.1 hoff) ?_
      rintro ⟨-, target, hperiodic⟩
      rw [hget] at hperiodic
      cases hperiodic
    | rearmed hget _ hentry hon =>
      rw [hget, hentry]
      exact and_congr_left fun _ => iff_of_true hon hscheduled
  · have halike := hv.alike _ hown
    have hentry := hv.timer id hown
    have hget : b.timers.get id = a.timers.get id := by
      unfold TimerTable.get
      rw [hentry]
    unfold Scheduled Running
    rw [hobjects, hget]
    exact and_congr_left fun _ => not_congr halike.scheduled

/-- A visit neither ends an endless drain nor makes one. -/
theorem Visits.endless_iff (h : a.Ticking) (hvisit : Visits a visit b) : b.Endless ↔ a.Endless := by
  unfold Endless
  rw [(hvisit.visited h).clock]
  exact and_congr_right fun _ => hvisit.periodic_iff h

/-! ## A whole drain -/

/-- What a drain from kernel `a` to kernel `b` comes to. -/
structure Drained (a : Kernel) (visits : List Visit) (b : Kernel) : Prop where
  nodup : (visits.map (·.object)).Nodup
  scheduled : ∀ v ∈ visits, (a.heap.object v.object).slot ≠ 0
  due : ∀ v ∈ visits, (a.heap.object v.object).wake ≤ a.heap.clock
  ordered : visits.Pairwise fun v w => (a.heap.object v.object).wake ≤ (a.heap.object w.object).wake
  armed : ∀ v ∈ visits, (a.heap.object v.object).action = some v.action
  aftermath : ∀ v ∈ visits, Aftermath a.heap.clock a b v.object v.action v.signals
  lead : ∀ j, j ∉ visits.map (·.object) → KeepsLead j a.heap b.heap
  timer : ∀ id, a.timerObject id ∉ visits.map (·.object) → b.timers[id.index]? = a.timers[id.index]?

theorem Aftermath.of_get {now : Nat} {object : ObjectId} {action : TimerAction} {signals : List Signal}
    (hget : ∀ id, action = .fireTimer id → b.timers.get id = a.timers.get id)
    (hmax : b.heap.maxTick = a.heap.maxTick) (h : Aftermath now b c object action signals) :
    Aftermath now a c object action signals := by
  cases h with
  | woken hoff hpending => exact .woken hoff hpending
  | fired hgot hfires hentry hoff hpending =>
    exact .fired ((hget _ rfl).symm.trans hgot) hfires hentry hoff hpending
  | rearmed hgot hfires hentry hon hwake =>
    rw [span_congr hmax] at hwake
    exact .rearmed ((hget _ rfl).symm.trans hgot) hfires hentry hon hwake

/-- A drain of which each object but the first one is visited in the rest of it. -/
theorem Drained.cons (h : a.Ticking) (hends : ¬ a.Endless) (hvisit : Visits a visit b)
    (hrest : Drained b visits c) : Drained a (visit :: visits) c := by
  have hv := hvisit.visited h
  have hafter := hvisit.aftermath h
  have hobjects := timerObject_congr h.wellFormed hv.ticking.wellFormed hv.config
  -- the object that has been visited is not due any more
  have hnew : visit.object ∉ visits.map (·.object) := by
    intro hmem
    obtain ⟨w, hw, heq⟩ := List.mem_map.1 hmem
    have hscheduled := hrest.scheduled w hw
    have hdue := hrest.due w hw
    rw [heq] at hscheduled hdue
    have hahead := hvisit.ahead h hends hscheduled
    omega
  have hne : ∀ w ∈ visits, w.object ≠ visit.object := fun w hw heq =>
    hnew (heq ▸ List.mem_map_of_mem hw)
  have hwake : ∀ w ∈ visits, (b.heap.object w.object).wake = (a.heap.object w.object).wake :=
    fun w hw => (hv.alike _ (hne w hw)).wake
  have hscheduled : ∀ w ∈ visits, (a.heap.object w.object).slot ≠ 0 := fun w hw h0 =>
    hrest.scheduled w hw ((hv.alike _ (hne w hw)).scheduled.2 h0)
  refine ⟨List.nodup_cons.2 ⟨hnew, hrest.nodup⟩, ?_, ?_, List.pairwise_cons.2 ⟨?_, ?_⟩, ?_, ?_, ?_, ?_⟩
  · rintro w hw
    rcases List.mem_cons.1 hw with rfl | hw
    · exact hv.scheduled
    · exact hscheduled w hw
  · rintro w hw
    rcases List.mem_cons.1 hw with rfl | hw
    · exact hv.due
    · rw [← hwake w hw, ← hv.clock]
      exact hrest.due w hw
  · exact fun w hw => hv.first _ (hscheduled w hw)
  · refine hrest.ordered.imp_of_mem fun {v w} hv' hw hle => ?_
    rw [← hwake v hv', ← hwake w hw]
    exact hle
  · rintro w hw
    rcases List.mem_cons.1 hw with rfl | hw
    · exact hv.armed
    · rw [← (hv.alike _ (hne w hw)).action]
      exact hrest.armed w hw
  · rintro w hw
    rcases List.mem_cons.1 hw with rfl | hw
    · refine hafter.congr (hrest.lead _ hnew) fun id haction => hrest.timer id ?_
      have hserves := h.wellFormed.serves _ _ hv.armed
      rw [haction] at hserves
      rw [hobjects, ← h.wellFormed.eq_timerObject hserves]
      exact hnew
    · have hrest' := hrest.aftermath w hw
      rw [hv.clock] at hrest'
      refine hrest'.of_get (fun id haction => ?_) hv.maxTick
      have hserves := hv.ticking.wellFormed.serves _ _ (hrest.armed w hw)
      rw [haction] at hserves
      have hobject := hv.ticking.wellFormed.eq_timerObject hserves
      unfold TimerTable.get
      rw [hv.timer id (by rw [← hobjects, ← hobject]; exact hne w hw)]
  · intro j hj
    rw [List.map_cons, List.mem_cons, not_or] at hj
    exact (KeepsLead.of_alike (hv.alike j hj.1) hv.clock).trans (hrest.lead j hj.2)
  · intro id hid
    rw [List.map_cons, List.mem_cons, not_or] at hid
    exact (hrest.timer id (by rw [hobjects]; exact hid.2)).trans (hv.timer id hid.1)

theorem Drains.spec (hdrains : Drains a visits b) : a.Ticking → ¬ a.Endless →
    b.Ticking ∧ b.config = a.config ∧ b.heap.clock = a.heap.clock ∧ Drained a visits b := by
  induction hdrains with
  | rest a =>
    refine fun h _ => ⟨h, rfl, rfl, List.nodup_nil, nofun, nofun, List.Pairwise.nil, nofun, nofun, ?_, ?_⟩
    · exact fun j _ => .refl j _
    · exact fun _ _ => rfl
  | visit hvisit _ ih =>
    intro h hends
    have hv := hvisit.visited h
    obtain ⟨hticking, hconfig, hclock, hdrained⟩ := ih hv.ticking fun hb =>
      hends ((hvisit.endless_iff h).1 hb)
    exact ⟨hticking, hconfig.trans hv.config, hclock.trans hv.clock, hdrained.cons h hends hvisit⟩

theorem Drains.ticks_eq (hdrains : Drains a visits b) : a.Ticking → b.heap.ticks = a.heap.ticks := by
  induction hdrains with
  | rest => exact fun _ => rfl
  | visit hvisit _ ih =>
    intro h
    have hv := hvisit.visited h
    exact (ih hv.ticking).trans hv.ticks

/-- A drain has at most as many visits as there are objects. -/
theorem Drained.length_le (h : Drained a visits b) : visits.length ≤ a.heap.objects.size := by
  have hsub : visits.map (·.object) ⊆ List.range a.heap.objects.size := by
    intro j hj
    obtain ⟨v, hv, rfl⟩ := List.mem_map.1 hj
    exact List.mem_range.2 (lt_size_of_slot_ne_zero (h.scheduled v hv))
  have hle := (List.subperm_of_subset h.nodup hsub).length_le
  simpa using hle

/-- If nothing is due at its end, a drain has visited every object that was due. -/
theorem Drained.mem_iff (h : Drained a visits b) (hclock : b.heap.clock = a.heap.clock)
    (hidle : b.heap.Idle) (j : ObjectId) : j ∈ visits.map (·.object) ↔
      (a.heap.object j).slot ≠ 0 ∧ (a.heap.object j).wake ≤ a.heap.clock := by
  constructor
  · intro hj
    obtain ⟨v, hv, rfl⟩ := List.mem_map.1 hj
    exact ⟨h.scheduled v hv, h.due v hv⟩
  · rintro ⟨hslot, hdue⟩
    by_contra hj
    have hlead := h.lead j hj
    have hahead := hidle j fun h0 => hslot (hlead.scheduled.1 h0)
    have hwake := hlead.wake hslot
    omega

/-- The end of its delivery leaves what a drain comes to. -/
theorem Drained.ended {t : Section} (h : Drained a visits b)
    (hnext : NextDue { kernel := b } none t) : Drained a visits t.kernel := by
  cases hnext with
  | idle => exact h
  | rebased hidle _ hrebase =>
    refine { h with aftermath := fun v hv => ?_, lead := fun j hj => ?_ }
    · exact (h.aftermath v hv).congr (.of_rebased hrebase hidle _) fun _ _ => rfl
    · exact (h.lead j hj).trans (.of_rebased hrebase hidle j)

/-- An endless drain leaves something that is due. -/
theorem Drains.endless (hdrains : Drains a visits b) : a.Ticking → a.Endless →
    b.Ticking ∧ b.Endless := by
  induction hdrains with
  | rest => exact fun h hendless => ⟨h, hendless⟩
  | visit hvisit _ ih =>
    intro h hendless
    exact ih (hvisit.visited h).ticking ((hvisit.endless_iff h).2 hendless)

end Kernel

end Executive
