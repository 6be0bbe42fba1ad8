/-
A timer heap keeps an agenda (`performAll_keeps_agenda`). The agenda has a tick count that is never
set back, and a finite map from each scheduled object to the tick of that count at which it is due
and the action it was last started with. `Agenda.Step` is what a request does to it: a start or a
deletion touches one entry, and taking out what is due picks an entry that no other one precedes.

The heap counts its due ticks from the last rebase. `Keeps base` says that it holds the agenda with
that many ticks taken off; a rebase moves the base and leaves the agenda alone.
-/
import Mathlib.Data.Finmap
import Mathlib.Order.Interval.Finset.Nat
import Executive.Proofs.TimerHeap.Run

namespace Executive.TimerHeap

/-- When a scheduled object is due, in ticks since the start, and what is to be done then. -/
structure Appointment where
  due : Nat
  action : TimerAction
  deriving DecidableEq, Repr

/-- All the ticks so far, and the appointments of the scheduled objects. -/
structure Agenda where
  now : Nat := 0
  entries : Finmap fun _ : ObjectId => Appointment := ∅

namespace Agenda

/-- An agenda without the entry of an object. -/
def without (agenda : Agenda) (id : ObjectId) : Agenda :=
  { agenda with entries := agenda.entries.erase id }

/-- An agenda with the entry of an object set. -/
def put (agenda : Agenda) (id : ObjectId) (entry : Appointment) : Agenda :=
  { agenda with entries := agenda.entries.insert id entry }

/-- The appointment that a start makes: the delay is at least 1 and below `maxTick`. -/
def schedule (agenda : Agenda) (maxTick delay : Nat) (action : TimerAction) : Appointment :=
  ⟨agenda.now + clampDelay maxTick delay, action⟩

/-- No entry is due. -/
def Idle (agenda : Agenda) : Prop :=
  ∀ id entry, agenda.entries.lookup id = some entry → agenda.now < entry.due

/-- An entry is due, and no other entry is due before it. -/
structure First (agenda : Agenda) (id : ObjectId) (entry : Appointment) : Prop where
  lookup : agenda.entries.lookup id = some entry
  due : entry.due ≤ agenda.now
  first : ∀ j other, agenda.entries.lookup j = some other → entry.due ≤ other.due

/-- Entries were drained from an agenda: exactly the due ones, each once and in the order of their
due ticks. -/
structure Drained (agenda : Agenda) (visits : List (ObjectId × Appointment)) (next : Agenda) :
    Prop where
  exact : ∀ id entry, (id, entry) ∈ visits ↔
    agenda.entries.lookup id = some entry ∧ entry.due ≤ agenda.now
  once : (visits.map Prod.fst).Nodup
  ordered : visits.Pairwise fun x y => x.2.due ≤ y.2.due
  now : next.now = agenda.now
  rest : ∀ id, next.entries.lookup id =
    (agenda.entries.lookup id).filter fun entry => decide (agenda.now < entry.due)

/-- What a request to a heap of that capacity and `maxTick` answers and does to the agenda. -/
inductive Step (capacity maxTick : Nat) (agenda : Agenda) : Request → Answer → Agenda → Prop
  | armed {id delay action} (room : (agenda.without id).entries.keys.card < capacity) :
    Step capacity maxTick agenda (.start id delay action) (.flag true)
      ((agenda.without id).put id (agenda.schedule maxTick delay action))
  | full {id delay action} (full : capacity ≤ (agenda.without id).entries.keys.card) :
    Step capacity maxTick agenda (.start id delay action) (.flag false) (agenda.without id)
  | deleted {id} : Step capacity maxTick agenda (.delete id) .done (agenda.without id)
  | advanced {delta} : Step capacity maxTick agenda (.advanceClock delta) .done
      { agenda with now := agenda.now + delta }
  | idle (idle : agenda.Idle) : Step capacity maxTick agenda .popDue (.popped none) agenda
  | popped {id entry} (first : agenda.First id entry) :
    Step capacity maxTick agenda .popDue (.popped (some (id, entry.action))) (agenda.without id)
  | drained {visits next} (drained : agenda.Drained visits next) :
    Step capacity maxTick agenda .drain
      (.drained (visits.map fun visit => (visit.1, visit.2.action))) next
  | rebased : Step capacity maxTick agenda .rebase .done agenda
  | isScheduled {id} :
    Step capacity maxTick agenda (.isScheduled id) (.flag (decide (id ∈ agenda.entries))) agenda
  | isPending {id flag} : Step capacity maxTick agenda (.isPending id) (.flag flag) agenda
  | survey {scheduled pending} (exact : ∀ id, id ∈ scheduled ↔ id ∈ agenda.entries) :
    Step capacity maxTick agenda .survey (.survey scheduled pending capacity) agenda

/-- The objects that a request names, or that its answer hands out. -/
def touched : Request → Answer → List ObjectId
  | .start id _ _, _ | .delete id, _ => [id]
  | .popDue, .popped entry => (entry.map Prod.fst).toList
  | .drain, .drained entries => entries.map Prod.fst
  | _, _ => []

/-! ## Draining an agenda -/

/-- First entries are taken out one after the other until none is due. -/
inductive Pops : Agenda → List (ObjectId × Appointment) → Agenda → Prop
  | idle {agenda : Agenda} (idle : agenda.Idle) : Pops agenda [] agenda
  | pop {agenda next : Agenda} {id entry visits} (first : agenda.First id entry)
    (rest : Pops (agenda.without id) visits next) : Pops agenda ((id, entry) :: visits) next

variable {agenda next : Agenda} {id : ObjectId} {entry : Appointment}

theorem lookup_without (agenda : Agenda) (id j : ObjectId) :
    (agenda.without id).entries.lookup j = if j = id then none else agenda.entries.lookup j := by
  unfold without
  split
  · rename_i hj
    rw [hj]; exact Finmap.lookup_erase ..
  · rename_i hj
    exact Finmap.lookup_erase_ne hj

theorem lookup_put (agenda : Agenda) (id j : ObjectId) (entry : Appointment) :
    (agenda.put id entry).entries.lookup j =
      if j = id then some entry else agenda.entries.lookup j := by
  unfold put
  split
  · rename_i hj
    rw [hj]; exact Finmap.lookup_insert ..
  · rename_i hj
    exact Finmap.lookup_insert_of_ne _ hj

/-- An entry after the first one is due no earlier. -/
theorem First.le_of_without {j : ObjectId} {other : Appointment} (h : agenda.First id entry)
    (hj : (agenda.without id).entries.lookup j = some other) : entry.due ≤ other.due := by
  rw [lookup_without] at hj
  split at hj
  · cases hj
  · exact h.first j other hj

/-- Taking first entries out until none is due drains the agenda. -/
theorem Pops.drained {visits : List (ObjectId × Appointment)} (h : Pops agenda visits next) :
    agenda.Drained visits next := by
  induction h with
  | @idle agenda hidle =>
    refine ⟨fun id entry => ?_, List.nodup_nil, .nil, rfl, fun id => ?_⟩
    · constructor
      · intro hmem; cases hmem
      · rintro ⟨hl, hdue⟩
        exact absurd (hidle id entry hl) (Nat.not_lt.2 hdue)
    · rcases hl : agenda.entries.lookup id with _ | entry
      · rfl
      · exact (Option.filter_some_pos (by simpa using hidle id entry hl)).symm
  | @pop agenda next id entry visits hfirst _ ih =>
    constructor
    · intro j other
      rw [List.mem_cons, ih.exact, lookup_without]
      by_cases hj : j = id
      · subst hj
        rw [if_pos rfl]
        simp only [reduceCtorEq, false_and, or_false, Prod.mk.injEq, true_and]
        constructor
        · rintro rfl; exact ⟨hfirst.lookup, hfirst.due⟩
        · rintro ⟨hl, -⟩
          exact Option.some.inj (hl.symm.trans hfirst.lookup)
      · simp [hj, without]
    · -- the object of the first entry has no entry left that could come again
      rw [List.map_cons, List.nodup_cons]
      refine ⟨fun hmem => ?_, ih.once⟩
      obtain ⟨⟨j, other⟩, hvisit, rfl⟩ := List.mem_map.1 hmem
      have hl := ((ih.exact j other).1 hvisit).1
      rw [lookup_without, if_pos rfl] at hl
      cases hl
    · rw [List.pairwise_cons]
      refine ⟨fun visit hvisit => ?_, ih.ordered⟩
      exact hfirst.le_of_without ((ih.exact visit.1 visit.2).1 hvisit).1
    · exact ih.now
    · intro j
      rw [ih.rest, lookup_without]
      split
      · rename_i hj
        rw [hj, hfirst.lookup]
        exact (Option.filter_some_neg (by simpa using hfirst.due)).symm
      · rfl

/-- A step leaves the entries of all other objects alone. -/
theorem Step.lookup_of_untouched {capacity maxTick : Nat} {request : Request} {answer : Answer}
    (h : Step capacity maxTick agenda request answer next) (hid : id ∉ touched request answer) :
    next.entries.lookup id = agenda.entries.lookup id := by
  cases h with
  | armed _ =>
    rw [lookup_put, if_neg (by simpa [touched] using hid), lookup_without,
      if_neg (by simpa [touched] using hid)]
  | full _ => rw [lookup_without, if_neg (by simpa [touched] using hid)]
  | deleted => rw [lookup_without, if_neg (by simpa [touched] using hid)]
  | popped _ => rw [lookup_without, if_neg (by simpa [touched] using hid)]
  | @drained visits _ hdrained =>
    rw [hdrained.rest]
    rcases hl : agenda.entries.lookup id with _ | entry
    · rfl
    · -- an entry that was due is among those handed out
      refine Option.filter_some_pos (decide_eq_true (Nat.lt_of_not_le fun hdue => hid ?_))
      have hvisit := (hdrained.exact id entry).2 ⟨hl, hdue⟩
      simp only [touched, List.map_map]
      exact List.mem_map_of_mem hvisit
  | advanced | idle _ | rebased | isScheduled | isPending | survey _ => rfl

end Agenda

/-! ## The agenda that a heap keeps -/

variable {heap : TimerHeap} {agenda : Agenda} {base : Nat} {id : ObjectId}

/-- The appointment of an object in a heap whose clock was 0 at tick `base`. -/
def appointment (heap : TimerHeap) (base : Nat) (id : ObjectId) : Option Appointment :=
  if (heap.object id).slot = 0 then none
  else (heap.object id).action.map (⟨base + (heap.object id).wake, ·⟩)

/-- The heap holds the agenda, its clock having been 0 at tick `base`. The tick counter of the heap
is the tick count as long as that fits. -/
structure Keeps (base : Nat) (heap : TimerHeap) (agenda : Agenda) : Prop where
  now : agenda.now = base + heap.clock
  ticks : heap.ticks = min agenda.now clockLimit
  lookup : ∀ id, agenda.entries.lookup id = heap.appointment base id

namespace Keeps

/-- An object has an entry exactly when it is scheduled. -/
theorem mem_iff (hk : Keeps base heap agenda) (h : heap.WellFormed) (id : ObjectId) :
    id ∈ agenda.entries ↔ (heap.object id).slot ≠ 0 := by
  rw [← Finmap.lookup_isSome, hk.lookup, appointment]
  split
  · rename_i h0
    simp [h0]
  · rename_i h0
    simpa [h0] using h.armed id h0

/-- There are as many entries as slots in use. -/
theorem card_keys (hk : Keeps base heap agenda) (h : heap.WellFormed) :
    agenda.entries.keys.card = heap.inUse := by
  have hkeys : agenda.entries.keys = (Finset.Icc 1 heap.inUse).image heap.occupant := by
    ext id
    rw [Finmap.mem_keys, hk.mem_iff h, h.scheduled_iff]
    simp [and_assoc]
  rw [hkeys, Finset.card_image_of_injOn, Nat.card_Icc, Nat.add_sub_cancel]
  intro j hj k hk heq
  exact h.linked.occupant_inj (Finset.mem_Icc.1 hj) (Finset.mem_Icc.1 hk) heq

theorem card_keys_without (hk : Keeps base heap agenda) (h : heap.WellFormed) (id : ObjectId) :
    (agenda.without id).entries.keys.card = heap.inUseBut id := by
  unfold Agenda.without inUseBut
  rw [Finmap.keys_erase]
  by_cases h0 : (heap.object id).slot = 0
  · rw [if_pos h0, Finset.erase_eq_of_notMem, hk.card_keys h]
    rw [Finmap.mem_keys, hk.mem_iff h]
    exact fun hne => hne h0
  · rw [if_neg h0, Finset.card_erase_of_mem, hk.card_keys h]
    rw [Finmap.mem_keys, hk.mem_iff h]
    exact h0

/-- The heap is idle exactly when its agenda is. -/
theorem idle_iff (hk : Keeps base heap agenda) (h : heap.WellFormed) :
    heap.Idle ↔ agenda.Idle := by
  constructor
  · intro hidle id entry hl
    rw [hk.lookup, appointment] at hl
    split at hl
    · cases hl
    · rename_i h0
      obtain ⟨action, -, rfl⟩ := Option.map_eq_some_iff.1 hl
      rw [hk.now]
      exact Nat.add_lt_add_left (hidle id h0) base
  · intro hidle j h0
    obtain ⟨action, haction⟩ := Option.isSome_iff_exists.1 (h.armed j h0)
    have hl : agenda.entries.lookup j = some ⟨base + (heap.object j).wake, action⟩ := by
      rw [hk.lookup, appointment, if_neg h0, haction]; rfl
    have := hidle j _ hl
    rw [hk.now] at this
    exact Nat.lt_of_add_lt_add_left this

/-- The first entry of the agenda is the one that a heap takes out. -/
theorem first {b : TimerHeap} {action : TimerAction} (hk : Keeps base heap agenda)
    (hp : Popped id action heap b) :
    agenda.First id ⟨base + (heap.object id).wake, action⟩ := by
  constructor
  · rw [hk.lookup, appointment, if_neg hp.scheduled, hp.armed]; rfl
  · rw [hk.now]
    exact Nat.add_le_add_left hp.due base
  · intro j other hl
    rw [hk.lookup, appointment] at hl
    split at hl
    · cases hl
    · rename_i h0
      obtain ⟨action, -, rfl⟩ := Option.map_eq_some_iff.1 hl
      exact Nat.add_le_add_left (hp.first j h0) base

end Keeps

/-! ## What the steps of a heap do to its agenda -/

/-- Objects that agree have the same appointments. -/
theorem AgreesBut.appointment {a b : TimerHeap} (h : AgreesBut id a b) (base : Nat) {j : ObjectId}
    (hj : j ≠ id) : b.appointment base j = a.appointment base j := by
  have halike := h.alike j hj
  unfold TimerHeap.appointment
  rw [halike.wake, halike.action]
  simp only [halike.scheduled]

/-- A heap that changed in one object keeps an agenda that changed in one entry. -/
theorem Keeps.of_agrees {a b : TimerHeap} {next : Agenda} (hk : Keeps base a agenda)
    (h : AgreesBut id a b) (hnow : next.now = agenda.now)
    (hid : next.entries.lookup id = b.appointment base id)
    (hne : ∀ j, j ≠ id → next.entries.lookup j = agenda.entries.lookup j) : Keeps base b next := by
  constructor
  · rw [hnow, hk.now, h.clock]
  · rw [h.ticks, hk.ticks, hnow]
  · intro j
    by_cases hj : j = id
    · rw [hj]; exact hid
    · rw [hne j hj, hk.lookup, h.appointment base hj]

theorem Keeps.removed {a b : TimerHeap} (hk : Keeps base a agenda) (hr : Removed id a b) :
    Keeps base b (agenda.without id) := by
  refine hk.of_agrees hr.toAgreesBut rfl ?_ fun j hj => ?_
  · rw [Agenda.lookup_without, if_pos rfl, appointment, if_pos (by rw [hr.object])]
  · rw [Agenda.lookup_without, if_neg hj]

/-- The appointment of an object that was just started. As the clock is not near its limit, the due
tick is not cut off there. -/
theorem Started.appointment {a b : TimerHeap} {delay : Nat} {action : TimerAction}
    (hs : Started id delay action a b) (hk : Keeps base a agenda) (hmax : 2 ≤ a.maxTick)
    (hclock : a.clock + a.maxTick ≤ UInt64.size) (hroom : a.inUseBut id < a.capacity) :
    b.appointment base id = some (agenda.schedule a.maxTick delay action) := by
  unfold TimerHeap.appointment
  rw [if_neg (hs.scheduled.2 hroom), hs.action, hs.wake, wakeAfter_of_room hmax hclock, ← Nat.add_assoc,
    ← hk.now]
  rfl

theorem Keeps.started {a b : TimerHeap} {delay : Nat} {action : TimerAction}
    (hk : Keeps base a agenda) (hs : Started id delay action a b) (hmax : 2 ≤ a.maxTick)
    (hclock : a.clock + a.maxTick ≤ UInt64.size) :
    Keeps base b (if a.inUseBut id < a.capacity then
      (agenda.without id).put id (agenda.schedule a.maxTick delay action)
      else agenda.without id) := by
  by_cases hroom : a.inUseBut id < a.capacity
  · rw [if_pos hroom]
    refine hk.of_agrees hs.toAgreesBut rfl ?_ fun j hj => ?_
    · rw [Agenda.lookup_put, if_pos rfl, hs.appointment hk hmax hclock hroom]
    · rw [Agenda.lookup_put, if_neg hj, Agenda.lookup_without, if_neg hj]
  · rw [if_neg hroom]
    have h0 : (b.object id).slot = 0 := Decidable.not_not.1 (mt hs.scheduled.1 hroom)
    refine hk.of_agrees hs.toAgreesBut rfl ?_ fun j hj => ?_
    · rw [Agenda.lookup_without, if_pos rfl, appointment, if_pos h0]
    · rw [Agenda.lookup_without, if_neg hj]

/-- Ticks that reach the heap in full move the agenda on as much. -/
theorem Keeps.advanced (hk : Keeps base heap agenda) (delta : Nat)
    (hclock : (heap.advanceClock delta).clock < clockLimit) :
    Keeps base (heap.advanceClock delta) { agenda with now := agenda.now + delta } := by
  have hc : (heap.advanceClock delta).clock = min (heap.clock + delta) clockLimit := rfl
  have ht : (heap.advanceClock delta).ticks = min (heap.ticks + delta) clockLimit := rfl
  constructor
  · rw [hc] at hclock ⊢
    rw [hk.now]
    show base + heap.clock + delta = _
    omega
  · rw [ht, hk.ticks]
    show _ = min (agenda.now + delta) clockLimit
    omega
  · exact hk.lookup

/-- A rebase sets the clock and the due ticks back by what it moves the base on. -/
theorem Keeps.rebased {a b : TimerHeap} (hk : Keeps base a agenda) (hidle : a.Idle)
    (hr : Rebased a b) : Keeps (base + a.clock) b agenda := by
  constructor
  · rw [hk.now, hr.clock]; rfl
  · rw [hr.ticks, hk.ticks]
  · intro j
    rw [hk.lookup, appointment, appointment, hr.object]
    by_cases h0 : (a.object j).slot = 0
    · rw [if_pos h0, if_pos h0, if_pos h0]
    · have := hidle j h0
      have hwake : base + a.clock + ((a.object j).wake - a.clock) = base + (a.object j).wake := by
        omega
      rw [if_neg h0, if_neg h0, if_neg h0]
      simp only [hwake]

/-- Draining the heap takes first entries out of the agenda until none is due. -/
theorem Keeps.popDueUpTo : ∀ (count : Nat) {heap : TimerHeap} {agenda : Agenda},
    Keeps base heap agenda → heap.WellFormed → heap.inUse ≤ count →
    ∃ visits heap' next, heap.popDueUpTo count =
        .ok (visits.map fun visit => (visit.1, visit.2.action), heap') ∧
      Agenda.Pops agenda visits next ∧ Keeps base heap' next
  | 0, heap, agenda, hk, h, hle =>
    ⟨[], heap, agenda, rfl, .idle ((hk.idle_iff h).1 (h.idle_of_empty (by omega))), hk⟩
  | count + 1, heap, agenda, hk, h, hle => by
    unfold TimerHeap.popDueUpTo
    rcases popDue_spec h with ⟨hidle, hpop⟩ | ⟨id, action, heap₁, hpop, h₁, hp⟩
    · rw [hpop]
      exact ⟨[], heap, agenda, rfl, .idle ((hk.idle_iff h).1 hidle), hk⟩
    · have hin : heap₁.inUse = heap.inUse - 1 := by rw [hp.inUse, if_neg hp.scheduled]
      obtain ⟨visits, heap₂, next, hpops, hrest, hk₂⟩ :=
        Keeps.popDueUpTo count (hk.removed hp.toRemoved) h₁ (by omega)
      rw [hpop, Checked.ok_bind]
      dsimp only
      rw [hpops]
      exact ⟨_, heap₂, next, rfl, .pop (hk.first hp) hrest, hk₂⟩

/-- The objects that a survey lists as scheduled are those with an entry. -/
theorem Keeps.mem_objectsWhere (hk : Keeps base heap agenda) (h : heap.WellFormed) (id : ObjectId) :
    id ∈ heap.objectsWhere (·.slot != 0) ↔ id ∈ agenda.entries := by
  rw [hk.mem_iff h, objectsWhere, List.mem_filter, List.mem_range]
  constructor
  · rintro ⟨hlt, hany⟩
    rw [Array.getElem?_eq_getElem hlt] at hany
    rw [object, Array.getElem?_eq_getElem hlt]
    simpa using hany
  · intro h0
    have hlt := lt_size_of_slot_ne_zero h0
    rw [object, Array.getElem?_eq_getElem hlt] at h0
    rw [Array.getElem?_eq_getElem hlt]
    exact ⟨hlt, by simpa using h0⟩

/-- A request that is carried out does to the agenda what the machine does. -/
theorem Keeps.perform {settled : Bool} {request : Request} {answer : Answer} {next : TimerHeap}
    (hk : Keeps base heap agenda) (h : heap.WellFormed) (hmax : 2 ≤ heap.maxTick)
    (hidle : settled = true → heap.Idle) (hr : request.Allowed heap settled)
    (hperf : heap.perform request = .ok (answer, next))
    (hclock : next.clock + heap.maxTick ≤ UInt64.size) :
    ∃ base' agenda', Agenda.Step heap.capacity heap.maxTick agenda request answer agenda' ∧
      Keeps base' next agenda' := by
  cases request with
  | start id delay action =>
    obtain ⟨start, heap', hs, -, hst, hflag⟩ := start_spec h hr hmax delay action
    rw [TimerHeap.perform, hs] at hperf
    cases hperf
    have hkeeps := hk.started hst hmax (by rw [← hst.clock]; exact hclock)
    have hcard := hk.card_keys_without h id
    by_cases hroom : heap.inUseBut id < heap.capacity
    · rw [if_pos hroom] at hkeeps hflag
      rw [hflag]
      exact ⟨base, _, .armed (by rw [hcard]; exact hroom), hkeeps⟩
    · rw [if_neg hroom] at hkeeps hflag
      rw [hflag]
      exact ⟨base, _, .full (by rw [hcard]; exact Nat.not_lt.1 hroom), hkeeps⟩
  | delete id =>
    obtain ⟨heap', hd, -, hrem⟩ := delete_spec h hr
    rw [TimerHeap.perform, hd] at hperf
    cases hperf
    exact ⟨base, _, .deleted, hk.removed hrem⟩
  | advanceClock delta =>
    cases hperf
    exact ⟨base, _, .advanced, hk.advanced delta (by unfold clockLimit; omega)⟩
  | popDue =>
    rw [TimerHeap.perform] at hperf
    rcases popDue_spec h with ⟨hidle', hpop⟩ | ⟨id, action, heap', hpop, -, hp⟩
    · rw [hpop] at hperf
      cases hperf
      exact ⟨base, agenda, .idle ((hk.idle_iff h).1 hidle'), hk⟩
    · rw [hpop] at hperf
      cases hperf
      exact ⟨base, _, .popped (hk.first hp), hk.removed hp.toRemoved⟩
  | drain =>
    obtain ⟨visits, heap', agenda', hd, hpops, hk'⟩ := hk.popDueUpTo heap.inUse h (Nat.le_refl _)
    rw [TimerHeap.perform, drain, hd] at hperf
    cases hperf
    exact ⟨base, agenda', .drained hpops.drained, hk'⟩
  | rebase =>
    rw [TimerHeap.perform] at hperf
    rcases rebase_spec h (hidle hr) with ⟨-, hreb⟩ | ⟨-, heap', hreb, hb⟩
    · rw [hreb] at hperf
      cases hperf
      exact ⟨base, agenda, .rebased, hk⟩
    · rw [hreb] at hperf
      cases hperf
      exact ⟨_, agenda, .rebased, hk.rebased (hidle hr) hb⟩
  | isScheduled id =>
    rw [TimerHeap.perform, isScheduled_eq hr] at hperf
    cases hperf
    have hflag : ((heap.object id).slot != 0) = decide (id ∈ agenda.entries) := by
      rw [Bool.eq_iff_iff, bne_iff_ne, decide_eq_true_iff]
      exact (hk.mem_iff h id).symm
    rw [hflag]
    exact ⟨base, agenda, .isScheduled, hk⟩
  | isPending id =>
    rw [TimerHeap.perform, isPending_eq hr] at hperf
    cases hperf
    exact ⟨base, agenda, .isPending, hk⟩
  | survey =>
    cases hperf
    exact ⟨base, agenda, .survey (hk.mem_objectsWhere h), hk⟩

/-! ## A whole run -/

/-- Every request of a list was carried out as the machine does it, from one agenda to the next, with the
entries of all objects left alone that it does not touch, and each heap on the way keeps the agenda of
its turn. -/
inductive Agenda.Run (capacity maxTick : Nat) :
    Agenda → List Request → List (Checked (Answer × TimerHeap)) → Prop
  | nil {agenda : Agenda} : Run capacity maxTick agenda [] []
  | cons {agenda next : Agenda} {request answer} {heap : TimerHeap} {base : Nat} {requests outcomes}
    (step : Step capacity maxTick agenda request answer next)
    (untouched : ∀ id, id ∉ touched request answer → next.entries.lookup id = agenda.entries.lookup id)
    (keeps : Keeps base heap next) (rest : Run capacity maxTick next requests outcomes) :
    Run capacity maxTick agenda (request :: requests) (.ok (answer, heap) :: outcomes)

theorem Keeps.performAll : ∀ (requests : List Request) {base : Nat} {heap : TimerHeap}
    {agenda : Agenda} {settled : Bool}, Keeps base heap agenda → heap.WellFormed →
    2 ≤ heap.maxTick → (settled = true → heap.Idle) → heap.Permitted settled requests →
    (∀ answer next, .ok (answer, next) ∈ heap.performAll requests →
      next.clock + heap.maxTick ≤ UInt64.size) →
    Agenda.Run heap.capacity heap.maxTick agenda requests (heap.performAll requests)
  | [], _, _, _, _, _, _, _, _, _, _ => .nil
  | request :: requests, base, heap, agenda, settled, hk, h, hmax, hidle, hp, hclock => by
    obtain ⟨answer, next, hperf, hn, hs, hidle'⟩ := perform_spec h hmax hidle hp.1
    have hrest := hp.2
    have hcap : next.capacity = heap.capacity := congrArg (· - 1) hs.slots
    unfold TimerHeap.performAll at hclock ⊢
    rw [hperf] at hrest hclock ⊢
    obtain ⟨base', agenda', hstep, hk'⟩ :=
      hk.perform h hmax hidle hp.1 hperf (hclock answer next (List.mem_cons_self ..))
    refine .cons hstep (fun _ => hstep.lookup_of_untouched) hk' ?_
    rw [← hcap, ← hs.maxTick]
    refine Keeps.performAll requests hk' hn (by rw [hs.maxTick]; exact hmax) hidle' hrest ?_
    intro answer' next' hmem
    rw [hs.maxTick]
    exact hclock answer' next' (List.mem_cons_of_mem _ hmem)

theorem ofSize_keeps (objects capacity maxTick : Nat) :
    Keeps 0 (ofSize objects capacity maxTick) {} := by
  refine ⟨rfl, rfl, fun j => ?_⟩
  rw [appointment, object_ofSize, if_pos rfl]
  exact Finmap.lookup_empty j

/-- A run of requests that keeps the rules, on a new heap whose clock turns over at 2 or later and
never comes within `maxTick` of its limit, is a run of the machine from an empty agenda. -/
theorem performAll_keeps_agenda (objects capacity maxTick : Nat) (hmax : 2 ≤ maxTick)
    (requests : List Request) (hp : (ofSize objects capacity maxTick).Permitted false requests)
    (hclock : ∀ answer heap, .ok (answer, heap) ∈ (ofSize objects capacity maxTick).performAll requests →
      heap.clock + maxTick ≤ UInt64.size) :
    Agenda.Run capacity maxTick {} requests
      ((ofSize objects capacity maxTick).performAll requests) := by
  have hcap : (ofSize objects capacity maxTick).capacity = capacity := by
    simp [TimerHeap.capacity, ofSize]
  have hrun := (ofSize_keeps objects capacity maxTick).performAll requests
    (ofSize_wellFormed objects capacity maxTick) hmax (fun hf => Bool.noConfusion hf) hp hclock
  rwa [hcap] at hrun

theorem turnover_keeps_agenda : 2 ≤ 5 ∧ (ofSize 4 3 5).Permitted false turnover ∧
    (∀ answer heap, .ok (answer, heap) ∈ (ofSize 4 3 5).performAll turnover →
      heap.clock + 5 ≤ UInt64.size) ∧
    Agenda.Run 3 5 {} turnover ((ofSize 4 3 5).performAll turnover) :=
  have permitted : (ofSize 4 3 5).Permitted false turnover := by decide +kernel
  have below : ((ofSize 4 3 5).performAll turnover).all (fun outcome =>
      outcome.toOption.all fun done => decide (done.2.clock + 5 ≤ UInt64.size)) = true := by
    decide +kernel
  have clock : ∀ answer heap, .ok (answer, heap) ∈ (ofSize 4 3 5).performAll turnover →
      heap.clock + 5 ≤ UInt64.size :=
    fun _ _ hmem => of_decide_eq_true (List.all_eq_true.1 below _ hmem)
  ⟨by decide, permitted, clock, performAll_keeps_agenda 4 3 5 (by decide) turnover permitted clock⟩

end Executive.TimerHeap
