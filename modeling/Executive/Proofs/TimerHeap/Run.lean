/-
Every run of requests to a new timer heap is carried out to its end, and leaves a consistent heap
after each request (`performAll_consistent`). A run keeps two rules: the objects it names are in the
arena, and it rebases only while nothing has been started, deleted or made due since a `popDue` that
found nothing.

The proof is by induction on the requests. What one request preserves (`perform_spec`) is that the
heap is well formed, and that no object is due while a rebase is allowed.
-/
import Executive.Proofs.TimerHeap.Schedule
import Executive.TimerHeap.Request

namespace Executive.TimerHeap

variable {heap : TimerHeap}

/-! ## The rules of a run -/

/-- Whether a request may be made of a heap; `settled` says whether a rebase may come now. -/
def Request.Allowed (heap : TimerHeap) (settled : Bool) : Request → Prop
  | .start id _ _ | .delete id | .isScheduled id | .isPending id => id < heap.objects.size
  | .rebase => settled = true
  | .advanceClock _ | .popDue | .drain | .survey => True

/-- Whether a rebase may come after a request that had this answer. -/
def Request.settles (settled : Bool) : Request → Answer → Bool
  | .popDue, .popped entry => entry.isNone
  | .drain, _ => true
  | .start .., _ | .delete _, _ | .advanceClock _, _ => false
  | _, _ => settled

/-- Whether requests keep the rules when they are carried out in order. -/
def Permitted (heap : TimerHeap) (settled : Bool) : List Request → Prop
  | [] => True
  | request :: requests =>
    request.Allowed heap settled ∧ match heap.perform request with
      | .ok (answer, next) => next.Permitted (request.settles settled answer) requests
      | .error _ => True

instance (heap : TimerHeap) (settled : Bool) :
    (request : Request) → Decidable (request.Allowed heap settled)
  | .start id _ _ | .delete id | .isScheduled id | .isPending id =>
    inferInstanceAs (Decidable (id < heap.objects.size))
  | .rebase => inferInstanceAs (Decidable (settled = true))
  | .advanceClock _ | .popDue | .drain | .survey => .isTrue trivial

instance decidablePermitted : (requests : List Request) → (heap : TimerHeap) → (settled : Bool) →
    Decidable (heap.Permitted settled requests)
  | [], _, _ => .isTrue trivial
  | request :: requests, heap, settled =>
    have : Decidable (match heap.perform request with
        | .ok (answer, next) => next.Permitted (request.settles settled answer) requests
        | .error _ => True) :=
      match heap.perform request with
      | .ok (answer, next) => decidablePermitted requests next (request.settles settled answer)
      | .error _ => .isTrue trivial
    inferInstanceAs (Decidable (_ ∧ _))

/-- A heap in order whose slots and objects agree. -/
structure Consistent (heap : TimerHeap) : Prop where
  inUse_le : heap.inUse ≤ heap.capacity
  ordered : ∀ k, 2 ≤ k → k ≤ heap.inUse → heap.due (k / 2) ≤ heap.due k
  slot_occupant : ∀ k, 1 ≤ k → k ≤ heap.inUse → (heap.object (heap.occupant k)).slot = k
  occupant_slot : ∀ id, (heap.object id).slot ≠ 0 →
    (heap.object id).slot ≤ heap.inUse ∧ heap.occupant (heap.object id).slot = id
  distinct : ∀ j k, 1 ≤ j → j ≤ heap.inUse → 1 ≤ k → k ≤ heap.inUse →
    heap.occupant j = heap.occupant k → j = k
  isScheduled : ∀ id, id < heap.objects.size → ∃ answer, heap.isScheduled id = .ok answer ∧
    (answer = true ↔ ∃ k, 1 ≤ k ∧ k ≤ heap.inUse ∧ heap.occupant k = id)

theorem WellFormed.consistent (h : heap.WellFormed) : heap.Consistent where
  inUse_le := Nat.le_sub_one_of_lt h.linked.inUse_lt
  ordered := h.ordered
  slot_occupant k h1 hk := (h.linked.slot_occupant k h1 hk).2
  occupant_slot id := h.linked.occupant_slot id trivial
  distinct _ _ hj hj' hk hk' := h.linked.occupant_inj ⟨hj, hj'⟩ ⟨hk, hk'⟩
  isScheduled id hid := by
    refine ⟨_, isScheduled_eq hid, ?_⟩
    rw [bne_iff_ne]
    exact h.scheduled_iff id

/-! ## One request -/

/-- Two heaps of one size. -/
structure SameSize (a b : TimerHeap) : Prop where
  slots : b.slots.size = a.slots.size
  objects : b.objects.size = a.objects.size
  maxTick : b.maxTick = a.maxTick

theorem SameSize.refl (a : TimerHeap) : SameSize a a := ⟨rfl, rfl, rfl⟩

theorem SameSize.trans {a b c : TimerHeap} (h : SameSize a b) (k : SameSize b c) : SameSize a c :=
  ⟨k.slots.trans h.slots, k.objects.trans h.objects, k.maxTick.trans h.maxTick⟩

theorem AgreesBut.sameSize {id : ObjectId} {a b : TimerHeap} (h : AgreesBut id a b) :
    SameSize a b := ⟨h.size_slots, h.size_objects, h.maxTick⟩

theorem WellFormed.idle_of_empty (h : heap.WellFormed) (h0 : heap.inUse = 0) : heap.Idle := by
  intro j hj
  have := (h.linked.occupant_slot j trivial hj).1
  omega

/-- Taking out as many due objects as are scheduled leaves none that is due. -/
theorem popDueUpTo_spec : ∀ (count : Nat) (heap : TimerHeap), heap.WellFormed →
    ∃ entries heap', heap.popDueUpTo count = .ok (entries, heap') ∧ heap'.WellFormed ∧
      SameSize heap heap' ∧ (heap.inUse ≤ count → heap'.Idle)
  | 0, heap, h => ⟨[], heap, rfl, h, .refl _, fun hle => h.idle_of_empty (by omega)⟩
  | count + 1, heap, h => by
    unfold popDueUpTo
    rcases popDue_spec h with ⟨hidle, hpop⟩ | ⟨id, action, heap₁, hpop, h₁, hp⟩
    · rw [hpop]
      exact ⟨[], heap, rfl, h, .refl _, fun _ => hidle⟩
    · obtain ⟨entries, heap₂, hpops, h₂, hs, hidle⟩ := popDueUpTo_spec count heap₁ h₁
      have hin : heap₁.inUse = heap.inUse - 1 := by rw [hp.inUse, if_neg hp.scheduled]
      rw [hpop, Checked.ok_bind]
      dsimp only
      rw [hpops]
      exact ⟨_, heap₂, rfl, h₂, hp.sameSize.trans hs, fun hle => hidle (by omega)⟩

theorem Rebased.idle {a b : TimerHeap} (hr : Rebased a b) (h : a.Idle) : b.Idle := by
  intro j hj
  rw [hr.object] at hj ⊢
  split at hj
  · rename_i h0; exact absurd h0 hj
  · rename_i h0
    have := h j h0
    rw [if_neg h0, hr.clock]
    exact Nat.sub_pos_of_lt this

theorem rebase_total (h : heap.WellFormed) (hidle : heap.Idle) :
    ∃ amount heap', heap.rebase = .ok (amount, heap') ∧ heap'.WellFormed ∧ SameSize heap heap' ∧
      heap'.Idle := by
  rcases rebase_spec h hidle with ⟨-, hr⟩ | ⟨-, heap', hr, hb⟩
  · exact ⟨none, heap, hr, h, .refl _, hidle⟩
  · exact ⟨_, heap', hr, hb.wellFormed h, ⟨congrArg Array.size hb.slots, hb.size_objects, hb.maxTick⟩,
      hb.idle hidle⟩

/-- An allowed request is carried out; the heap stays well formed, and nothing is due while a rebase
is allowed. -/
theorem perform_spec {settled : Bool} {request : Request} (h : heap.WellFormed)
    (hmax : 2 ≤ heap.maxTick) (hidle : settled = true → heap.Idle)
    (hr : request.Allowed heap settled) :
    ∃ answer next, heap.perform request = .ok (answer, next) ∧ next.WellFormed ∧
      SameSize heap next ∧ (request.settles settled answer = true → next.Idle) := by
  cases request with
  | start id delay action =>
    obtain ⟨start, heap', hs, h', hst, -⟩ := start_spec h hr hmax delay action
    refine ⟨.flag start.isArmed, heap', ?_, h', hst.sameSize, fun hf => Bool.noConfusion hf⟩
    rw [perform, hs]; rfl
  | delete id =>
    obtain ⟨heap', hd, h', hrem⟩ := delete_spec h hr
    refine ⟨.done, heap', ?_, h', hrem.sameSize, fun hf => Bool.noConfusion hf⟩
    rw [perform, hd]; rfl
  | advanceClock delta =>
    exact ⟨.done, _, rfl, wellFormed_advanceClock h delta, ⟨rfl, rfl, rfl⟩, fun hf => Bool.noConfusion hf⟩
  | popDue =>
    rw [perform]
    rcases popDue_spec h with ⟨hidle', hpop⟩ | ⟨id, action, heap', hpop, h', hp⟩
    · rw [hpop]; exact ⟨.popped none, heap, rfl, h, .refl _, fun _ => hidle'⟩
    · rw [hpop]
      exact ⟨.popped (some (id, action)), heap', rfl, h', hp.sameSize, fun hf => Bool.noConfusion hf⟩
  | drain =>
    obtain ⟨entries, heap', hd, h', hs, hidle'⟩ := popDueUpTo_spec heap.inUse heap h
    refine ⟨.drained entries, heap', ?_, h', hs, fun _ => hidle' (Nat.le_refl _)⟩
    rw [perform, drain, hd]; rfl
  | rebase =>
    obtain ⟨amount, heap', hb, h', hs, hidle'⟩ := rebase_total h (hidle hr)
    refine ⟨.done, heap', ?_, h', hs, fun _ => hidle'⟩
    rw [perform, hb]; rfl
  | isScheduled id =>
    refine ⟨.flag ((heap.object id).slot != 0), heap, ?_, h, .refl _, hidle⟩
    rw [perform, isScheduled_eq hr]; rfl
  | isPending id =>
    refine ⟨.flag (heap.object id).pending, heap, ?_, h, .refl _, hidle⟩
    rw [perform, isPending_eq hr]; rfl
  | survey => exact ⟨.survey _ _ _, heap, rfl, h, .refl _, hidle⟩

/-! ## A whole run -/

/-- Permitted requests are all carried out, and every heap on the way is well formed. -/
theorem performAll_spec : ∀ (requests : List Request) (heap : TimerHeap) (settled : Bool),
    heap.WellFormed → 2 ≤ heap.maxTick → (settled = true → heap.Idle) →
    heap.Permitted settled requests →
    (heap.performAll requests).length = requests.length ∧
      ∀ outcome ∈ heap.performAll requests, ∃ answer next, outcome = .ok (answer, next) ∧
        next.WellFormed ∧ SameSize heap next
  | [], _, _, _, _, _, _ => ⟨rfl, fun _ hmem => nomatch hmem⟩
  | request :: requests, heap, settled, h, hmax, hidle, hp => by
    obtain ⟨answer, next, hperf, hn, hs, hidle'⟩ := perform_spec h hmax hidle hp.1
    have hrest := hp.2
    rw [hperf] at hrest
    obtain ⟨hlen, hall⟩ := performAll_spec requests next _ hn (by rw [hs.maxTick]; exact hmax)
      hidle' hrest
    unfold performAll
    rw [hperf]
    refine ⟨congrArg (· + 1) hlen, fun outcome hmem => ?_⟩
    rcases List.mem_cons.1 hmem with rfl | hmem
    · exact ⟨answer, next, rfl, hn, hs⟩
    · obtain ⟨answer', next', ho, hn', hs'⟩ := hall outcome hmem
      exact ⟨answer', next', ho, hn', hs.trans hs'⟩

/-- A run of requests that keeps the rules is carried out to its end on a new heap of any size whose
clock turns over at 2 or later, and after every request the heap is consistent: no object is due
before its parent, slots and objects point at each other, no object is in two slots, and `isScheduled`
holds of exactly those in a slot in use. -/
theorem performAll_consistent (objects capacity maxTick : Nat) (hmax : 2 ≤ maxTick)
    (requests : List Request) (hp : (ofSize objects capacity maxTick).Permitted false requests) :
    ((ofSize objects capacity maxTick).performAll requests).length = requests.length ∧
      ∀ outcome ∈ (ofSize objects capacity maxTick).performAll requests,
        ∃ answer heap, outcome = .ok (answer, heap) ∧ heap.capacity = capacity ∧
          heap.objects.size = objects ∧ heap.Consistent := by
  obtain ⟨hlen, hall⟩ := performAll_spec requests (ofSize objects capacity maxTick) false
    (ofSize_wellFormed objects capacity maxTick) hmax (fun hf => Bool.noConfusion hf) hp
  refine ⟨hlen, fun outcome hmem => ?_⟩
  obtain ⟨answer, heap, ho, hwf, hs⟩ := hall outcome hmem
  refine ⟨answer, heap, ho, ?_, ?_, hwf.consistent⟩
  · unfold TimerHeap.capacity
    rw [hs.slots]; simp [ofSize]
  · rw [hs.objects]; simp [ofSize]

/-- Requests that move a scheduled object, find the heap full, delete from the middle and rebase. -/
def turnover : List Request :=
  [.start 1 2 (.fireTimer ⟨0⟩), .start 2 1 (.wakeTask ⟨2⟩), .start 3 4 (.wakeTask ⟨3⟩),
    .start 1 3 (.fireTimer ⟨0⟩), .start 0 9 (.wakeTask ⟨0⟩), .delete 2, .advanceClock 6, .popDue,
    .popDue, .popDue, .rebase, .start 0 9 (.wakeTask ⟨0⟩), .drain, .survey]

theorem turnover_consistent : 2 ≤ 5 ∧ (ofSize 4 3 5).Permitted false turnover ∧
    ((ofSize 4 3 5).performAll turnover).length = turnover.length ∧
      ∀ outcome ∈ (ofSize 4 3 5).performAll turnover,
        ∃ answer heap, outcome = .ok (answer, heap) ∧ heap.capacity = 3 ∧
          heap.objects.size = 4 ∧ heap.Consistent :=
  have permitted : (ofSize 4 3 5).Permitted false turnover := by decide +kernel
  ⟨by decide, permitted, performAll_consistent 4 3 5 (by decide) turnover permitted⟩

end Executive.TimerHeap
