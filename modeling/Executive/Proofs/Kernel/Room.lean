/-
A timer heap with room for every object that is ever started. Object 0 is never started, since task 0
is never handed out, so that one slot less than there are objects is enough. No start finds the heap
full then (`start_armed`), no section reports a full heap (`Spotless`), and an object is pending
exactly as long as it is scheduled (`Matched`).
-/
import Executive.Proofs.Kernel.Reports
import Mathlib.Data.List.Nodup
import Mathlib.Data.List.Perm.Subperm

namespace Executive

/-! ## Room for every object -/

namespace TimerHeap

variable {heap a b : TimerHeap} {object : Option ObjectId} {id : Nat}

/-- Object 0 is off the heap, and the pending objects are the scheduled ones. -/
structure Matched (heap : TimerHeap) : Prop where
  vacant : (heap.object 0).slot = 0
  pending_iff : ∀ j, (heap.object j).pending = true ↔ (heap.object j).slot ≠ 0

/-- A slot for every object but object 0. -/
def Spacious (heap : TimerHeap) : Prop := heap.objects.size ≤ heap.capacity + 1

theorem ofSize_matched (objects capacity maxTick : Nat) : (ofSize objects capacity maxTick).Matched :=
  ⟨by rw [object_ofSize], fun j => by simp [object_ofSize]⟩

/-- The scheduled objects. -/
def scheduledObjects (heap : TimerHeap) : List ObjectId :=
  (List.range heap.inUse).map fun k => heap.occupant (k + 1)

theorem length_scheduledObjects : heap.scheduledObjects.length = heap.inUse := by simp [scheduledObjects]

theorem WellFormed.mem_scheduledObjects (h : heap.WellFormed) {j : ObjectId} :
    j ∈ heap.scheduledObjects ↔ (heap.object j).slot ≠ 0 := by
  rw [h.scheduled_iff, scheduledObjects, List.mem_map]
  constructor
  · rintro ⟨k, hk, rfl⟩
    exact ⟨k + 1, by omega, List.mem_range.1 hk, rfl⟩
  · rintro ⟨k, h1, hk, rfl⟩
    exact ⟨k - 1, List.mem_range.2 (by omega), by rw [Nat.sub_add_cancel h1]⟩

theorem WellFormed.nodup_scheduledObjects (h : heap.WellFormed) : heap.scheduledObjects.Nodup := by
  refine List.Nodup.map_on (fun j hj k hk heq => ?_) List.nodup_range
  have hj := List.mem_range.1 hj
  have hk := List.mem_range.1 hk
  have := h.linked.occupant_inj ⟨Nat.succ_pos j, hj⟩ ⟨Nat.succ_pos k, hk⟩ heq
  omega

/-- With room for every object, the others leave a slot for each one. -/
theorem WellFormed.inUseBut_lt (h : heap.WellFormed) (hvacant : (heap.object 0).slot = 0)
    (hspacious : heap.Spacious) (hpos : 0 < id) (hid : id < heap.objects.size) :
    heap.inUseBut id < heap.capacity := by
  have hlt {j : ObjectId} (hj : j ∈ heap.scheduledObjects) : j < heap.objects.size :=
    lt_size_of_slot_ne_zero (h.mem_scheduledObjects.1 hj)
  have hzero : 0 ∉ heap.scheduledObjects := fun hmem => h.mem_scheduledObjects.1 hmem hvacant
  have hcount {objects : List Nat} (hnodup : objects.Nodup)
      (hin : ∀ j ∈ objects, j < heap.objects.size) : objects.length ≤ heap.objects.size := by
    have hle := (List.subperm_of_subset hnodup fun j hj => List.mem_range.2 (hin j hj)).length_le
    rwa [List.length_range] at hle
  unfold Spacious at hspacious
  unfold inUseBut
  by_cases hslot : (heap.object id).slot = 0
  · -- neither object 0 nor the object itself is scheduled
    have hnew : id ∉ heap.scheduledObjects := fun hmem => h.mem_scheduledObjects.1 hmem hslot
    have hle := @hcount (0 :: id :: heap.scheduledObjects)
      (by simp [h.nodup_scheduledObjects, hzero, hnew]; omega) (by
        rintro j (_ | ⟨_, _ | ⟨_, hj⟩⟩)
        · omega
        · exact hid
        · exact hlt hj)
    simp only [List.length_cons, length_scheduledObjects] at hle
    rw [if_pos hslot]
    omega
  · have hle := @hcount (0 :: heap.scheduledObjects)
      (List.nodup_cons.2 ⟨hzero, h.nodup_scheduledObjects⟩) (by
        rintro j (_ | ⟨_, hj⟩)
        · omega
        · exact hlt hj)
    simp only [List.length_cons, length_scheduledObjects] at hle
    rw [if_neg hslot]
    omega

theorem start_armed (h : heap.WellFormed) (hmatched : heap.Matched) (hspacious : heap.Spacious)
    (hmax : 2 ≤ heap.maxTick) (hpos : 0 < id) (hid : id < heap.objects.size) (delay : Nat)
    (action : TimerAction) : ∃ wake after, heap.start id delay action = .ok (.armed wake, after) := by
  obtain ⟨start, after, hstart, -, -, hanswer⟩ := start_spec h hid hmax delay action
  rw [if_pos (h.inUseBut_lt hmatched.vacant hspacious hpos hid)] at hanswer
  exact ⟨_, after, hanswer ▸ hstart⟩

/-- An object that is started gets a slot. -/
theorem Started.scheduled_of_spacious {delay : Nat} {action : TimerAction}
    (hstart : Started id delay action a b) (h : a.WellFormed) (hmatched : a.Matched)
    (hspacious : a.Spacious) (hpos : 0 < id) (hid : id < a.objects.size) : (b.object id).slot ≠ 0 :=
  hstart.scheduled.2 (h.inUseBut_lt hmatched.vacant hspacious hpos hid)

theorem Matched.of_agrees (h : a.Matched) (hag : AgreesBut id a b)
    (hid : (b.object id).pending = true ↔ (b.object id).slot ≠ 0)
    (hzero : id = 0 → (b.object id).slot = 0) : b.Matched := by
  constructor
  · by_cases h0 : id = 0
    · subst h0
      exact hzero rfl
    · exact (hag.alike 0 (Ne.symm h0)).scheduled.2 h.vacant
  · intro j
    by_cases hj : j = id
    · subst hj
      exact hid
    · have halike := hag.alike j hj
      rw [halike.pending, ne_eq, halike.scheduled]
      exact h.pending_iff j

theorem Matched.removed (h : a.Matched) (hremove : Removed id a b) : b.Matched := by
  have hobject := hremove.object
  exact h.of_agrees hremove.toAgreesBut (by simp [hobject]) fun _ => by rw [hobject]

theorem Matched.handled (h : a.Matched) (hwf : a.WellFormed) (hspacious : a.Spacious)
    (hhandled : Handled a object b) : b.Matched := by
  cases hhandled with
  | kept => exact h
  | removed hremove => exact h.removed hremove
  | started hpos hid hstart =>
    have hslot := hstart.scheduled_of_spacious hwf h hspacious hpos hid
    exact h.of_agrees hstart.toAgreesBut (iff_of_true hstart.pending hslot) fun h0 => absurd h0 (Nat.ne_of_gt hpos)
  | cut hstart hremove =>
    have hobject := hremove.object
    exact h.of_agrees (hstart.toAgreesBut.trans hremove.toAgreesBut) (by simp [hobject])
      fun _ => by rw [hobject]

theorem Matched.advanceClock (h : a.Matched) (delta : Nat) : (a.advanceClock delta).Matched :=
  ⟨h.vacant, h.pending_iff⟩

theorem Matched.rebased (h : a.Matched) (hrebase : Rebased a b) : b.Matched := by
  have hslot (j : ObjectId) : (b.object j).slot = (a.object j).slot := by
    rw [hrebase.object]; split <;> rfl
  have hpending (j : ObjectId) : (b.object j).pending = (a.object j).pending := by
    rw [hrebase.object]; split <;> rfl
  refine ⟨(hslot 0).trans h.vacant, fun j => ?_⟩
  rw [hslot, hpending]
  exact h.pending_iff j

end TimerHeap

/-! ## Reports of a full heap -/

/-- Whether a signal reports a start that found the heap full. -/
def Signal.isHeapFull : Signal → Bool
  | .report (.heapFull ..) => true
  | _ => false

theorem Signal.ofTiming_isHeapFull : OfTiming isHeapFull := by
  rintro (gate | record) h
  · rfl
  · cases record <;> simp_all [isHeapFull, isTiming]

/-- No signal reports a full heap. -/
def Spotless (signals : List Signal) : Prop := ∀ signal ∈ signals, signal.isHeapFull = false

@[simp] theorem spotless_nil : Spotless [] := nofun

theorem spotless_iff {signals : List Signal} : Spotless signals ↔ signals.countP Signal.isHeapFull = 0 := by
  simp [Spotless, List.countP_eq_zero]

namespace Kernel

open Signal (ofTiming_isHeapFull)

variable {s t : Section}

/-- What a kernel is like with room for every object on its heap. -/
structure Roomy (kernel : Kernel) : Prop where
  wellFormed : kernel.WellFormed
  matched : kernel.heap.Matched
  spacious : kernel.heap.Spacious

theorem Roomy.startsApart {kernel : Kernel} (h : kernel.Roomy) : StartsApart Signal.isHeapFull kernel := by
  intro object delay action hpos hlt
  unfold startRecord
  rw [if_pos (h.wellFormed.heap.inUseBut_lt h.matched.vacant h.spacious hpos hlt)]
  rfl

/-- With room on the heap no operation reports that it is full. -/
theorem Performed.spotless {operation : Operation} {r : Except Error (Progress Value)}
    (hroomy : s.kernel.Roomy) (h : Performed s operation r t) (hs : Spotless s.signals) :
    Spotless t.signals := by
  rw [spotless_iff] at hs ⊢
  exact (h.countP_eq ofTiming_isHeapFull hroomy.wellFormed hroomy.startsApart).trans hs

theorem Resumed.spotless {wait : Wait} {r : Except Error (Progress Value)} (h : Resumed s wait r t)
    (hs : Spotless s.signals) : Spotless t.signals := by
  rw [spotless_iff] at hs ⊢
  exact (h.countP_eq ofTiming_isHeapFull).trans hs

theorem NextDue.spotless {action : Option TimerAction} (h : NextDue s action t)
    (hs : Spotless s.signals) : Spotless t.signals := by
  rw [spotless_iff] at hs ⊢
  exact (h.countP_eq ofTiming_isHeapFull).trans hs

theorem TimerFired.spotless {id : TimerId} {r : Except Error Unit} (hroomy : s.kernel.Roomy)
    (h : TimerFired id s r t) (hs : Spotless s.signals) : Spotless t.signals := by
  rw [spotless_iff] at hs ⊢
  rcases h.countP_cases ofTiming_isHeapFull hroomy.wellFormed hroomy.startsApart with rfl | hcount
  · exact hs
  · rw [hcount, hs]
    rfl

theorem ActionDone.spotless {action : TimerAction} (hroomy : s.kernel.Roomy) (h : ActionDone s action t)
    (hs : Spotless s.signals) : Spotless t.signals := by
  cases h with
  | woken => exact List.forall_mem_append.2 ⟨hs, by simp [Signal.isHeapFull]⟩
  | fired hfired => exact hfired.spotless hroomy hs
  | failed hfired => exact List.forall_mem_append.2 ⟨hfired.spotless hroomy hs, by simp [Signal.isHeapFull]⟩

end Kernel

end Executive
