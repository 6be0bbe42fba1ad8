/-
The layout of a timer heap: which object sits in which slot, and what each object holds. `Linked`
says that slots and objects point at each other; `Lifted` says the same of a heap one object of
which has been taken in hand, so that its slot is vacant. `Rearranged` relates two heaps that hold
the same objects in other slots, and `Sifted` says which objects may have moved.
-/
import Executive.Proofs.Checked
import Executive.TimerHeap.Basic

namespace Executive

/-- Two objects that differ at most in the slot, and are both scheduled or both not. -/
structure TimerObject.Alike (x y : TimerObject) : Prop where
  wake : y.wake = x.wake
  action : y.action = x.action
  pending : y.pending = x.pending
  scheduled : y.slot = 0 ↔ x.slot = 0

namespace TimerObject.Alike

variable {x y z : TimerObject}

theorem refl (x : TimerObject) : Alike x x := ⟨rfl, rfl, rfl, Iff.rfl⟩

theorem trans (h : Alike x y) (k : Alike y z) : Alike x z :=
  ⟨k.wake.trans h.wake, k.action.trans h.action, k.pending.trans h.pending,
    k.scheduled.trans h.scheduled⟩

/-- An object that is not scheduled is left as it was. -/
theorem eq_of_slot (h : Alike x y) (h0 : x.slot = 0) : y = x := by
  obtain ⟨slot, wake, action, pending⟩ := x
  obtain ⟨slot', wake', action', pending'⟩ := y
  obtain ⟨hw, ha, hp, hs⟩ := h
  simp only at hw ha hp hs h0
  rw [hw, ha, hp, hs.2 h0, h0]

end TimerObject.Alike

namespace TimerHeap

variable {heap : TimerHeap} {id hole slot : Nat}

/-- The object of a number; a number outside the arena stands for an object never started. -/
def object (heap : TimerHeap) (id : ObjectId) : TimerObject := heap.objects[id]?.getD {}

/-- The object in a slot. -/
def occupant (heap : TimerHeap) (slot : Nat) : ObjectId := heap.slots[slot]?.getD 0

/-- The due tick of the object in a slot. -/
def due (heap : TimerHeap) (slot : Nat) : Nat := (heap.object (heap.occupant slot)).wake

theorem object_of_size_le (h : heap.objects.size ≤ id) : heap.object id = {} := by
  unfold object
  rw [Array.getElem?_eq_none h]; rfl

theorem lt_size_of_slot_ne_zero (h : (heap.object id).slot ≠ 0) : id < heap.objects.size := by
  rcases Nat.lt_or_ge id heap.objects.size with hlt | hle
  · exact hlt
  · exact absurd (congrArg TimerObject.slot (object_of_size_le hle)) h

theorem read_objects (h : id < heap.objects.size) :
    Checked.read heap.objects id = .ok (heap.object id) := by
  rw [Checked.read_eq h, object, Array.getElem?_eq_getElem h]; rfl

theorem read_slots (h : slot < heap.slots.size) :
    Checked.read heap.slots slot = .ok (heap.occupant slot) := by
  rw [Checked.read_eq h, occupant, Array.getElem?_eq_getElem h]; rfl

theorem isScheduled_eq (h : id < heap.objects.size) :
    heap.isScheduled id = .ok ((heap.object id).slot != 0) := by
  unfold isScheduled
  rw [read_objects h]; rfl

theorem isPending_eq (h : id < heap.objects.size) :
    heap.isPending id = .ok (heap.object id).pending := by
  unfold isPending
  rw [read_objects h]; rfl

theorem wakeOf_eq (h : id < heap.objects.size) : heap.wakeOf id = .ok (heap.object id).wake := by
  unfold wakeOf
  rw [read_objects h]; rfl

theorem wakeAt_eq (hs : slot < heap.slots.size) (ho : heap.occupant slot < heap.objects.size) :
    heap.wakeAt slot = .ok (heap.due slot) := by
  unfold wakeAt
  rw [read_slots hs, Checked.ok_bind, wakeOf_eq ho]; rfl

/-! ## Changing one object -/

/-- A heap with one of its objects changed. -/
def alter (heap : TimerHeap) (id : ObjectId) (f : TimerObject → TimerObject) : TimerHeap :=
  { heap with objects := heap.objects.modify id f }

theorem object_alter (h : id < heap.objects.size) (f : TimerObject → TimerObject) (j : ObjectId) :
    (heap.alter id f).object j = if j = id then f (heap.object j) else heap.object j := by
  by_cases hj : j = id
  · subst hj; simp [alter, object, h, Array.getElem_modify_self]
  · rw [if_neg hj]; simp [alter, object, Array.getElem?_modify, Ne.symm hj]

@[simp] theorem occupant_alter (f : TimerObject → TimerObject) (k : Nat) :
    (heap.alter id f).occupant k = heap.occupant k := rfl

@[simp] theorem inUse_alter (f : TimerObject → TimerObject) : (heap.alter id f).inUse = heap.inUse := rfl

@[simp] theorem size_objects_alter (f : TimerObject → TimerObject) :
    (heap.alter id f).objects.size = heap.objects.size := Array.size_modify ..

/-! ## Putting an object into a slot -/

/-- A heap with object `id` in `slot`, whatever the slot held before. -/
def seat (heap : TimerHeap) (slot : Nat) (id : ObjectId) : TimerHeap :=
  { heap with
    slots := heap.slots.setIfInBounds slot id
    objects := heap.objects.modify id ({ · with slot }) }

theorem place_eq (hs : slot < heap.slots.size) (ho : id < heap.objects.size) :
    heap.place slot id = .ok (heap.seat slot id) := by
  unfold place
  rw [Checked.write_eq _ hs, Checked.ok_bind, Checked.update_eq _ ho]; rfl

theorem object_seat (h : id < heap.objects.size) (j : ObjectId) :
    (heap.seat slot id).object j =
      if j = id then { heap.object j with slot } else heap.object j := by
  show (heap.alter id ({ · with slot })).object j = _
  exact object_alter h _ j

theorem occupant_seat (h : slot < heap.slots.size) (k : Nat) :
    (heap.seat slot id).occupant k = if k = slot then id else heap.occupant k := by
  by_cases hk : k = slot
  · subst hk; simp [seat, occupant, h]
  · rw [if_neg hk]; simp [seat, occupant, Ne.symm hk]

@[simp] theorem inUse_seat : (heap.seat slot id).inUse = heap.inUse := rfl

@[simp] theorem size_slots_seat : (heap.seat slot id).slots.size = heap.slots.size :=
  Array.size_setIfInBounds ..

@[simp] theorem size_objects_seat : (heap.seat slot id).objects.size = heap.objects.size :=
  Array.size_modify ..

theorem wake_seat (h : id < heap.objects.size) (j : ObjectId) :
    ((heap.seat slot id).object j).wake = (heap.object j).wake := by
  rw [object_seat h]; split <;> rfl

theorem due_seat (hs : slot < heap.slots.size) (ho : id < heap.objects.size) (k : Nat) :
    (heap.seat slot id).due k = if k = slot then (heap.object id).wake else heap.due k := by
  unfold due
  rw [wake_seat ho, occupant_seat hs]
  split <;> rfl

/-! ## Slots and objects that point at each other -/

/-- Each slot in use holds a live object that remembers it, and each live object that remembers a
slot sits in it. An object that is just leaving the heap is not live. -/
structure Linked (heap : TimerHeap) (live : ObjectId → Prop) : Prop where
  inUse_lt : heap.inUse < heap.slots.size
  slot_occupant : ∀ k, 1 ≤ k → k ≤ heap.inUse →
    live (heap.occupant k) ∧ (heap.object (heap.occupant k)).slot = k
  occupant_slot : ∀ j, live j → (heap.object j).slot ≠ 0 →
    (heap.object j).slot ≤ heap.inUse ∧ heap.occupant (heap.object j).slot = j

/-- The same of a heap whose object `id` has been taken out of the slot `hole`: it is scheduled, but
what it remembers and what is left in the slot mean nothing. -/
structure Lifted (heap : TimerHeap) (live : ObjectId → Prop) (id : ObjectId) (hole : Nat) :
    Prop where
  hole_pos : 1 ≤ hole
  hole_le : hole ≤ heap.inUse
  inUse_lt : heap.inUse < heap.slots.size
  live_id : live id
  scheduled : (heap.object id).slot ≠ 0
  slot_occupant : ∀ k, 1 ≤ k → k ≤ heap.inUse → k ≠ hole →
    heap.occupant k ≠ id ∧ live (heap.occupant k) ∧ (heap.object (heap.occupant k)).slot = k
  occupant_slot : ∀ j, j ≠ id → live j → (heap.object j).slot ≠ 0 →
    (heap.object j).slot ≤ heap.inUse ∧ (heap.object j).slot ≠ hole ∧
      heap.occupant (heap.object j).slot = j

variable {live : ObjectId → Prop}

theorem Linked.occupant_lt (h : heap.Linked live) {k : Nat} (h1 : 1 ≤ k) (hk : k ≤ heap.inUse) :
    heap.occupant k < heap.objects.size :=
  lt_size_of_slot_ne_zero (by rw [(h.slot_occupant k h1 hk).2]; omega)

theorem Linked.occupant_inj (h : heap.Linked live) {j k : Nat} (hj : 1 ≤ j ∧ j ≤ heap.inUse)
    (hk : 1 ≤ k ∧ k ≤ heap.inUse) (heq : heap.occupant j = heap.occupant k) : j = k := by
  rw [← (h.slot_occupant j hj.1 hj.2).2, heq, (h.slot_occupant k hk.1 hk.2).2]

/-- Any object in the heap can be taken in hand. -/
theorem Linked.lift (h : heap.Linked live) {k : Nat} (h1 : 1 ≤ k) (hk : k ≤ heap.inUse) :
    heap.Lifted live (heap.occupant k) k := by
  obtain ⟨hlive, hslot⟩ := h.slot_occupant k h1 hk
  refine ⟨h1, hk, h.inUse_lt, hlive, by omega, ?_, ?_⟩
  · intro m hm hmu hne
    exact ⟨fun heq => hne (h.occupant_inj ⟨hm, hmu⟩ ⟨h1, hk⟩ heq), h.slot_occupant m hm hmu⟩
  · intro j hj hlj h0
    obtain ⟨hle, hocc⟩ := h.occupant_slot j hlj h0
    exact ⟨hle, fun heq => hj (by rw [← hocc, heq]), hocc⟩

namespace Lifted

theorem id_lt (h : heap.Lifted live id hole) : id < heap.objects.size :=
  lt_size_of_slot_ne_zero h.scheduled

theorem hole_lt (h : heap.Lifted live id hole) : hole < heap.slots.size :=
  Nat.lt_of_le_of_lt h.hole_le h.inUse_lt

theorem occupant_lt (h : heap.Lifted live id hole) {k : Nat} (h1 : 1 ≤ k) (hk : k ≤ heap.inUse)
    (hne : k ≠ hole) : heap.occupant k < heap.objects.size :=
  lt_size_of_slot_ne_zero (by rw [(h.slot_occupant k h1 hk hne).2.2]; omega)

/-- The object in hand fills the vacant slot. -/
theorem seat (h : heap.Lifted live id hole) : (heap.seat hole id).Linked live := by
  refine ⟨by simpa using h.inUse_lt, ?_, ?_⟩
  · intro k h1 hk
    rw [occupant_seat h.hole_lt, object_seat h.id_lt]
    by_cases hkh : k = hole
    · simp [hkh, h.live_id]
    · obtain ⟨hne, hlive, hslot⟩ := h.slot_occupant k h1 hk hkh
      simp [hkh, hne, hlive, hslot]
  · intro j hlj hj
    rw [object_seat h.id_lt] at hj ⊢
    by_cases hji : j = id
    · simp [hji, occupant_seat h.hole_lt, h.hole_le]
    · rw [if_neg hji] at hj ⊢
      obtain ⟨hle, hne, hocc⟩ := h.occupant_slot j hji hlj hj
      simp [occupant_seat h.hole_lt, hle, hne, hocc]

/-- The object of another slot moves into the vacant one, which leaves its own slot vacant. -/
theorem move (h : heap.Lifted live id hole) {k : Nat} (h1 : 1 ≤ k) (hk : k ≤ heap.inUse)
    (hne : k ≠ hole) : (heap.seat hole (heap.occupant k)).Lifted live id k := by
  obtain ⟨hki, hkl, hks⟩ := h.slot_occupant k h1 hk hne
  have hlt := h.occupant_lt h1 hk hne
  refine ⟨h1, hk, by simpa using h.inUse_lt, h.live_id, ?_, ?_, ?_⟩
  · rw [object_seat hlt, if_neg (Ne.symm hki)]; exact h.scheduled
  · intro m hm hmu hmk
    rw [occupant_seat h.hole_lt, object_seat hlt]
    by_cases hmh : m = hole
    · simp [hmh, hki, hkl]
    · obtain ⟨hmi, hml, hms⟩ := h.slot_occupant m hm hmu hmh
      have hmo : heap.occupant m ≠ heap.occupant k := by
        intro heq; rw [heq, hks] at hms; exact hmk hms.symm
      simp [hmh, hmi, hml, hms, hmo]
  · intro j hj hlj h0
    rw [object_seat hlt] at h0 ⊢
    by_cases hjk : j = heap.occupant k
    · simp [hjk, occupant_seat h.hole_lt, h.hole_le, Ne.symm hne]
    · rw [if_neg hjk] at h0 ⊢
      obtain ⟨hle, hnh, hocc⟩ := h.occupant_slot j hj hlj h0
      refine ⟨hle, fun heq => hjk (by rw [← hocc, heq]), ?_⟩
      rw [occupant_seat h.hole_lt, if_neg hnh, hocc]

end Lifted

/-! ## The same objects in other slots -/

/-- Heap `b` schedules the objects that heap `a` schedules, in the same slots, in some order. -/
structure Rearranged (a b : TimerHeap) : Prop where
  inUse : b.inUse = a.inUse
  clock : b.clock = a.clock
  ticks : b.ticks = a.ticks
  maxTick : b.maxTick = a.maxTick
  size_slots : b.slots.size = a.slots.size
  size_objects : b.objects.size = a.objects.size
  alike : ∀ j, (a.object j).Alike (b.object j)
  outside : ∀ k, k = 0 ∨ a.inUse < k → b.occupant k = a.occupant k

namespace Rearranged

variable {a b c : TimerHeap}

theorem refl (a : TimerHeap) : Rearranged a a :=
  ⟨rfl, rfl, rfl, rfl, rfl, rfl, fun _ => .refl _, fun _ _ => rfl⟩

theorem trans (h : Rearranged a b) (k : Rearranged b c) : Rearranged a c where
  inUse := k.inUse.trans h.inUse
  clock := k.clock.trans h.clock
  ticks := k.ticks.trans h.ticks
  maxTick := k.maxTick.trans h.maxTick
  size_slots := k.size_slots.trans h.size_slots
  size_objects := k.size_objects.trans h.size_objects
  alike j := (h.alike j).trans (k.alike j)
  outside j hj := (k.outside j (by rw [h.inUse]; exact hj)).trans (h.outside j hj)

/-- Putting a scheduled object into a slot in use rearranges the heap. -/
theorem seat {k : Nat} (h1 : 1 ≤ k) (hk : k ≤ heap.inUse) (hs : heap.inUse < heap.slots.size)
    (hid : (heap.object id).slot ≠ 0) : Rearranged heap (heap.seat k id) where
  inUse := rfl
  clock := rfl
  ticks := rfl
  maxTick := rfl
  size_slots := size_slots_seat
  size_objects := size_objects_seat
  alike j := by
    rw [object_seat (lt_size_of_slot_ne_zero hid)]
    split
    · rename_i hj
      exact ⟨rfl, rfl, rfl, iff_of_false (by simp; omega) (hj ▸ hid)⟩
    · exact .refl _
  outside m hm := by
    rw [occupant_seat (by omega), if_neg (by omega)]

end Rearranged

/-- The same, and none but live objects have moved. -/
structure Sifted (live : ObjectId → Prop) (a b : TimerHeap) : Prop extends Rearranged a b where
  spared : ∀ j, ¬ live j → b.object j = a.object j

namespace Sifted

variable {a b c : TimerHeap}

theorem trans (h : Sifted live a b) (k : Sifted live b c) : Sifted live a c :=
  ⟨h.toRearranged.trans k.toRearranged, fun j hj => (k.spared j hj).trans (h.spared j hj)⟩

/-- Putting a live object into a slot in use moves no other one. -/
theorem seat {k : Nat} (h1 : 1 ≤ k) (hk : k ≤ heap.inUse) (hs : heap.inUse < heap.slots.size)
    (hid : (heap.object id).slot ≠ 0) (hl : live id) : Sifted live heap (heap.seat k id) := by
  refine ⟨.seat h1 hk hs hid, fun j hj => ?_⟩
  rw [object_seat (lt_size_of_slot_ne_zero hid), if_neg (by rintro rfl; exact hj hl)]

end Sifted

end TimerHeap

end Executive
