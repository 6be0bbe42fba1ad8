/-
Repair of one slot. Where the order of a heap fails at most around one slot, sinking the object in it
and then raising the object from where it came to rest mends the order (`siftDown_siftUp_repairs`).
The objects in the slots in use change places among themselves and no other object is touched.

Of the links between slots and objects only one half is asked for (`BackReferenced`): an object that
has just left the heap may still remember a slot. The sifts are followed with the objects in a slot
in use as the live ones, of which both halves hold.
-/
import Mathlib.Data.List.Nodup
import Mathlib.Data.List.Perm.Subperm
import Executive.Proofs.TimerHeap.Sift

namespace Executive.TimerHeap

variable {heap a b c : TimerHeap} {live : ObjectId → Prop} {id k m slot : Nat}

/-! ## The slots in use -/

/-- An object is in a slot in use. -/
def Seated (heap : TimerHeap) (id : ObjectId) : Prop :=
  ∃ k, 1 ≤ k ∧ k ≤ heap.inUse ∧ heap.occupant k = id

/-- The objects in the slots in use, in the order of the slots. -/
def occupants (heap : TimerHeap) : List ObjectId := (List.range' 1 heap.inUse).map heap.occupant

theorem mem_occupants : id ∈ heap.occupants ↔ heap.Seated id := by
  unfold occupants Seated
  simp only [List.mem_map, List.mem_range'_1]
  constructor
  · rintro ⟨k, ⟨h1, hk⟩, rfl⟩
    exact ⟨k, h1, by omega, rfl⟩
  · rintro ⟨k, h1, hk, rfl⟩
    exact ⟨k, ⟨h1, by omega⟩, rfl⟩

theorem length_occupants : heap.occupants.length = heap.inUse := by
  rw [occupants, List.length_map, List.length_range']

/-- Each slot in use holds an object that remembers it. -/
structure BackReferenced (heap : TimerHeap) : Prop where
  inUse_lt : heap.inUse < heap.slots.size
  slot_occupant : ∀ k, 1 ≤ k → k ≤ heap.inUse → (heap.object (heap.occupant k)).slot = k

instance (heap : TimerHeap) : Decidable heap.BackReferenced :=
  decidable_of_iff
    (heap.inUse < heap.slots.size ∧
      ∀ k < heap.inUse + 1, 1 ≤ k → (heap.object (heap.occupant k)).slot = k)
    ⟨fun h => ⟨h.1, fun k h1 hk => h.2 k (by omega) h1⟩,
      fun h => ⟨h.inUse_lt, fun k hk h1 => h.slot_occupant k h1 (by omega)⟩⟩

instance (heap : TimerHeap) (slot : Nat) : Decidable (heap.OrderedOff slot) :=
  decidable_of_iff
    ((∀ k < heap.inUse + 1, 2 ≤ k → k ≠ slot → k / 2 ≠ slot → heap.due (k / 2) ≤ heap.due k) ∧
      ∀ k < heap.inUse + 1, 2 ≤ slot → k / 2 = slot → heap.due (slot / 2) ≤ heap.due k)
    ⟨fun h => ⟨fun k k2 hk => h.1 k (by omega) k2, fun k h2 hk => h.2 k (by omega) h2⟩,
      fun h => ⟨fun k hk k2 => h.off k k2 (by omega), fun k hk h2 => h.across k h2 (by omega)⟩⟩

/-- The objects in a slot in use sit in the slots that they remember. -/
theorem BackReferenced.linked (h : heap.BackReferenced) : heap.Linked heap.Seated := by
  refine ⟨h.inUse_lt, fun k h1 hk => ⟨⟨k, h1, hk, rfl⟩, h.slot_occupant k h1 hk⟩, ?_⟩
  rintro j ⟨k, h1, hk, rfl⟩ -
  rw [h.slot_occupant k h1 hk]
  exact ⟨hk, rfl⟩

theorem Linked.backReferenced (h : heap.Linked live) : heap.BackReferenced :=
  ⟨h.inUse_lt, fun k h1 hk => (h.slot_occupant k h1 hk).2⟩

theorem Linked.nodup_occupants (h : heap.Linked live) : heap.occupants.Nodup := by
  refine List.Nodup.map_on (fun j hj k hk heq => ?_) List.nodup_range'
  rw [List.mem_range'_1] at hj hk
  exact h.occupant_inj ⟨hj.1, by omega⟩ ⟨hk.1, by omega⟩ heq

/-! ## What one sift does -/

/-- Heap `b` is heap `a` with the objects of its slots in use in another order. No other object, no
other slot and nothing else of the heap has changed. -/
structure Permuted (a b : TimerHeap) : Prop extends Sifted a.Seated a b where
  occupants : b.occupants.Perm a.occupants

theorem Permuted.seated_iff (h : Permuted a b) : b.Seated id ↔ a.Seated id := by
  rw [← mem_occupants, ← mem_occupants, h.occupants.mem_iff]

theorem Permuted.trans (h : Permuted a b) (h' : Permuted b c) : Permuted a c where
  toRearranged := h.toRearranged.trans h'.toRearranged
  spared j hj := (h'.spared j (mt h.seated_iff.1 hj)).trans (h.spared j hj)
  occupants := h'.occupants.trans h.occupants

/-- As many objects as before are in the slots in use, and each was in one of them before. -/
theorem Permuted.of_linked (hL : b.Linked a.Seated) (h : Sifted a.Seated a b) : Permuted a b := by
  have hsub : b.occupants ⊆ a.occupants := by
    intro j hj
    obtain ⟨k, h1, hk, rfl⟩ := mem_occupants.1 hj
    exact mem_occupants.2 (hL.slot_occupant k h1 hk).1
  have hlen : b.occupants.length = a.occupants.length := by
    rw [length_occupants, length_occupants, h.inUse]
  exact ⟨h, (List.subperm_of_subset hL.nodup_occupants hsub).perm_of_length_le (Nat.le_of_eq hlen.symm)⟩

/-- Heap `b` is heap `a` with its objects permuted, and the object from slot `k` is now in slot `m`.
The objects in the slots in use remember them. -/
structure SiftedTo (k m : Nat) (a b : TimerHeap) : Prop extends Permuted a b where
  backReferenced : b.BackReferenced
  inRange : 1 ≤ m ∧ m ≤ b.inUse
  occupant : b.occupant m = a.occupant k

theorem SiftedTo.of_linked (h1 : 1 ≤ k) (hk : k ≤ a.inUse) (ha : a.BackReferenced)
    (hL : b.Linked a.Seated) (h : Sifted a.Seated a b) (hm : (b.object (a.occupant k)).slot = m) :
    SiftedTo k m a b := by
  have h0 : (a.object (a.occupant k)).slot ≠ 0 := by rw [ha.slot_occupant k h1 hk]; omega
  have hm0 : m ≠ 0 := fun heq => h0 ((h.alike _).scheduled.1 (hm.trans heq))
  obtain ⟨hle, hocc⟩ := hL.occupant_slot (a.occupant k) ⟨k, h1, hk, rfl⟩ (hm ▸ hm0)
  rw [hm] at hle hocc
  exact ⟨.of_linked hL h, hL.backReferenced, ⟨by omega, hle⟩, hocc⟩

/-! ## The repair -/

/-- Take a heap whose slots in use hold objects that remember them, and a slot in use such that the
order holds between each parent and child other than it, and between its parent and its children.
Then `siftDown` from this slot and `siftUp` from the slot that it returns both end. Each returns the
slot in which the object from its own slot now is, permutes the objects in the slots in use and
touches nothing else, and lets each of them remember its slot. In the end the order holds
everywhere. -/
theorem siftDown_siftUp_repairs (h : heap.BackReferenced) (h1 : 1 ≤ slot) (hs : slot ≤ heap.inUse)
    (hO : heap.OrderedOff slot) :
    ∃ slot₁ heap₁ slot₂ heap₂, heap.siftDown slot = .ok (slot₁, heap₁) ∧
      SiftedTo slot slot₁ heap heap₁ ∧ heap₁.siftUp slot₁ = .ok (slot₂, heap₂) ∧
      SiftedTo slot₁ slot₂ heap₁ heap₂ ∧ Permuted heap heap₂ ∧ heap₂.Ordered := by
  obtain ⟨slot₁, heap₁, hdown, hL₁, hO₁, -, hsift₁, hslot₁⟩ := siftDown_spec h.linked h1 hs hO
  have hto₁ := SiftedTo.of_linked h1 hs h hL₁ hsift₁ hslot₁
  obtain ⟨h1₁, hs₁⟩ := hto₁.inRange
  -- which objects are live for the second sift is read off the heap that the first one leaves
  have hback₁ := hto₁.backReferenced
  obtain ⟨slot₂, heap₂, hup, hL₂, hO₂, hsift₂, hslot₂⟩ := siftUp_spec hback₁.linked h1₁ hs₁ hO₁
  have hto₂ := SiftedTo.of_linked h1₁ hs₁ hback₁ hL₂ hsift₂ hslot₂
  exact ⟨slot₁, heap₁, slot₂, heap₂, hdown, hto₁, hup, hto₂,
    hto₁.toPermuted.trans hto₂.toPermuted, hO₂⟩

/-- The object in slot 5 is due before the one in slot 2, its parent; object 11 has left the heap and
still remembers slot 5. -/
def replaced : TimerHeap where
  objects := #[{ slot := 11, wake := 22 }, { slot := 10, wake := 25 }, { slot := 9, wake := 41 },
    { slot := 8, wake := 45 }, { slot := 7, wake := 30 }, { slot := 6, wake := 15 },
    { slot := 5, wake := 12 }, { slot := 4, wake := 40 }, { slot := 3, wake := 15 },
    { slot := 2, wake := 20 }, { slot := 1, wake := 10 }, { slot := 5, wake := 33 }]
  slots := #[0, 10, 9, 8, 7, 6, 5, 4, 3, 2, 1, 0, 3]
  inUse := 11
  maxTick := 100

theorem replaced_repaired : replaced.BackReferenced ∧ 1 ≤ 5 ∧ 5 ≤ replaced.inUse ∧
    replaced.OrderedOff 5 ∧
    ∃ slot₁ heap₁ slot₂ heap₂, replaced.siftDown 5 = .ok (slot₁, heap₁) ∧
      SiftedTo 5 slot₁ replaced heap₁ ∧ heap₁.siftUp slot₁ = .ok (slot₂, heap₂) ∧
      SiftedTo slot₁ slot₂ heap₁ heap₂ ∧ Permuted replaced heap₂ ∧ heap₂.Ordered :=
  have backReferenced : replaced.BackReferenced := by decide
  have orderedOff : replaced.OrderedOff 5 := by decide
  ⟨backReferenced, by decide, by decide, orderedOff,
    siftDown_siftUp_repairs backReferenced (by decide) (by decide) orderedOff⟩

end Executive.TimerHeap
