/-
Sifting keeps the heap: it ends, it only rearranges the objects, it returns the slot in which the
moved object comes to rest, and it mends the order. What `siftDown` needs is that the pairs of parent
and child away from its slot are in order, and the parent of the slot with its children
(`OrderedOff`). It leaves at most the pair of the resulting slot and its parent out of order
(`OrderedBut`), which is what `siftUp` needs.
-/
import Executive.Proofs.TimerHeap.Layout
import Executive.TimerHeap.Sift

namespace Executive.TimerHeap

variable {heap : TimerHeap} {live : ObjectId → Prop} {id hole slot : Nat}

/-! ## Order and its exceptions -/

/-- No object is due before the object in the parent of its slot. -/
def Ordered (heap : TimerHeap) : Prop :=
  ∀ k, 2 ≤ k → k ≤ heap.inUse → heap.due (k / 2) ≤ heap.due k

/-- The pairs of parent and child away from the slot `hole` are in order, and so are the parent of
`hole` and its children. -/
structure OrderedOff (heap : TimerHeap) (hole : Nat) : Prop where
  off : ∀ k, 2 ≤ k → k ≤ heap.inUse → k ≠ hole → k / 2 ≠ hole → heap.due (k / 2) ≤ heap.due k
  across : ∀ k, 2 ≤ hole → k ≤ heap.inUse → k / 2 = hole → heap.due (hole / 2) ≤ heap.due k

/-- All pairs of parent and child are in order but for `slot` and its parent; the children of `slot`
are in order with its parent too. -/
structure OrderedBut (heap : TimerHeap) (slot : Nat) : Prop where
  pairs : ∀ k, 2 ≤ k → k ≤ heap.inUse → k ≠ slot → heap.due (k / 2) ≤ heap.due k
  across : ∀ k, 2 ≤ slot → k ≤ heap.inUse → k / 2 = slot → heap.due (slot / 2) ≤ heap.due k

theorem OrderedBut.off (h : OrderedBut heap slot) : OrderedOff heap slot :=
  ⟨fun k h2 hk hne _ => h.pairs k h2 hk hne, h.across⟩

theorem OrderedBut.ordered (h : OrderedBut heap slot)
    (hs : 2 ≤ slot → heap.due (slot / 2) ≤ heap.due slot) : Ordered heap := by
  intro k h2 hk
  by_cases hks : k = slot
  · subst hks; exact hs h2
  · exact h.pairs k h2 hk hks

theorem Ordered.but (h : Ordered heap) (slot : Nat) : OrderedBut heap slot := by
  constructor
  · intro k h2 hk _
    exact h k h2 hk
  · intro k h2 hk hks
    exact Nat.le_trans (h slot h2 (by omega)) (hks ▸ h k (by omega) hk)

/-- The order is one of the due ticks in the slots alone. -/
theorem Ordered.of_due {a b : TimerHeap} (h : Ordered a) (hu : b.inUse ≤ a.inUse)
    (hd : ∀ k, 1 ≤ k → k ≤ b.inUse → b.due k = a.due k) : Ordered b := by
  intro k h2 hk
  rw [hd _ (by omega) (by omega), hd _ (by omega) hk]
  exact h k h2 (by omega)

/-- The object in the root slot is due first. -/
theorem Ordered.root_le (h : Ordered heap) :
    ∀ k, 1 ≤ k → k ≤ heap.inUse → heap.due 1 ≤ heap.due k := by
  intro k
  induction k using Nat.strongRecOn with
  | ind k ih =>
    intro h1 hk
    by_cases hk1 : k = 1
    · exact Nat.le_of_eq (congrArg heap.due hk1.symm)
    · exact Nat.le_trans (ih (k / 2) (by omega) (by omega) (by omega)) (h k (by omega) hk)

/-- The object in hand comes to rest where no child is due before it. -/
theorem OrderedOff.but_seat (h : OrderedOff heap hole) (hL : heap.Lifted live id hole)
    (hbelow : ∀ k, k ≤ heap.inUse → k / 2 = hole → (heap.object id).wake ≤ heap.due k) :
    OrderedBut (heap.seat hole id) hole := by
  have h1 := hL.hole_pos
  have hdue := due_seat hL.hole_lt hL.id_lt
  constructor
  · intro k k2 hk hkh
    rw [hdue, hdue, if_neg hkh]
    by_cases hkp : k / 2 = hole
    · rw [if_pos hkp]; exact hbelow k hk hkp
    · rw [if_neg hkp]; exact h.off k k2 hk hkh hkp
  · intro k h2 hk hkp
    rw [hdue, hdue, if_neg (by omega), if_neg (by omega)]
    exact h.across k h2 hk hkp

/-- It comes to rest in order where its parent is not due after it either. -/
theorem OrderedOff.ordered_seat (h : OrderedOff heap hole) (hL : heap.Lifted live id hole)
    (hbelow : ∀ k, 2 ≤ k → k ≤ heap.inUse → k / 2 = hole → (heap.object id).wake ≤ heap.due k)
    (habove : 2 ≤ hole → heap.due (hole / 2) ≤ (heap.object id).wake) :
    Ordered (heap.seat hole id) := by
  have h1 := hL.hole_pos
  have hdue := due_seat hL.hole_lt hL.id_lt
  refine (h.but_seat hL fun k hk hkp => hbelow k (by omega) hk hkp).ordered fun h2 => ?_
  rw [hdue, hdue, if_neg (by omega), if_pos rfl]
  exact habove h2

/-! ## Rising -/

/-- What is left in the vacant slot does not matter for the order when its parent has moved down
into it. -/
theorem OrderedOff.moveUp (h : OrderedOff heap hole) (hL : heap.Lifted live id hole) (h2 : 2 ≤ hole) :
    OrderedOff (heap.seat hole (heap.occupant (hole / 2))) (hole / 2) := by
  have hle := hL.hole_le
  have hlt := hL.occupant_lt (k := hole / 2) (by omega) (by omega) (by omega)
  have hdue := due_seat hL.hole_lt hlt
  constructor
  · intro k k2 hk hkp hpp
    rw [inUse_seat] at hk
    rw [hdue, hdue]
    by_cases hkc : k / 2 = hole
    · rw [if_pos hkc, if_neg (by omega)]; exact h.across k h2 hk hkc
    · rw [if_neg hkc, if_neg (by rintro rfl; omega)]
      exact h.off k k2 hk (by rintro rfl; omega) hkc
  · intro k p2 hk hkp
    rw [inUse_seat] at hk
    have hup := h.off (hole / 2) (by omega) (by omega) (by omega) (by omega)
    rw [hdue, hdue, if_neg (by omega)]
    by_cases hkh : k = hole
    · rw [if_pos hkh]; exact hup
    · rw [if_neg hkh]
      exact Nat.le_trans hup (hkp ▸ h.off k (by omega) hk hkh (by omega))

theorem rise_spec (wake : Nat) : ∀ (slot : Nat) (heap : TimerHeap), heap.Lifted live id slot →
    OrderedOff heap slot → (∀ k, 2 ≤ k → k ≤ heap.inUse → k / 2 = slot → wake ≤ heap.due k) →
    (heap.object id).wake = wake →
    ∃ slot' heap', heap.rise id wake slot = .ok (slot', heap') ∧ heap'.Linked live ∧ Ordered heap' ∧
      Sifted live heap heap' ∧ (heap'.object id).slot = slot' := by
  intro slot
  induction slot using Nat.strongRecOn with
  | ind slot ih =>
    intro heap hL hO hbelow hwake
    have hle := hL.hole_le
    have hlt := hL.hole_lt
    -- where the rise stops, the object in hand fills the vacant slot
    have done (hstop : 2 ≤ slot → heap.due (slot / 2) ≤ wake) :
        ∃ heap', heap.place slot id = .ok heap' ∧ heap'.Linked live ∧ Ordered heap' ∧
          Sifted live heap heap' ∧ (heap'.object id).slot = slot :=
      ⟨_, place_eq hlt hL.id_lt, hL.seat, hO.ordered_seat hL (hwake ▸ hbelow) (hwake ▸ hstop),
        .seat hL.hole_pos hle hL.inUse_lt hL.scheduled hL.live_id, by simp [object_seat hL.id_lt]⟩
    unfold rise
    by_cases h1 : 1 < slot
    · have hplt := hL.occupant_lt (k := slot / 2) (by omega) (by omega) (by omega)
      rw [dif_pos h1, read_slots (by omega), Checked.ok_bind, wakeOf_eq hplt, Checked.ok_bind]
      by_cases hw : wake < (heap.object (heap.occupant (slot / 2))).wake
      · -- the parent moves down into the vacant slot, and its own slot is vacant now
        rw [if_pos hw, place_eq hlt hplt, Checked.ok_bind]
        have hL' := hL.move (k := slot / 2) (by omega) (by omega) (by omega)
        obtain ⟨-, hpl, hps⟩ := hL.slot_occupant (slot / 2) (by omega) (by omega) (by omega)
        have hseat : Sifted live heap (heap.seat slot (heap.occupant (slot / 2))) :=
          .seat hL.hole_pos hle hL.inUse_lt (by omega) hpl
        have hbelow' : ∀ k, 2 ≤ k → k ≤ heap.inUse → k / 2 = slot / 2 →
            wake ≤ (heap.seat slot (heap.occupant (slot / 2))).due k := by
          intro k k2 hk hkp
          rw [due_seat hlt hplt]
          by_cases hks : k = slot
          · rw [if_pos hks]; exact Nat.le_of_lt hw
          · rw [if_neg hks]
            exact Nat.le_trans (Nat.le_of_lt hw) (hkp ▸ hO.off k k2 hk hks (by omega))
        obtain ⟨slot', heap', hr, hlink, hord, hre, hslot⟩ :=
          ih (slot / 2) (by omega) _ hL' (hO.moveUp hL h1) hbelow' (by rw [wake_seat hplt, hwake])
        exact ⟨slot', heap', hr, hlink, hord, hseat.trans hre, hslot⟩
      · obtain ⟨heap', hp, h⟩ := done (fun _ => by rw [due]; omega)
        rw [if_neg hw, hp]
        exact ⟨slot, heap', rfl, h⟩
    · obtain ⟨heap', hp, h⟩ := done (fun h2 => absurd h2 (by omega))
      rw [dif_neg h1, hp]
      exact ⟨slot, heap', rfl, h⟩

/-- `siftUp` mends a heap that is in order but for its slot and the parent of it. -/
theorem siftUp_spec (hL : heap.Linked live) (h1 : 1 ≤ slot) (hs : slot ≤ heap.inUse)
    (hO : OrderedBut heap slot) :
    ∃ slot' heap', heap.siftUp slot = .ok (slot', heap') ∧ heap'.Linked live ∧ Ordered heap' ∧
      Sifted live heap heap' ∧ (heap'.object (heap.occupant slot)).slot = slot' := by
  have hlt := hL.inUse_lt
  unfold siftUp
  rw [read_slots (by omega), Checked.ok_bind, wakeOf_eq (hL.occupant_lt h1 hs),
    Checked.ok_bind]
  exact rise_spec _ slot heap (hL.lift h1 hs) hO.off
    (fun k k2 hk hkp => hkp ▸ hO.pairs k k2 hk (by omega)) rfl

/-! ## Sinking -/

/-- What a slot holds does not matter for the order away from it. -/
theorem OrderedOff.seat (h : heap.OrderedOff hole) (hs : hole < heap.slots.size)
    (ho : id < heap.objects.size) : (heap.seat hole id).OrderedOff hole := by
  constructor
  · intro k k2 hk hkh hkp
    rw [due_seat hs ho, due_seat hs ho, if_neg hkh, if_neg hkp]
    exact h.off k k2 hk hkh hkp
  · intro k h2 hk hkp
    rw [due_seat hs ho, due_seat hs ho, if_neg (by omega), if_neg (by omega)]
    exact h.across k h2 hk hkp

/-- The child that may move up is due no later than the other one. -/
theorem rightFirst_spec (hL : heap.Lifted live id hole) (hc : hole ≤ heap.inUse / 2) :
    ∃ right, heap.rightFirst heap.inUse hole = .ok right ∧
      2 * hole + right.toNat ≤ heap.inUse ∧
      ∀ k, k ≤ heap.inUse → k / 2 = hole → heap.due (2 * hole + right.toNat) ≤ heap.due k := by
  have h1 := hL.hole_pos
  have hlt := hL.inUse_lt
  unfold rightFirst
  by_cases hr : 2 * hole < heap.inUse
  · have hr' := hL.occupant_lt (k := 2 * hole + 1) (by omega) (by omega) (by omega)
    have hl' := hL.occupant_lt (k := 2 * hole) (by omega) (by omega) (by omega)
    rw [if_pos hr, wakeAt_eq (by omega) hr', Checked.ok_bind, wakeAt_eq (by omega) hl']
    refine ⟨decide (heap.due (2 * hole + 1) < heap.due (2 * hole)), rfl, ?_, ?_⟩
    · have := Bool.toNat_le (decide (heap.due (2 * hole + 1) < heap.due (2 * hole)))
      omega
    · intro k hk hkp
      have hcase : k = 2 * hole ∨ k = 2 * hole + 1 := by omega
      by_cases hd : heap.due (2 * hole + 1) < heap.due (2 * hole)
      · simp only [hd, decide_true, Bool.toNat_true]
        rcases hcase with rfl | rfl <;> omega
      · simp only [hd, decide_false, Bool.toNat_false, Nat.add_zero]
        rcases hcase with rfl | rfl <;> omega
  · rw [if_neg hr]
    refine ⟨false, rfl, by simp; omega, fun k hk hkp => ?_⟩
    have : k = 2 * hole := by omega
    subst this; exact Nat.le_refl _

/-- What is left in the vacant slot does not matter for the order when the first due of its children
has moved up into it. -/
theorem OrderedOff.moveDown (h : OrderedOff heap hole) (hL : heap.Lifted live id hole) {c : Nat}
    (hc : c / 2 = hole) (hle : c ≤ heap.inUse)
    (hmin : ∀ k, k ≤ heap.inUse → k / 2 = hole → heap.due c ≤ heap.due k) :
    OrderedOff (heap.seat hole (heap.occupant c)) c := by
  have h1 := hL.hole_pos
  have hlt := hL.occupant_lt (k := c) (by omega) hle (by omega)
  have hdue := due_seat hL.hole_lt hlt
  constructor
  · intro k k2 hk hkc hkp
    rw [inUse_seat] at hk
    rw [hdue, hdue]
    by_cases hkh : k = hole
    · rw [if_neg (by omega), if_pos hkh, hkh]; exact h.across c (by omega) hle hc
    · rw [if_neg hkh]
      by_cases hkp' : k / 2 = hole
      · rw [if_pos hkp']; exact hmin k hk hkp'
      · rw [if_neg hkp']; exact h.off k k2 hk hkh hkp'
  · intro k c2 hk hkc
    rw [inUse_seat] at hk
    rw [hdue, hdue, if_pos hc, if_neg (by omega)]
    exact hkc ▸ h.off k (by omega) hk (by omega) (by omega)

theorem sink_spec (wake : Nat) : ∀ (n slot : Nat) (heap : TimerHeap), heap.inUse - slot = n →
    heap.Lifted live id slot → OrderedOff heap slot → (heap.object id).wake = wake →
    ∃ slot' heap', heap.sink heap.inUse id wake slot = .ok (slot', heap') ∧ heap'.Linked live ∧
      OrderedBut heap' slot' ∧ ((2 ≤ slot → heap.due (slot / 2) ≤ wake) → Ordered heap') ∧
      Sifted live heap heap' ∧ (heap'.object id).slot = slot' := by
  intro n
  induction n using Nat.strongRecOn with
  | ind n ih =>
    intro slot heap hn hL hO hwake
    have h1 := hL.hole_pos
    have hle := hL.hole_le
    have hlt := hL.hole_lt
    have husz := hL.inUse_lt
    -- where the sinking stops, the object in hand fills the vacant slot
    have done (hstop : ∀ k, k ≤ heap.inUse → k / 2 = slot → wake ≤ heap.due k) :
        ∃ heap', heap.place slot id = .ok heap' ∧ heap'.Linked live ∧ OrderedBut heap' slot ∧
          ((2 ≤ slot → heap.due (slot / 2) ≤ wake) → Ordered heap') ∧
          Sifted live heap heap' ∧ (heap'.object id).slot = slot :=
      ⟨_, place_eq hlt hL.id_lt, hL.seat, hO.but_seat hL (hwake ▸ hstop),
        fun habove => hO.ordered_seat hL (hwake ▸ fun k _ => hstop k) (hwake ▸ habove),
        .seat h1 hle husz hL.scheduled hL.live_id, by simp [object_seat hL.id_lt]⟩
    unfold sink
    by_cases hc : 0 < slot ∧ slot ≤ heap.inUse / 2
    · obtain ⟨right, hright, hcle, hmin⟩ := rightFirst_spec hL hc.2
      rw [dif_pos hc, hright, Checked.ok_bind]
      have hright1 := Bool.toNat_le right
      generalize hcdef : 2 * slot + right.toNat = c at hcle hmin
      have hclt := hL.occupant_lt (k := c) (by omega) hcle (by omega)
      dsimp only
      rw [wakeAt_eq (by omega) hclt, Checked.ok_bind]
      by_cases hw : wake ≤ heap.due c
      · obtain ⟨heap', hp, h⟩ := done (fun k hk hkp => Nat.le_trans hw (hmin k hk hkp))
        rw [if_pos hw, hp]
        exact ⟨slot, heap', rfl, h⟩
      · -- the child due first moves up into the vacant slot, and its own slot is vacant now
        rw [if_neg hw, read_slots (by omega), Checked.ok_bind, place_eq hlt hclt, Checked.ok_bind]
        have hL' := hL.move (k := c) (by omega) hcle (by omega)
        obtain ⟨-, hcl, hcs⟩ := hL.slot_occupant c (by omega) hcle (by omega)
        have hseat : Sifted live heap (heap.seat slot (heap.occupant c)) :=
          .seat h1 hle husz (by omega) hcl
        obtain ⟨slot', heap', hr, hlink, hord, hup, hre, hslot⟩ :=
          ih (heap.inUse - c) (by omega) c (heap.seat slot (heap.occupant c)) rfl hL'
            (hO.moveDown hL (by omega) hcle hmin) (by rw [wake_seat hclt, hwake])
        refine ⟨slot', heap', hr, hlink, hord, fun _ => hup fun _ => ?_, hseat.trans hre, hslot⟩
        rw [due_seat hlt hclt, if_pos (by omega)]
        exact Nat.le_of_lt (Nat.lt_of_not_le hw)
    · obtain ⟨heap', hp, h⟩ := done (fun k hk hkp => by omega)
      rw [dif_neg hc, hp]
      exact ⟨slot, heap', rfl, h⟩

/-- `siftDown` mends a heap that is in order away from its slot, up to the pair of the resulting slot
and its parent; if the object in its slot is not due before its parent, that pair is in order too. -/
theorem siftDown_spec (hL : heap.Linked live) (h1 : 1 ≤ slot) (hs : slot ≤ heap.inUse)
    (hO : OrderedOff heap slot) :
    ∃ slot' heap', heap.siftDown slot = .ok (slot', heap') ∧ heap'.Linked live ∧
      OrderedBut heap' slot' ∧
      ((2 ≤ slot → heap.due (slot / 2) ≤ heap.due slot) → Ordered heap') ∧
      Sifted live heap heap' ∧ (heap'.object (heap.occupant slot)).slot = slot' := by
  have hlt := hL.inUse_lt
  unfold siftDown
  rw [read_slots (by omega), Checked.ok_bind, wakeOf_eq (hL.occupant_lt h1 hs),
    Checked.ok_bind]
  exact sink_spec _ _ slot heap rfl (hL.lift h1 hs) hO rfl

/-- The object in hand fills the vacant slot and sinks. -/
theorem place_siftDown_spec (hL : heap.Lifted live id hole) (hO : heap.OrderedOff hole) :
    ∃ heap₁ slot heap₂, heap.place hole id = .ok heap₁ ∧ heap₁.siftDown hole = .ok (slot, heap₂) ∧
      heap₂.Linked live ∧ heap₂.OrderedBut slot ∧ (1 ≤ slot ∧ slot ≤ heap₂.inUse) ∧
      (hole = 1 → heap₂.Ordered) ∧ Rearranged heap heap₂ := by
  have hlt := hL.hole_lt
  have hseat : Rearranged heap (heap.seat hole id) :=
    .seat hL.hole_pos hL.hole_le hL.inUse_lt hL.scheduled
  have hocc : (heap.seat hole id).occupant hole = id := by rw [occupant_seat hlt, if_pos rfl]
  obtain ⟨slot, heap₂, hdown, hL₂, hO₂, hroot, hre, hslot⟩ :=
    siftDown_spec hL.seat hL.hole_pos hL.hole_le (hO.seat hlt hL.id_lt)
  have hre₂ := hseat.trans hre.toRearranged
  have h0 : (heap₂.object id).slot ≠ 0 := fun h => hL.scheduled ((hre₂.alike id).scheduled.1 h)
  have hle := (hL₂.occupant_slot id hL.live_id h0).1
  rw [hocc] at hslot
  refine ⟨_, slot, heap₂, place_eq hlt hL.id_lt, hdown, hL₂, hO₂, by omega, fun h1 => ?_, hre₂⟩
  exact hroot fun h2 => by omega

end Executive.TimerHeap
