/-
Two heaps with the same objects in the same slots, of which one is a number of ticks behind the other:
every due tick of a scheduled object differs by that number (`Shifted`). Sifting compares due ticks
only, so that both heaps move their objects along the same paths, and an object that is taken out of
the one is taken out of the other. A rebase turns a heap into one that is behind.
-/
import Executive.Proofs.TimerHeap.Schedule

namespace Executive.TimerHeap

variable {a b c : TimerHeap} {live : ObjectId → Prop} {id hole slot d : Nat}

/-- Heap `b` has the objects of heap `a` in the same slots, with the same actions and marks. -/
structure SameShape (a b : TimerHeap) : Prop where
  slots : b.slots = a.slots
  inUse : b.inUse = a.inUse
  maxTick : b.maxTick = a.maxTick
  size_objects : b.objects.size = a.objects.size
  slot : ∀ j, (b.object j).slot = (a.object j).slot
  action : ∀ j, (b.object j).action = (a.object j).action
  pending : ∀ j, (b.object j).pending = (a.object j).pending

namespace SameShape

theorem refl (a : TimerHeap) : SameShape a a :=
  ⟨rfl, rfl, rfl, rfl, fun _ => rfl, fun _ => rfl, fun _ => rfl⟩

theorem symm (h : SameShape a b) : SameShape b a :=
  ⟨h.slots.symm, h.inUse.symm, h.maxTick.symm, h.size_objects.symm, fun j => (h.slot j).symm,
    fun j => (h.action j).symm, fun j => (h.pending j).symm⟩

theorem trans (h : SameShape a b) (k : SameShape b c) : SameShape a c :=
  ⟨k.slots.trans h.slots, k.inUse.trans h.inUse, k.maxTick.trans h.maxTick,
    k.size_objects.trans h.size_objects, fun j => (k.slot j).trans (h.slot j),
    fun j => (k.action j).trans (h.action j), fun j => (k.pending j).trans (h.pending j)⟩

theorem occupant (h : SameShape a b) (k : Nat) : b.occupant k = a.occupant k := by
  unfold TimerHeap.occupant
  rw [h.slots]

theorem size_slots (h : SameShape a b) : b.slots.size = a.slots.size := congrArg Array.size h.slots

theorem linked (h : SameShape a b) (hL : a.Linked live) : b.Linked live := by
  refine ⟨by rw [h.inUse, h.size_slots]; exact hL.inUse_lt, fun k h1 hk => ?_, fun j hj h0 => ?_⟩
  · rw [h.inUse] at hk
    rw [h.occupant, h.slot]
    exact hL.slot_occupant k h1 hk
  · rw [h.slot] at h0 ⊢
    rw [h.inUse, h.occupant]
    exact hL.occupant_slot j hj h0

theorem lifted (h : SameShape a b) (hL : a.Lifted live id hole) : b.Lifted live id hole := by
  refine ⟨hL.hole_pos, by rw [h.inUse]; exact hL.hole_le, by rw [h.inUse, h.size_slots]; exact hL.inUse_lt,
    hL.live_id, by rw [h.slot]; exact hL.scheduled, fun k h1 hk hne => ?_, fun j hj hlj h0 => ?_⟩
  · rw [h.inUse] at hk
    rw [h.occupant, h.slot]
    exact hL.slot_occupant k h1 hk hne
  · rw [h.slot] at h0 ⊢
    rw [h.inUse, h.occupant]
    exact hL.occupant_slot j hj hlj h0

theorem shrink (h : SameShape a b) : SameShape a.shrink b.shrink :=
  { h with inUse := congrArg (· - 1) h.inUse }

/-- The same object put into the same slot keeps the shape. -/
theorem seat (h : SameShape a b) (hid : id < a.objects.size) : SameShape (a.seat slot id) (b.seat slot id) := by
  have hobject := @object_seat a id slot hid
  have hobject' := @object_seat b id slot (h.size_objects.symm ▸ hid)
  refine ⟨by unfold TimerHeap.seat; rw [h.slots], h.inUse, h.maxTick, ?_, fun j => ?_, fun j => ?_, fun j => ?_⟩
  · rw [size_objects_seat, size_objects_seat, h.size_objects]
  all_goals
    rw [hobject, hobject']
    split
    · first | rfl | exact h.action j | exact h.pending j
    · first | exact h.slot j | exact h.action j | exact h.pending j

/-- So does an object that is changed in both heaps, if only its due tick may become different. -/
theorem alter (h : SameShape a b) (hid : id < a.objects.size) {f g : TimerObject → TimerObject}
    (hslot : (g (b.object id)).slot = (f (a.object id)).slot)
    (haction : (g (b.object id)).action = (f (a.object id)).action)
    (hpending : (g (b.object id)).pending = (f (a.object id)).pending) :
    SameShape (a.alter id f) (b.alter id g) := by
  have hobject := object_alter hid f
  have hobject' := object_alter (h.size_objects.symm ▸ hid) g
  refine ⟨h.slots, h.inUse, h.maxTick, ?_, fun j => ?_, fun j => ?_, fun j => ?_⟩
  · rw [size_objects_alter, size_objects_alter, h.size_objects]
  all_goals
    rw [hobject, hobject']
    by_cases hj : j = id
    · subst hj
      rw [if_pos rfl, if_pos rfl]
      assumption
    · rw [if_neg hj, if_neg hj]
      first | exact h.slot j | exact h.action j | exact h.pending j

theorem alter_clear (h : SameShape a b) (hid : id < a.objects.size) :
    SameShape (a.alter id clear) (b.alter id clear) :=
  h.alter hid rfl (h.action id) rfl

end SameShape

/-- Heap `b` has the shape of heap `a`, and each scheduled object is due `d` ticks later. -/
structure Shifted (d : Nat) (a b : TimerHeap) : Prop extends SameShape a b where
  wake : ∀ j, (a.object j).slot ≠ 0 → (b.object j).wake = (a.object j).wake + d

namespace Shifted

theorem due (h : Shifted d a b) {k : Nat} (hk : (a.object (a.occupant k)).slot ≠ 0) :
    b.due k = a.due k + d := by
  unfold TimerHeap.due
  rw [h.occupant]
  exact h.wake _ hk

theorem refl (a : TimerHeap) : Shifted 0 a a := ⟨.refl a, fun _ _ => rfl⟩

theorem trans {e : Nat} (h : Shifted d a b) (k : Shifted e b c) : Shifted (d + e) a c := by
  refine ⟨h.toSameShape.trans k.toSameShape, fun j hj => ?_⟩
  rw [k.wake j ((h.slot j).symm ▸ hj), h.wake j hj, Nat.add_assoc]

/-- Ticks that the one heap is given do not matter. -/
theorem advance_left (h : Shifted d a b) (delta : Nat) : Shifted d (a.advanceClock delta) b :=
  ⟨⟨h.slots, h.inUse, h.maxTick, h.size_objects, h.slot, h.action, h.pending⟩, h.wake⟩

/-- Ticks that the other heap is given do not matter either. -/
theorem advance_right (h : Shifted d a b) (delta : Nat) : Shifted d a (b.advanceClock delta) :=
  ⟨⟨h.slots, h.inUse, h.maxTick, h.size_objects, h.slot, h.action, h.pending⟩, h.wake⟩

/-- Nothing is due in either heap, if the clocks differ by as much as the due ticks. -/
theorem idle (h : Shifted d a b) (hclock : b.clock = a.clock + d) (hidle : a.Idle) : b.Idle := by
  intro j hj
  rw [h.slot] at hj
  have hahead := hidle j hj
  rw [h.wake j hj]
  omega

theorem wellFormed (h : Shifted d a b) (ha : a.WellFormed) : b.WellFormed := by
  refine ⟨h.linked ha.linked, fun k h2 hk => ?_, fun j h0 => ?_⟩
  · rw [h.inUse] at hk
    have hslot (m : Nat) (hm : 1 ≤ m ∧ m ≤ a.inUse) : (a.object (a.occupant m)).slot ≠ 0 := by
      rw [(ha.linked.slot_occupant m hm.1 hm.2).2]
      omega
    rw [h.due (hslot (k / 2) (by omega)), h.due (hslot k (by omega))]
    exact Nat.add_le_add_right (ha.ordered k h2 hk) d
  · rw [h.slot] at h0
    rw [h.action]
    exact ha.armed j h0

theorem shrink (h : Shifted d a b) : Shifted d a.shrink b.shrink := ⟨h.toSameShape.shrink, h.wake⟩

/-- An object may be put into a slot of both heaps if it is due as much later in the one. -/
theorem seat_of_wake (h : Shifted d a b) (hid : id < a.objects.size)
    (hwake : (b.object id).wake = (a.object id).wake + d) :
    Shifted d (a.seat slot id) (b.seat slot id) := by
  refine ⟨h.toSameShape.seat hid, fun j hj => ?_⟩
  rw [wake_seat hid, wake_seat (h.size_objects.symm ▸ hid)]
  rw [object_seat hid] at hj
  by_cases hji : j = id
  · subst hji
    exact hwake
  · rw [if_neg hji] at hj
    exact h.wake j hj

theorem seat (h : Shifted d a b) (hid : (a.object id).slot ≠ 0) :
    Shifted d (a.seat slot id) (b.seat slot id) :=
  h.seat_of_wake (lt_size_of_slot_ne_zero hid) (h.wake id hid)

/-- An object that a change takes off both heaps may be due at any time. -/
theorem alter_off (h : Shifted d a b) (hid : id < a.objects.size) {f g : TimerObject → TimerObject}
    (hf : (f (a.object id)).slot = 0) (hg : (g (b.object id)).slot = 0)
    (haction : (g (b.object id)).action = (f (a.object id)).action)
    (hpending : (g (b.object id)).pending = (f (a.object id)).pending) :
    Shifted d (a.alter id f) (b.alter id g) := by
  refine ⟨h.toSameShape.alter hid (hg.trans hf.symm) haction hpending, fun j hj => ?_⟩
  rw [object_alter hid] at hj ⊢
  rw [object_alter (h.size_objects.symm ▸ hid)]
  by_cases hji : j = id
  · rw [if_pos hji, hji] at hj
    exact absurd hf hj
  · rw [if_neg hji] at hj ⊢
    rw [if_neg hji]
    exact h.wake j hj

theorem alter_clear (h : Shifted d a b) (hid : id < a.objects.size) :
    Shifted d (a.alter id clear) (b.alter id clear) :=
  h.alter_off hid rfl rfl (h.action id) rfl

/-! ## Sinking side by side -/

/-- The child that may move up is the same one. -/
theorem rightFirst (h : Shifted d a b) (hL : a.Lifted live id hole) :
    b.rightFirst b.inUse hole = a.rightFirst a.inUse hole := by
  have h1 := hL.hole_pos
  have hlt := hL.inUse_lt
  have hlt' : b.inUse < b.slots.size := (h.lifted hL).inUse_lt
  unfold TimerHeap.rightFirst
  rw [h.inUse] at hlt' ⊢
  by_cases hr : 2 * hole < a.inUse
  · have hchild {k : Nat} (hk : k ≤ a.inUse) (hlarge : hole < k) :
        a.wakeAt k = .ok (a.due k) ∧ b.wakeAt k = .ok (a.due k + d) := by
      have hslot := (hL.slot_occupant k (by omega) hk (by omega)).2.2
      have hocc := hL.occupant_lt (by omega) hk (by omega)
      refine ⟨wakeAt_eq (by omega) hocc, ?_⟩
      rw [← h.due (by omega)]
      exact wakeAt_eq (by omega) (by rw [h.occupant, h.size_objects]; exact hocc)
    obtain ⟨hright, hright'⟩ := hchild (k := 2 * hole + 1) (by omega) (by omega)
    obtain ⟨hleft, hleft'⟩ := hchild (k := 2 * hole) (by omega) (by omega)
    rw [if_pos hr, if_pos hr, hright, hright', hleft, hleft']
    simp only [Checked.ok_bind, Nat.add_lt_add_iff_right]
  · rw [if_neg hr, if_neg hr]

/-- Both heaps move the same objects along the path of one that sinks. -/
theorem sink (wake : Nat) : ∀ (n slot : Nat) (a b : TimerHeap), a.inUse - slot = n →
    Shifted d a b → a.Lifted live id slot → ∀ {slot' : Nat} {a' : TimerHeap},
    a.sink a.inUse id wake slot = .ok (slot', a') →
    ∃ b', b.sink b.inUse id (wake + d) slot = .ok (slot', b') ∧ Shifted d a' b' := by
  intro n
  induction n using Nat.strongRecOn with
  | ind n ih =>
    intro slot a b hn h hL slot' a' hsink
    have h1 := hL.hole_pos
    have hle := hL.hole_le
    have hlt := hL.hole_lt
    have husz := hL.inUse_lt
    have hL' := h.lifted hL
    have hplace := place_eq hlt hL.id_lt
    have hplace' := place_eq hL'.hole_lt hL'.id_lt
    unfold TimerHeap.sink at hsink ⊢
    by_cases hc : 0 < slot ∧ slot ≤ a.inUse / 2
    · obtain ⟨right, hright, hcle, -⟩ := rightFirst_spec hL hc.2
      rw [dif_pos hc, hright, Checked.ok_bind] at hsink
      rw [dif_pos (h.inUse.symm ▸ hc), h.rightFirst hL, hright, Checked.ok_bind]
      generalize hchild : 2 * slot + right.toNat = child at hcle hsink ⊢
      have hslot := (hL.slot_occupant child (by omega) hcle (by omega)).2.2
      have hocc := hL.occupant_lt (k := child) (by omega) hcle (by omega)
      have hocc' := hL'.occupant_lt (k := child) (by omega) (by rw [h.inUse]; exact hcle) (by omega)
      have hclt : child < b.slots.size := by rw [h.size_slots]; omega
      dsimp only at hsink ⊢
      rw [wakeAt_eq (by omega) hocc, Checked.ok_bind] at hsink
      rw [wakeAt_eq hclt hocc', Checked.ok_bind, h.due (by omega)]
      by_cases hw : wake ≤ a.due child
      · rw [if_pos hw, hplace] at hsink
        cases hsink
        rw [if_pos (Nat.add_le_add_right hw d), hplace']
        exact ⟨_, rfl, h.seat hL.scheduled⟩
      · rw [if_neg hw, read_slots (by omega), Checked.ok_bind, place_eq hlt hocc, Checked.ok_bind] at hsink
        rw [if_neg (by omega), read_slots hclt, Checked.ok_bind, place_eq hL'.hole_lt hocc',
          Checked.ok_bind, h.occupant]
        exact ih (a.inUse - child) (by omega) child (a.seat slot (a.occupant child)) _ rfl
          (h.seat (by omega)) (hL.move (by omega) hcle (by omega)) hsink
    · rw [dif_neg hc, hplace] at hsink
      cases hsink
      rw [dif_neg (h.inUse.symm ▸ hc), hplace']
      exact ⟨_, rfl, h.seat hL.scheduled⟩

theorem siftDown (h : Shifted d a b) (hL : a.Linked live) (h1 : 1 ≤ slot) (hs : slot ≤ a.inUse)
    {slot' : Nat} {a' : TimerHeap} (hdown : a.siftDown slot = .ok (slot', a')) :
    ∃ b', b.siftDown slot = .ok (slot', b') ∧ Shifted d a' b' := by
  have hlt := hL.inUse_lt
  have hocc := hL.occupant_lt h1 hs
  have hslot := (hL.slot_occupant slot h1 hs).2
  unfold TimerHeap.siftDown at hdown ⊢
  rw [read_slots (by omega), Checked.ok_bind, wakeOf_eq hocc, Checked.ok_bind] at hdown
  rw [read_slots (by rw [h.size_slots]; omega), Checked.ok_bind, h.occupant,
    wakeOf_eq (by rw [h.size_objects]; exact hocc), Checked.ok_bind, h.wake _ (by omega)]
  exact sink _ _ slot a b rfl h (hL.lift h1 hs) hdown

theorem refillRoot (h : Shifted d a b) (ha : a.WellFormed) {a' : TimerHeap}
    (hfill : a.refillRoot = .ok a') : ∃ b', b.refillRoot = .ok b' ∧ Shifted d a' b' := by
  unfold TimerHeap.refillRoot at hfill ⊢
  rw [h.inUse]
  by_cases h2 : 0 < a.inUse - 1
  · have hL := ha.linked.shrink_lifted (Nat.le_refl 1) h2
    have hL' := h.shrink.lifted hL
    rw [if_pos h2, place_eq hL.hole_lt hL.id_lt, Checked.ok_bind] at hfill
    rw [if_pos h2, h.occupant, place_eq hL'.hole_lt hL'.id_lt, Checked.ok_bind]
    cases hdown : (a.shrink.seat 1 (a.occupant a.inUse)).siftDown 1 with
    | error trap =>
      rw [hdown] at hfill
      cases hfill
    | ok p =>
      rw [hdown] at hfill
      cases hfill
      obtain ⟨b', hdown', hshifted⟩ :=
        (h.shrink.seat hL.scheduled).siftDown hL.seat (Nat.le_refl 1) hL.hole_le hdown
      rw [hdown']
      exact ⟨b', rfl, hshifted⟩
  · rw [if_neg h2] at hfill ⊢
    cases hfill
    exact ⟨_, rfl, h.shrink⟩

/-! ## Rising side by side -/

/-- Both heaps move the same objects along the path of one that rises. -/
theorem rise (wake : Nat) : ∀ (slot : Nat) (a b : TimerHeap), Shifted d a b → a.Lifted live id slot →
    ∀ {slot' : Nat} {a' : TimerHeap}, a.rise id wake slot = .ok (slot', a') →
    ∃ b', b.rise id (wake + d) slot = .ok (slot', b') ∧ Shifted d a' b' := by
  intro slot
  induction slot using Nat.strongRecOn with
  | ind slot ih =>
    intro a b h hL slot' a' hrise
    have hle := hL.hole_le
    have hlt := hL.hole_lt
    have hL' := h.lifted hL
    have hlt' := hL'.hole_lt
    have hplace := place_eq hlt hL.id_lt
    have hplace' := place_eq hlt' hL'.id_lt
    unfold TimerHeap.rise at hrise ⊢
    by_cases h1 : 1 < slot
    · have hslot := (hL.slot_occupant (slot / 2) (by omega) (by omega) (by omega)).2.2
      have hocc := hL.occupant_lt (k := slot / 2) (by omega) (by omega) (by omega)
      have hocc' : a.occupant (slot / 2) < b.objects.size := h.size_objects.symm ▸ hocc
      rw [dif_pos h1, read_slots (by omega), Checked.ok_bind, wakeOf_eq hocc, Checked.ok_bind] at hrise
      rw [dif_pos h1, read_slots (by omega), Checked.ok_bind, h.occupant, wakeOf_eq hocc',
        Checked.ok_bind, h.wake _ (by omega)]
      by_cases hw : wake < (a.object (a.occupant (slot / 2))).wake
      · rw [if_pos hw, place_eq hlt hocc, Checked.ok_bind] at hrise
        rw [if_pos (Nat.add_lt_add_right hw d), place_eq hlt' hocc', Checked.ok_bind]
        exact ih (slot / 2) (by omega) _ _ (h.seat (by omega))
          (hL.move (by omega) (by omega) (by omega)) hrise
      · rw [if_neg hw, hplace] at hrise
        cases hrise
        rw [if_neg (by omega), hplace']
        exact ⟨_, rfl, h.seat hL.scheduled⟩
    · rw [dif_neg h1, hplace] at hrise
      cases hrise
      rw [dif_neg h1, hplace']
      exact ⟨_, rfl, h.seat hL.scheduled⟩

theorem siftUp (h : Shifted d a b) (hL : a.Linked live) (h1 : 1 ≤ slot) (hs : slot ≤ a.inUse)
    {slot' : Nat} {a' : TimerHeap} (hup : a.siftUp slot = .ok (slot', a')) :
    ∃ b', b.siftUp slot = .ok (slot', b') ∧ Shifted d a' b' := by
  have hlt := hL.inUse_lt
  have hocc := hL.occupant_lt h1 hs
  have hslot := (hL.slot_occupant slot h1 hs).2
  unfold TimerHeap.siftUp at hup ⊢
  rw [read_slots (by omega), Checked.ok_bind, wakeOf_eq hocc, Checked.ok_bind] at hup
  rw [read_slots (by rw [h.size_slots]; omega), Checked.ok_bind, h.occupant,
    wakeOf_eq (by rw [h.size_objects]; exact hocc), Checked.ok_bind, h.wake _ (by omega)]
  exact rise _ slot a b h (hL.lift h1 hs) hup

/-! ## Leaving side by side -/

/-- The gap that an object leaves is filled in the same way. -/
theorem fillGap (h : Shifted d a b) {k : Nat} (hL : k ≤ a.inUse → a.Lifted live id k)
    (hO : a.OrderedOff k) {a' : TimerHeap} (hfill : a.fillGap k id = .ok a') :
    ∃ b', b.fillGap k id = .ok b' ∧ Shifted d a' b' := by
  unfold TimerHeap.fillGap at hfill ⊢
  rw [h.inUse]
  by_cases hk : k ≤ a.inUse
  · have hlift := hL hk
    have hlift' := h.lifted hlift
    obtain ⟨a₁, slot₁, a₂, hplace, hdown, hlinked, hO₂, hrange, -⟩ := place_siftDown_spec hlift hO
    obtain ⟨slot₂, a₃, hup, -⟩ := siftUp_spec hlinked hrange.1 hrange.2 hO₂
    cases (place_eq hlift.hole_lt hlift.id_lt).symm.trans hplace
    obtain ⟨b₂, hdown', h₂⟩ :=
      (h.seat hlift.scheduled).siftDown hlift.seat hlift.hole_pos hlift.hole_le hdown
    obtain ⟨b₃, hup', h₃⟩ := h₂.siftUp hlinked hrange.1 hrange.2 hup
    rw [if_pos hk, hplace, Checked.ok_bind, hdown, Checked.ok_bind] at hfill
    dsimp only at hfill
    rw [hup] at hfill
    cases hfill
    rw [if_pos hk, place_eq hlift'.hole_lt hlift'.id_lt, Checked.ok_bind, hdown', Checked.ok_bind]
    dsimp only
    rw [hup']
    exact ⟨b₃, rfl, h₃⟩
  · rw [if_neg hk] at hfill ⊢
    cases hfill
    exact ⟨_, rfl, h⟩

/-- A deletion moves the same objects in both heaps. -/
theorem delete (h : Shifted d a b) (ha : a.WellFormed) (hid : id < a.objects.size) {a' : TimerHeap}
    (hdelete : a.delete id = .ok a') : ∃ b', b.delete id = .ok b' ∧ Shifted d a' b' := by
  by_cases h0 : (a.object id).slot = 0
  · rw [delete_of_unscheduled hid h0] at hdelete
    cases hdelete
    refine ⟨_, delete_of_unscheduled ?_ ?_, h.alter_clear hid⟩
    · rw [h.size_objects]; exact hid
    · rw [h.slot]; exact h0
  · have hslot := ha.linked.occupant_slot id trivial h0
    rw [delete_of_scheduled ha.linked h0] at hdelete
    rw [delete_of_scheduled (h.wellFormed ha).linked (by rw [h.slot]; exact h0), h.slot, h.inUse,
      h.occupant]
    have hlifted (hk : (a.object id).slot ≤ a.inUse - 1) :
        (a.shrink.alter id clear).Lifted (· ≠ id) (a.occupant a.inUse) (a.object id).slot := by
      have hlift := ha.linked.shrink_lifted (k := (a.object id).slot) (by omega) hk
      rw [hslot.2] at hlift
      exact hlift.alter hid (fun hn => hn rfl) clear
    exact (h.shrink.alter_clear hid).fillGap hlifted ((ha.ordered.shrink_off _).alter_clear hid) hdelete

/-- What is taken out of the one heap is taken out of the other, if that one has come as far. -/
theorem popDue (h : Shifted d a b) (ha : a.WellFormed) (hclock : a.clock + d ≤ b.clock)
    {entry : ObjectId × TimerAction} {a' : TimerHeap} (hpop : a.popDue = .ok (some entry, a')) :
    ∃ b', b.popDue = .ok (some entry, b') ∧ Shifted d a' b' := by
  have h1 : 1 ≤ a.inUse := by
    refine Nat.one_le_iff_ne_zero.2 fun h0 => ?_
    unfold TimerHeap.popDue at hpop
    rw [if_pos h0] at hpop
    cases hpop
  have hslot : (a.object (a.occupant 1)).slot ≠ 0 := by
    rw [(ha.linked.slot_occupant 1 (Nat.le_refl 1) h1).2]
    exact Nat.one_ne_zero
  have hid := lt_size_of_slot_ne_zero hslot
  have hdue : a.due 1 ≤ a.clock := by
    obtain ⟨-, hpopped⟩ := Popped.of_popDue ha hpop
    exact Nat.le_trans (ha.root_due_le hpopped.scheduled) hpopped.due
  obtain ⟨a₁, hfill, -, -, hre⟩ := refillRoot_spec ha h1
  obtain ⟨b₁, hfill', hshifted⟩ := h.refillRoot ha hfill
  have hsize : a₁.objects.size = a.objects.size := hre.size_objects
  have hcleared : Shifted d (a₁.alter (a.occupant 1) clear) (b₁.alter (a.occupant 1) clear) :=
    hshifted.alter_clear (by rw [hsize]; exact hid)
  rw [popDue_eq ha h1 hdue hfill hsize] at hpop
  obtain ⟨hentry, rfl⟩ := Prod.mk.inj (Except.ok.inj hpop)
  refine ⟨_, ?_, hcleared⟩
  have hdue' : b.due 1 ≤ b.clock := by
    rw [h.due hslot]
    omega
  rw [popDue_eq (h.wellFormed ha) (h.inUse.symm ▸ h1) hdue' hfill'
    (by rw [hshifted.size_objects, hsize, h.size_objects]), h.occupant, hcleared.action, hentry]

end Shifted

/-! ## The base of the clock -/

/-- Two heaps that differ at most in the base of the clock: each scheduled object is as many ticks
ahead of the clock in the one as in the other. -/
structure SameButClock (a b : TimerHeap) : Prop extends SameShape a b where
  ticks : b.ticks = a.ticks
  lead : ∀ j, (a.object j).slot ≠ 0 → (b.object j).wake + a.clock = (a.object j).wake + b.clock

namespace SameButClock

theorem refl (a : TimerHeap) : SameButClock a a := ⟨.refl a, rfl, fun _ _ => rfl⟩

theorem symm (h : SameButClock a b) : SameButClock b a :=
  ⟨h.toSameShape.symm, h.ticks.symm, fun j hj => (h.lead j (h.slot j ▸ hj)).symm⟩

theorem trans (h : SameButClock a b) (k : SameButClock b c) : SameButClock a c := by
  refine ⟨h.toSameShape.trans k.toSameShape, k.ticks.trans h.ticks, fun j hj => ?_⟩
  have hab := h.lead j hj
  have hbc := k.lead j ((h.slot j).symm ▸ hj)
  omega

/-- A heap that is `d` ticks behind another one, with its clock `d` ticks behind. -/
theorem of_shifted (h : Shifted d a b) (hticks : b.ticks = a.ticks) (hclock : b.clock = a.clock + d) :
    SameButClock a b := by
  refine ⟨h.toSameShape, hticks, fun j hj => ?_⟩
  rw [h.wake j hj, hclock]
  omega

/-- A rebase changes the base of the clock only. -/
theorem of_rebased (h : Rebased a b) (hidle : a.Idle) : SameButClock a b := by
  have hobject := h.object
  refine ⟨⟨h.slots, h.inUse, h.maxTick, h.size_objects, fun j => ?_, fun j => ?_, fun j => ?_⟩, h.ticks,
    fun j hj => ?_⟩
  · rw [hobject]; split <;> rfl
  · rw [hobject]; split <;> rfl
  · rw [hobject]; split <;> rfl
  · have hahead := hidle j hj
    rw [hobject, if_neg hj, h.clock]
    dsimp only
    omega

/-- The other heap is ahead by as much as its clock. -/
theorem shifted (h : SameButClock a b) (hclock : b.clock = a.clock + d) : Shifted d a b := by
  refine ⟨h.toSameShape, fun j hj => ?_⟩
  have hlead := h.lead j hj
  omega

end SameButClock

end Executive.TimerHeap
