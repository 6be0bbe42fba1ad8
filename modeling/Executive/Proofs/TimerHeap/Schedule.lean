/-
What each operation of a timer heap does. On a well-formed heap every operation ends and leaves a
well-formed heap behind; it changes one object, the one that is started, deleted or popped, and
leaves the due tick, the action and the pending mark of every other one alone. A rebase sets every
due tick back by the clock.
-/
import Executive.Proofs.TimerHeap.Sift
import Executive.TimerHeap.Schedule

namespace Executive.TimerHeap

variable {heap : TimerHeap} {live : ObjectId → Prop} {id hole slot : Nat}

/-- What holds of a heap between any two operations: slots and objects point at each other, no
object is due before its parent, and a scheduled object has an action. -/
structure WellFormed (heap : TimerHeap) : Prop where
  linked : heap.Linked fun _ => True
  ordered : heap.Ordered
  armed : ∀ j, (heap.object j).slot ≠ 0 → (heap.object j).action.isSome

/-- Heap `b` is heap `a` but for object `id` and the order of the slots. -/
structure AgreesBut (id : ObjectId) (a b : TimerHeap) : Prop where
  clock : b.clock = a.clock
  ticks : b.ticks = a.ticks
  maxTick : b.maxTick = a.maxTick
  size_slots : b.slots.size = a.slots.size
  size_objects : b.objects.size = a.objects.size
  alike : ∀ j, j ≠ id → (a.object j).Alike (b.object j)

namespace AgreesBut

variable {a b c : TimerHeap}

theorem trans (h : AgreesBut id a b) (k : AgreesBut id b c) : AgreesBut id a c :=
  ⟨k.clock.trans h.clock, k.ticks.trans h.ticks, k.maxTick.trans h.maxTick,
    k.size_slots.trans h.size_slots, k.size_objects.trans h.size_objects,
    fun j hj => (h.alike j hj).trans (k.alike j hj)⟩

theorem alter (hid : id < a.objects.size) (f : TimerObject → TimerObject) :
    AgreesBut id a (a.alter id f) :=
  ⟨rfl, rfl, rfl, rfl, size_objects_alter f, fun j hj => by
    rw [object_alter hid, if_neg hj]; exact .refl _⟩

end AgreesBut

theorem Rearranged.agreesBut {a b : TimerHeap} (h : Rearranged a b) (id : ObjectId) :
    AgreesBut id a b :=
  ⟨h.clock, h.ticks, h.maxTick, h.size_slots, h.size_objects, fun j _ => h.alike j⟩

/-- An object is scheduled exactly when it sits in a slot in use. -/
theorem WellFormed.scheduled_iff (h : heap.WellFormed) (j : ObjectId) :
    (heap.object j).slot ≠ 0 ↔ ∃ k, 1 ≤ k ∧ k ≤ heap.inUse ∧ heap.occupant k = j := by
  constructor
  · intro h0
    obtain ⟨hle, hocc⟩ := h.linked.occupant_slot j trivial h0
    exact ⟨_, by omega, hle, hocc⟩
  · rintro ⟨k, h1, hk, rfl⟩
    rw [(h.linked.slot_occupant k h1 hk).2]; omega

/-- The object in the root slot is due no later than any scheduled one. -/
theorem WellFormed.root_due_le (h : heap.WellFormed) {j : ObjectId}
    (hj : (heap.object j).slot ≠ 0) : heap.due 1 ≤ (heap.object j).wake := by
  obtain ⟨k, h1, hk, rfl⟩ := (h.scheduled_iff j).1 hj
  exact h.ordered.root_le k h1 hk

theorem object_ofSize (objects capacity maxTick : Nat) (j : ObjectId) :
    (ofSize objects capacity maxTick).object j = {} := by
  simp only [object, ofSize, Array.getElem?_replicate]
  split <;> rfl

theorem ofSize_wellFormed (objects capacity maxTick : Nat) :
    (ofSize objects capacity maxTick).WellFormed := by
  have hobj := object_ofSize objects capacity maxTick
  refine ⟨⟨by simp [ofSize], ?_, ?_⟩, ?_, ?_⟩
  · intro k h1 hk
    exact absurd hk (by simp [ofSize]; omega)
  · intro j _ hj
    rw [hobj] at hj; exact absurd rfl hj
  · intro k h2 hk
    exact absurd hk (by simp [ofSize]; omega)
  · intro j hj
    rw [hobj] at hj; exact absurd rfl hj

/-! ## Leaving the heap -/

/-- A heap with one slot less in use. -/
def shrink (heap : TimerHeap) : TimerHeap := { heap with inUse := heap.inUse - 1 }

@[simp] theorem object_shrink (j : ObjectId) : heap.shrink.object j = heap.object j := rfl
@[simp] theorem occupant_shrink (k : Nat) : heap.shrink.occupant k = heap.occupant k := rfl
@[simp] theorem inUse_shrink : heap.shrink.inUse = heap.inUse - 1 := rfl

/-- The object of the last slot is taken in hand when the object of another one leaves. -/
theorem Linked.shrink_lifted (h : heap.Linked fun _ => True) {k : Nat} (h1 : 1 ≤ k)
    (hk : k ≤ heap.inUse - 1) :
    heap.shrink.Lifted (· ≠ heap.occupant k) (heap.occupant heap.inUse) k := by
  have hlast := (h.slot_occupant heap.inUse (by omega) (Nat.le_refl _)).2
  have hinj {m n : Nat} (hm : 1 ≤ m ∧ m ≤ heap.inUse) (hn : 1 ≤ n ∧ n ≤ heap.inUse)
      (hmn : m ≠ n) : heap.occupant m ≠ heap.occupant n :=
    fun heq => hmn (h.occupant_inj hm hn heq)
  refine ⟨h1, by simp; omega, by simpa [shrink] using Nat.lt_of_le_of_lt (Nat.sub_le ..) h.inUse_lt,
    hinj ⟨by omega, Nat.le_refl _⟩ ⟨h1, by omega⟩ (by omega), by simp; omega, ?_, ?_⟩
  · intro m hm hmu hmk
    simp only [inUse_shrink, occupant_shrink, object_shrink] at hmu ⊢
    exact ⟨hinj ⟨hm, by omega⟩ ⟨by omega, Nat.le_refl _⟩ (by omega),
      hinj ⟨hm, by omega⟩ ⟨h1, by omega⟩ hmk, (h.slot_occupant m hm (by omega)).2⟩
  · intro j hj hlj h0
    obtain ⟨hle, hocc⟩ := h.occupant_slot j trivial h0
    have hne : (heap.object j).slot ≠ heap.inUse := fun heq => hj (by rw [← hocc, heq])
    simp only [inUse_shrink, occupant_shrink, object_shrink]
    exact ⟨by omega, fun heq => hlj (by rw [← hocc, heq]), hocc⟩

/-- Nothing moves when the object of the last slot leaves. -/
theorem Linked.shrink_last (h : heap.Linked fun _ => True) :
    heap.shrink.Linked (· ≠ heap.occupant heap.inUse) := by
  refine ⟨Nat.lt_of_le_of_lt (Nat.sub_le ..) h.inUse_lt, ?_, ?_⟩
  · intro m hm hmu
    simp only [inUse_shrink, occupant_shrink, object_shrink] at hmu ⊢
    refine ⟨fun heq => ?_, (h.slot_occupant m hm (by omega)).2⟩
    have := h.occupant_inj ⟨hm, by omega⟩ ⟨by omega, Nat.le_refl _⟩ heq
    omega
  · intro j hj h0
    obtain ⟨hle, hocc⟩ := h.occupant_slot j trivial h0
    have hne : (heap.object j).slot ≠ heap.inUse := fun heq => hj (by rw [← hocc, heq])
    simp only [inUse_shrink, occupant_shrink, object_shrink]
    exact ⟨by omega, hocc⟩

/-- An object that is not live may be changed at will. -/
theorem Linked.alter (h : heap.Linked live) (hid : id < heap.objects.size) (hl : ¬ live id)
    (f : TimerObject → TimerObject) : (heap.alter id f).Linked live := by
  refine ⟨h.inUse_lt, ?_, ?_⟩
  · intro k h1 hk
    obtain ⟨hlive, hslot⟩ := h.slot_occupant k h1 hk
    rw [occupant_alter, object_alter hid, if_neg (by rintro heq; exact hl (heq ▸ hlive))]
    exact ⟨hlive, hslot⟩
  · intro j hlj
    rw [object_alter hid, if_neg (by rintro rfl; exact hl hlj)]
    exact h.occupant_slot j hlj

/-- It may be so too while another object is in hand. -/
theorem Lifted.alter {x : ObjectId} (h : heap.Lifted live id hole) (hx : x < heap.objects.size)
    (hl : ¬ live x) (f : TimerObject → TimerObject) : (heap.alter x f).Lifted live id hole := by
  refine ⟨h.hole_pos, h.hole_le, h.inUse_lt, h.live_id, ?_, ?_, ?_⟩
  · rw [object_alter hx, if_neg (by rintro heq; exact hl (heq ▸ h.live_id))]
    exact h.scheduled
  · intro k h1 hk hne
    obtain ⟨hki, hlive, hslot⟩ := h.slot_occupant k h1 hk hne
    rw [occupant_alter, object_alter hx, if_neg (by rintro heq; exact hl (heq ▸ hlive))]
    exact ⟨hki, hlive, hslot⟩
  · intro j hj hlj
    rw [object_alter hx, if_neg (by rintro rfl; exact hl hlj)]
    exact h.occupant_slot j hj hlj

/-- Once the object that leaves has no slot, every object counts again. -/
theorem Linked.complete (h : heap.Linked (· ≠ id)) (h0 : (heap.object id).slot = 0) :
    heap.Linked fun _ => True := by
  refine ⟨h.inUse_lt, fun k h1 hk => ⟨trivial, (h.slot_occupant k h1 hk).2⟩, fun j _ hj => ?_⟩
  by_cases hji : j = id
  · rw [hji] at hj; exact absurd h0 hj
  · exact h.occupant_slot j hji hj

/-- No slot holds an object that is not scheduled. -/
theorem Linked.exclude (h : heap.Linked fun _ => True) (h0 : (heap.object id).slot = 0) :
    heap.Linked (· ≠ id) := by
  refine ⟨h.inUse_lt, fun k h1 hk => ?_, fun j _ => h.occupant_slot j trivial⟩
  obtain ⟨-, hslot⟩ := h.slot_occupant k h1 hk
  refine ⟨fun heq => ?_, hslot⟩
  rw [heq, h0] at hslot
  omega

theorem WellFormed.of_agrees {heap' : TimerHeap} (h : heap.WellFormed)
    (ha : AgreesBut id heap heap') (hL : heap'.Linked fun _ => True) (hO : heap'.Ordered)
    (hid : (heap'.object id).slot ≠ 0 → (heap'.object id).action.isSome) : heap'.WellFormed := by
  refine ⟨hL, hO, fun j hj => ?_⟩
  by_cases hji : j = id
  · rw [hji] at hj ⊢; exact hid hj
  · have halike := ha.alike j hji
    rw [halike.action]
    exact h.armed j (fun h0 => hj (halike.scheduled.2 h0))

/-- An object that is not scheduled may be changed at will, as long as it stays so. -/
theorem WellFormed.alter (h : heap.WellFormed) (hid : id < heap.objects.size)
    (h0 : (heap.object id).slot = 0) (f : TimerObject → TimerObject)
    (hf : (f (heap.object id)).slot = 0) : (heap.alter id f).WellFormed := by
  have hobj : (heap.alter id f).object id = f (heap.object id) := by
    rw [object_alter hid, if_pos rfl]
  refine h.of_agrees (.alter hid f) ?_ ?_ (fun hne => absurd (hobj ▸ hf) hne)
  · exact ((h.linked.exclude h0).alter hid (fun hn => hn rfl) f).complete (hobj ▸ hf)
  · refine h.ordered.of_due (Nat.le_refl _) fun k h1 hk => ?_
    unfold due
    rw [occupant_alter, object_alter hid,
      if_neg ((h.linked.exclude h0).slot_occupant k h1 hk).1]

/-- Heap `b` is heap `a` without object `id`. -/
structure Removed (id : ObjectId) (a b : TimerHeap) : Prop extends AgreesBut id a b where
  object : b.object id = { a.object id with slot := 0, pending := false }
  inUse : b.inUse = if (a.object id).slot = 0 then a.inUse else a.inUse - 1

/-- The mark of an object that is off the heap. -/
def clear (x : TimerObject) : TimerObject := { x with slot := 0, pending := false }

theorem due_alter_clear (hid : id < heap.objects.size) (k : Nat) :
    (heap.alter id clear).due k = heap.due k := by
  unfold due
  rw [occupant_alter, object_alter hid]
  split <;> rfl

/-- What the order needs when the object of slot `k` leaves. -/
theorem Ordered.shrink_off (h : heap.Ordered) (k : Nat) : heap.shrink.OrderedOff k := by
  have hoff := (h.but k).off
  constructor
  · intro m h2 hm
    exact hoff.off m h2 (Nat.le_trans hm (Nat.sub_le ..))
  · intro m h2 hm
    exact hoff.across m h2 (Nat.le_trans hm (Nat.sub_le ..))

theorem OrderedOff.alter_clear (h : heap.OrderedOff hole) (hid : id < heap.objects.size) :
    (heap.alter id clear).OrderedOff hole := by
  constructor
  · intro k h2 hk hkh hkp
    rw [due_alter_clear hid, due_alter_clear hid]
    exact h.off k h2 hk hkh hkp
  · intro k h2 hk hkp
    rw [due_alter_clear hid, due_alter_clear hid]
    exact h.across k h2 hk hkp

/-- A heap without `id` results from clearing the object and rearranging the others. -/
theorem Removed.of_rearranged {a c : TimerHeap} (hid : id < a.objects.size)
    (h0 : (a.object id).slot ≠ 0) (h : Rearranged (a.shrink.alter id clear) c) :
    Removed id a c := by
  have hobj (j : ObjectId) : (a.shrink.alter id clear).object j =
      if j = id then clear (a.object j) else a.object j :=
    object_alter (show id < a.shrink.objects.size from hid) clear j
  have hb : AgreesBut id a (a.shrink.alter id clear) :=
    ⟨rfl, rfl, rfl, rfl, size_objects_alter clear, fun j hj => by
      rw [hobj, if_neg hj]; exact .refl _⟩
  refine ⟨hb.trans (h.agreesBut id), ?_, ?_⟩
  · rw [(h.alike id).eq_of_slot (by rw [hobj, if_pos rfl]; rfl), hobj, if_pos rfl]; rfl
  · rw [if_neg h0]; exact h.inUse

theorem Removed.wellFormed {a c : TimerHeap} (h : a.WellFormed) (hr : Removed id a c)
    (hL : c.Linked (· ≠ id)) (hO : c.Ordered) : c.WellFormed := by
  have hslot : (c.object id).slot = 0 := by rw [hr.object]
  exact h.of_agrees hr.toAgreesBut (hL.complete hslot) hO fun hn => absurd hslot hn

/-- The object of the last slot fills the slot of one that has left, and goes down or up from there. -/
def fillGap (heap : TimerHeap) (slot : Nat) (last : ObjectId) : Checked TimerHeap :=
  if slot ≤ heap.inUse then do
    let heap ← heap.place slot last
    let (slot, heap) ← heap.siftDown slot
    return (← heap.siftUp slot).2
  else return heap

theorem delete_of_unscheduled (hid : id < heap.objects.size) (h0 : (heap.object id).slot = 0) :
    heap.delete id = .ok (heap.alter id clear) := by
  unfold delete
  rw [read_objects hid, Checked.ok_bind, Checked.update_eq _ hid, Checked.ok_bind, if_pos h0]
  rfl

/-- A scheduled object is cleared, and the gap that it leaves is filled. -/
theorem delete_of_scheduled (h : heap.Linked fun _ => True) (h0 : (heap.object id).slot ≠ 0) :
    heap.delete id =
      (heap.shrink.alter id clear).fillGap (heap.object id).slot (heap.occupant heap.inUse) := by
  have hid := lt_size_of_slot_ne_zero h0
  obtain ⟨hle, -⟩ := h.occupant_slot id trivial h0
  have hread : Checked.read heap.slots heap.inUse = .ok (heap.occupant heap.inUse) :=
    read_slots h.inUse_lt
  have hsub : Checked.sub heap.inUse 1 = .ok (heap.inUse - 1) := Checked.sub_eq (by omega)
  unfold delete
  rw [read_objects hid, Checked.ok_bind, Checked.update_eq _ hid, Checked.ok_bind, if_neg h0, hread,
    Checked.ok_bind, hsub, Checked.ok_bind]
  rfl

/-- Deleting takes the object off the heap, if it is on. -/
theorem delete_spec (h : heap.WellFormed) (hid : id < heap.objects.size) :
    ∃ heap', heap.delete id = .ok heap' ∧ heap'.WellFormed ∧ Removed id heap heap' := by
  by_cases h0 : (heap.object id).slot = 0
  · refine ⟨_, delete_of_unscheduled hid h0, h.alter hid h0 clear rfl, .alter hid clear, ?_, ?_⟩
    · rw [object_alter hid, if_pos rfl]; rfl
    · rw [if_pos h0]; rfl
  · obtain ⟨hle, hocc⟩ := h.linked.occupant_slot id trivial h0
    rw [delete_of_scheduled h.linked h0, fillGap, inUse_alter, inUse_shrink]
    generalize hk : (heap.object id).slot = k at h0 hle hocc
    subst hocc
    by_cases hlast : k ≤ heap.inUse - 1
    · -- the last object fills the gap and goes down or up from there
      have hL := (h.linked.shrink_lifted (by omega) hlast).alter hid (fun hn => hn rfl) clear
      obtain ⟨heap₁, slot₁, heap₂, hplace, hdown, hL₂, hO₂, hrange, -, hre⟩ :=
        place_siftDown_spec hL ((h.ordered.shrink_off k).alter_clear hid)
      obtain ⟨slot₃, heap₃, hup, hL₃, hO₃, hre₃, -⟩ := siftUp_spec hL₂ hrange.1 hrange.2 hO₂
      have hrem := Removed.of_rearranged hid (by omega) (hre.trans hre₃.toRearranged)
      rw [if_pos hlast]
      refine ⟨heap₃, ?_, hrem.wellFormed h hL₃ hO₃, hrem⟩
      rw [hplace, Checked.ok_bind, hdown, Checked.ok_bind]
      dsimp only
      rw [hup]; rfl
    · -- the object was the last one, and nothing moves
      have hk : k = heap.inUse := by omega
      have hrem := Removed.of_rearranged hid (by omega) (.refl _)
      rw [if_neg hlast]
      subst hk
      refine ⟨_, rfl, hrem.wellFormed h ?_ ?_, hrem⟩
      · exact h.linked.shrink_last.alter hid (fun hn => hn rfl) clear
      · refine h.ordered.of_due (Nat.sub_le ..) fun m _ _ => ?_
        exact due_alter_clear (show _ < heap.shrink.objects.size from hid) m

/-! ## Entering the heap -/

/-- A delay brought into the range that a heap can schedule whose clock is set back from `maxTick` on. -/
def clampDelay (maxTick delay : Nat) : Nat := max 1 (min delay (maxTick - 1))

/-- The ticks after which an object is due that is started for a delay. -/
def span (heap : TimerHeap) (delay : Nat) : Nat := clampDelay heap.maxTick delay

theorem span_pos (heap : TimerHeap) (delay : Nat) : 1 ≤ heap.span delay := Nat.le_max_left ..

theorem span_le (hmax : 2 ≤ heap.maxTick) (delay : Nat) : heap.span delay ≤ heap.maxTick - 1 := by
  unfold span clampDelay
  omega

theorem span_congr {a b : TimerHeap} (h : b.maxTick = a.maxTick) (delay : Nat) :
    b.span delay = a.span delay := by
  unfold span
  rw [h]

/-- The due tick that a start gives. -/
def wakeAfter (heap : TimerHeap) (delay : Nat) : Nat := min (heap.clock + heap.span delay) clockLimit

/-- With time left on the clock for the longest delay, no due tick is cut off. -/
theorem wakeAfter_of_room (hmax : 2 ≤ heap.maxTick) (hclock : heap.clock + heap.maxTick ≤ UInt64.size)
    (delay : Nat) : heap.wakeAfter delay = heap.clock + heap.span delay := by
  have hspan := span_le hmax delay
  unfold wakeAfter clockLimit
  omega

/-- How many objects are scheduled, object `id` not counted. -/
def inUseBut (heap : TimerHeap) (id : ObjectId) : Nat :=
  if (heap.object id).slot = 0 then heap.inUse else heap.inUse - 1

/-- Heap `b` is heap `a` after object `id` was started. -/
structure Started (id : ObjectId) (delay : Nat) (action : TimerAction) (a b : TimerHeap) : Prop
    extends AgreesBut id a b where
  wake : (b.object id).wake = a.wakeAfter delay
  action : (b.object id).action = some action
  pending : (b.object id).pending = true
  scheduled : (b.object id).slot ≠ 0 ↔ a.inUseBut id < a.capacity
  inUse : b.inUse = a.inUseBut id + if a.inUseBut id < a.capacity then 1 else 0

/-- A heap with one slot more in use. -/
def grow (heap : TimerHeap) : TimerHeap := { heap with inUse := heap.inUse + 1 }

@[simp] theorem object_grow (j : ObjectId) : heap.grow.object j = heap.object j := rfl
@[simp] theorem occupant_grow (k : Nat) : heap.grow.occupant k = heap.occupant k := rfl
@[simp] theorem inUse_grow : heap.grow.inUse = heap.inUse + 1 := rfl

/-- An object off the heap gets the slot after the last one. -/
theorem Linked.grow_seat (h : heap.Linked fun _ => True) (h0 : (heap.object id).slot = 0)
    (hid : id < heap.objects.size) (hroom : heap.inUse + 1 < heap.slots.size) :
    (heap.grow.seat (heap.inUse + 1) id).Linked fun _ => True := by
  have hobj (j : ObjectId) : (heap.grow.seat (heap.inUse + 1) id).object j =
      if j = id then { heap.object j with slot := heap.inUse + 1 } else heap.object j :=
    object_seat (show id < heap.grow.objects.size from hid) j
  have hocc (k : Nat) : (heap.grow.seat (heap.inUse + 1) id).occupant k =
      if k = heap.inUse + 1 then id else heap.occupant k :=
    occupant_seat (show heap.inUse + 1 < heap.grow.slots.size from hroom) k
  refine ⟨by rw [size_slots_seat]; exact hroom, fun k h1 hk => ⟨trivial, ?_⟩, fun j _ hj => ?_⟩
  · rw [inUse_seat, inUse_grow] at hk
    rw [hocc, hobj]
    by_cases hlast : k = heap.inUse + 1
    · simp [hlast]
    · obtain ⟨hne, hslot⟩ := (h.exclude h0).slot_occupant k h1 (by omega)
      simp [hlast, hne, hslot]
  · rw [hobj] at hj ⊢
    by_cases hji : j = id
    · simp [hji, hocc]
    · rw [if_neg hji] at hj ⊢
      obtain ⟨hle, hj'⟩ := h.occupant_slot j trivial hj
      rw [hocc, if_neg (by omega)]
      exact ⟨Nat.le_succ_of_le hle, hj'⟩

theorem Ordered.grow_seat (h : heap.Ordered) (hid : id < heap.objects.size)
    (hroom : heap.inUse + 1 < heap.slots.size) :
    (heap.grow.seat (heap.inUse + 1) id).OrderedBut (heap.inUse + 1) := by
  have hdue := due_seat (show heap.inUse + 1 < heap.grow.slots.size from hroom)
    (show id < heap.grow.objects.size from hid)
  constructor
  · intro k k2 hk hne
    rw [inUse_seat, inUse_grow] at hk
    rw [hdue, hdue, if_neg (by omega), if_neg hne]
    exact h k k2 (by omega)
  · intro k _ hk hkp
    rw [inUse_seat, inUse_grow] at hk
    omega

/-- An armed object off the heap is put behind all others and rises to its place. -/
theorem place_siftUp_spec (h : heap.WellFormed) (hid : id < heap.objects.size)
    (h0 : (heap.object id).slot = 0) (harmed : (heap.object id).action.isSome)
    (hroom : heap.inUse < heap.capacity) :
    ∃ heap₁ slot heap₂, heap.grow.place (heap.inUse + 1) id = .ok heap₁ ∧
      heap₁.siftUp (heap.inUse + 1) = .ok (slot, heap₂) ∧ heap₂.WellFormed ∧
      AgreesBut id heap heap₂ ∧ (heap₂.object id).slot ≠ 0 ∧
      (heap₂.object id).wake = (heap.object id).wake ∧
      (heap₂.object id).action = (heap.object id).action ∧
      (heap₂.object id).pending = (heap.object id).pending ∧ heap₂.inUse = heap.inUse + 1 := by
  have hlt : heap.inUse + 1 < heap.slots.size := by unfold capacity at hroom; omega
  have hobj (j : ObjectId) : (heap.grow.seat (heap.inUse + 1) id).object j =
      if j = id then { heap.object j with slot := heap.inUse + 1 } else heap.object j :=
    object_seat (show id < heap.grow.objects.size from hid) j
  have hag : AgreesBut id heap (heap.grow.seat (heap.inUse + 1) id) :=
    ⟨rfl, rfl, rfl, size_slots_seat, size_objects_seat, fun j hj => by
      rw [hobj, if_neg hj]; exact .refl _⟩
  obtain ⟨slot, heap₂, hup, hL, hO, hre, -⟩ :=
    siftUp_spec (h.linked.grow_seat h0 hid hlt) (Nat.succ_pos _) (Nat.le_refl _)
      (h.ordered.grow_seat hid hlt)
  have halike := hre.alike id
  rw [hobj, if_pos rfl] at halike
  have hne : (heap₂.object id).slot ≠ 0 := fun hn => Nat.succ_ne_zero _ (halike.scheduled.1 hn)
  have hag₂ := hag.trans (hre.agreesBut id)
  refine ⟨_, slot, heap₂, place_eq hlt hid, hup, ?_, hag₂, hne, halike.wake, halike.action,
    halike.pending, hre.inUse⟩
  refine h.of_agrees hag₂ hL hO fun _ => ?_
  rw [halike.action]; exact harmed

/-- What a start writes into its object. -/
def arm (wake : Nat) (action : TimerAction) (x : TimerObject) : TimerObject :=
  { x with wake, action := some action, pending := true }

/-- A start arms the deleted object first and gives it a slot only then. -/
theorem start_eq {heap₁ heap₂ : TimerHeap} {delay : Nat} {action : TimerAction}
    (hdel : heap.delete id = .ok heap₁) (hid : id < heap₁.objects.size) (hclock : heap₁.clock = heap.clock)
    (hmax₁ : heap₁.maxTick = heap.maxTick) (hmax : 2 ≤ heap.maxTick)
    (h₂ : heap₁.alter id (arm (heap.wakeAfter delay) action) = heap₂) :
    heap.start id delay action =
      if heap₂.capacity ≤ heap₂.inUse then .ok (.full, heap₂)
      else heap₂.grow.place (heap₂.inUse + 1) id >>= fun heap₃ =>
        heap₃.siftUp (heap₂.inUse + 1) >>= fun r => .ok (.armed (heap.wakeAfter delay), r.2) := by
  have hsub : Checked.sub heap₁.maxTick 1 = .ok (heap.maxTick - 1) := by
    rw [hmax₁]; exact Checked.sub_eq (by omega)
  have hclamp : Checked.clamp delay 1 (heap.maxTick - 1) = .ok (heap.span delay) :=
    Checked.clamp_eq delay (by omega)
  have hwake : min (heap₁.clock + heap.span delay) clockLimit = heap.wakeAfter delay := by
    rw [hclock]; rfl
  unfold start
  rw [hdel, Checked.ok_bind, hsub, Checked.ok_bind, hclamp, Checked.ok_bind]
  simp only [hwake]
  rw [Checked.update_eq _ hid, Checked.ok_bind, ← h₂]
  rfl

/-- A start ends with the object due after the delay, or off the heap if there is no free slot. -/
theorem start_spec (h : heap.WellFormed) (hid : id < heap.objects.size) (hmax : 2 ≤ heap.maxTick)
    (delay : Nat) (action : TimerAction) :
    ∃ start heap', heap.start id delay action = .ok (start, heap') ∧ heap'.WellFormed ∧
      Started id delay action heap heap' ∧
      start = if heap.inUseBut id < heap.capacity then .armed (heap.wakeAfter delay) else .full := by
  obtain ⟨heap₁, hdel, hwf₁, hrem⟩ := delete_spec h hid
  have hid₁ : id < heap₁.objects.size := by rw [hrem.size_objects]; exact hid
  have h0 : (heap₁.object id).slot = 0 := by rw [hrem.object]
  have hobj : (heap₁.alter id (arm (heap.wakeAfter delay) action)).object id =
      arm (heap.wakeAfter delay) action (heap₁.object id) := by
    rw [object_alter hid₁, if_pos rfl]
  -- the object off the heap, and armed
  generalize harm : heap₁.alter id (arm (heap.wakeAfter delay) action) = heap₂ at hobj
  have hwf₂ : heap₂.WellFormed := harm ▸ hwf₁.alter hid₁ h0 _ h0
  have hag₂ : AgreesBut id heap heap₂ := harm ▸ hrem.toAgreesBut.trans (.alter hid₁ _)
  have hin₂ : heap₂.inUse = heap.inUseBut id := by rw [← harm]; exact hrem.inUse
  have hcap₂ : heap₂.capacity = heap.capacity := congrArg (· - 1) hag₂.size_slots
  have h0₂ : (heap₂.object id).slot = 0 := by rw [hobj]; exact h0
  rw [start_eq hdel hid₁ hrem.clock hrem.maxTick hmax harm]
  by_cases hroom : heap.inUseBut id < heap.capacity
  · obtain ⟨heap₃, slot, heap₄, hplace, hup, hwf₄, hag₄, hne, hw, ha, hp, hu⟩ :=
      place_siftUp_spec hwf₂ (by rw [hag₂.size_objects]; exact hid) h0₂ (by rw [hobj]; rfl)
        (by rw [hin₂, hcap₂]; exact hroom)
    rw [hobj] at hw ha hp
    rw [if_neg (by omega), hplace, Checked.ok_bind, hup, Checked.ok_bind, if_pos hroom]
    refine ⟨_, heap₄, rfl, hwf₄, ⟨hag₂.trans hag₄, hw, ha, hp, iff_of_true hne hroom, ?_⟩, rfl⟩
    rw [if_pos hroom, hu, hin₂]
  · rw [if_pos (by omega), if_neg hroom]
    refine ⟨_, heap₂, rfl, hwf₂, ⟨hag₂, ?_, ?_, ?_, iff_of_false (fun hn => hn h0₂) hroom, ?_⟩, rfl⟩
    · rw [hobj]; rfl
    · rw [hobj]; rfl
    · rw [hobj]; rfl
    · rw [if_neg hroom, hin₂]; rfl

/-! ## What is due -/

/-- Heap `b` is heap `a` after object `id` was taken out with its action: it was due, and no object
was due before it. -/
structure Popped (id : ObjectId) (action : TimerAction) (a b : TimerHeap) : Prop
    extends Removed id a b where
  scheduled : (a.object id).slot ≠ 0
  due : (a.object id).wake ≤ a.clock
  first : ∀ j, (a.object j).slot ≠ 0 → (a.object id).wake ≤ (a.object j).wake
  armed : (a.object id).action = some action

/-- No object is due. -/
def Idle (heap : TimerHeap) : Prop :=
  ∀ j, (heap.object j).slot ≠ 0 → heap.clock < (heap.object j).wake

theorem Rearranged.alter_clear {a b : TimerHeap} (h : Rearranged a b)
    (hid : id < a.objects.size) : Rearranged (a.alter id clear) (b.alter id clear) := by
  have hidb : id < b.objects.size := by rw [h.size_objects]; exact hid
  refine ⟨h.inUse, h.clock, h.ticks, h.maxTick, h.size_slots, ?_, fun j => ?_, h.outside⟩
  · rw [size_objects_alter, size_objects_alter, h.size_objects]
  · rw [object_alter hid, object_alter hidb]
    have halike := h.alike j
    split
    · exact ⟨halike.wake, halike.action, rfl, Iff.rfl⟩
    · exact halike

/-- The object of the last slot takes the place of the one in the root slot. -/
def refillRoot (heap : TimerHeap) : Checked TimerHeap :=
  if 0 < heap.inUse - 1 then do
    let heap₁ ← heap.shrink.place 1 (heap.occupant heap.inUse)
    return (← heap₁.siftDown 1).2
  else return heap.shrink

theorem refillRoot_spec (h : heap.WellFormed) (h1 : 1 ≤ heap.inUse) :
    ∃ heap', heap.refillRoot = .ok heap' ∧ heap'.Linked (· ≠ heap.occupant 1) ∧ heap'.Ordered ∧
      Rearranged heap.shrink heap' := by
  unfold refillRoot
  by_cases h2 : 0 < heap.inUse - 1
  · obtain ⟨heap₁, slot, heap₂, hplace, hdown, hL, -, -, hO, hre⟩ :=
      place_siftDown_spec (h.linked.shrink_lifted (Nat.le_refl 1) h2) (h.ordered.shrink_off 1)
    rw [if_pos h2, hplace, Checked.ok_bind, hdown]
    exact ⟨heap₂, rfl, hL, hO rfl, hre⟩
  · have hone : heap.inUse = 1 := by omega
    rw [if_neg h2]
    refine ⟨heap.shrink, rfl, ?_, ?_, .refl _⟩
    · have hL := h.linked.shrink_last
      rwa [hone] at hL
    · exact h.ordered.of_due (Nat.sub_le ..) fun _ _ _ => rfl

/-- The root is taken out when it is due, and the root slot is refilled. -/
theorem popDue_eq (h : heap.WellFormed) (h1 : 1 ≤ heap.inUse) (hdue : heap.due 1 ≤ heap.clock)
    {heap₁ : TimerHeap} (hfill : heap.refillRoot = .ok heap₁)
    (hsize : heap₁.objects.size = heap.objects.size) :
    heap.popDue = .ok (((heap₁.alter (heap.occupant 1) clear).object (heap.occupant 1)).action.map
      (heap.occupant 1, ·), heap₁.alter (heap.occupant 1) clear) := by
  have husz := h.linked.inUse_lt
  have hid := h.linked.occupant_lt (Nat.le_refl 1) h1
  have hid₁ : heap.occupant 1 < heap₁.objects.size := by rw [hsize]; exact hid
  have hlater : ¬ heap.clock < (heap.object (heap.occupant 1)).wake := Nat.not_lt.2 hdue
  have hsub : Checked.sub heap.inUse 1 = .ok (heap.inUse - 1) := Checked.sub_eq h1
  have hread : Checked.read (heap₁.alter (heap.occupant 1) clear).objects (heap.occupant 1) =
      .ok _ := read_objects (by rw [size_objects_alter]; exact hid₁)
  -- what comes after the refill is the same whether or not there is another object
  have hrest : (do
      let heap₂ ← heap.refillRoot
      let objects ← Checked.update heap₂.objects (heap.occupant 1) clear
      let action := (← Checked.read objects (heap.occupant 1)).action
      return (action.map (heap.occupant 1, ·), { heap₂ with objects })) =
        .ok (((heap₁.alter (heap.occupant 1) clear).object (heap.occupant 1)).action.map
          (heap.occupant 1, ·), heap₁.alter (heap.occupant 1) clear) := by
    rw [hfill, Checked.ok_bind, Checked.update_eq _ hid₁, Checked.ok_bind]
    show Checked.read (heap₁.alter (heap.occupant 1) clear).objects _ >>= _ = _
    rw [hread]; rfl
  refine Eq.trans ?_ hrest
  unfold popDue refillRoot
  rw [if_neg (by omega), read_slots (by omega), Checked.ok_bind, wakeOf_eq hid, Checked.ok_bind,
    if_neg hlater, read_slots husz, Checked.ok_bind, hsub, Checked.ok_bind]
  by_cases h2 : 0 < heap.inUse - 1
  · simp only [h2, reduceIte, bind_assoc, pure_bind]; rfl
  · simp only [h2, reduceIte, pure_bind]; rfl

/-- Taking out a due object finds none exactly when none is due. -/
theorem popDue_spec (h : heap.WellFormed) :
    (heap.Idle ∧ heap.popDue = .ok (none, heap)) ∨
    ∃ id action heap', heap.popDue = .ok (some (id, action), heap') ∧ heap'.WellFormed ∧
      Popped id action heap heap' := by
  by_cases h0 : heap.inUse = 0
  · refine Or.inl ⟨fun j hj => ?_, by unfold popDue; rw [if_pos h0]; rfl⟩
    have := (h.linked.occupant_slot j trivial hj).1
    omega
  have h1 : 1 ≤ heap.inUse := by omega
  have husz := h.linked.inUse_lt
  have hid := h.linked.occupant_lt (Nat.le_refl 1) h1
  by_cases hdue : heap.clock < (heap.object (heap.occupant 1)).wake
  · refine Or.inl ⟨fun j hj => Nat.lt_of_lt_of_le hdue (h.root_due_le hj), ?_⟩
    unfold popDue
    rw [if_neg h0, read_slots (by omega), Checked.ok_bind, wakeOf_eq hid, Checked.ok_bind, if_pos hdue]
    rfl
  -- the root is due, and the object of the last slot takes its place
  have hslot := (h.linked.slot_occupant 1 (Nat.le_refl 1) h1).2
  obtain ⟨action, haction⟩ := Option.isSome_iff_exists.1 (h.armed (heap.occupant 1) (by omega))
  obtain ⟨heap₁, hfill, hL, hO, hre⟩ := refillRoot_spec h h1
  have hid₁ : heap.occupant 1 < heap₁.objects.size := by rw [hre.size_objects]; exact hid
  have hrem : Removed (heap.occupant 1) heap (heap₁.alter (heap.occupant 1) clear) :=
    .of_rearranged hid (by omega) (hre.alter_clear hid)
  have hpop := popDue_eq h h1 (Nat.le_of_not_lt hdue) hfill hre.size_objects
  rw [hrem.object, haction] at hpop
  refine Or.inr ⟨heap.occupant 1, action, heap₁.alter (heap.occupant 1) clear, hpop, ?_, hrem,
    by omega, Nat.le_of_not_lt hdue, fun j hj => h.root_due_le hj, haction⟩
  refine hrem.wellFormed h (hL.alter hid₁ (fun hn => hn rfl) clear) ?_
  exact hO.of_due (Nat.le_refl _) fun k _ _ => due_alter_clear hid₁ k

theorem Popped.of_popDue {action : TimerAction} {heap' : TimerHeap} (h : heap.WellFormed)
    (hpop : heap.popDue = .ok (some (id, action), heap')) :
    heap'.WellFormed ∧ Popped id action heap heap' := by
  rcases popDue_spec h with ⟨-, hnone⟩ | ⟨_, _, _, hsome, hwf, hpopped⟩
  · rw [hnone] at hpop
    cases hpop
  · rw [hsome] at hpop
    cases hpop
    exact ⟨hwf, hpopped⟩

/-! ## The clock -/

@[simp] theorem object_advanceClock (delta : Nat) (j : ObjectId) :
    (heap.advanceClock delta).object j = heap.object j := rfl

/-- Ticks change the clock and the tick counter and nothing else. -/
theorem wellFormed_advanceClock (h : heap.WellFormed) (delta : Nat) :
    (heap.advanceClock delta).WellFormed :=
  ⟨⟨h.linked.inUse_lt, h.linked.slot_occupant, h.linked.occupant_slot⟩, h.ordered, h.armed⟩

/-- Heap `b` is heap `a` with the clock set back to 0, and every due tick set back as much. -/
structure Rebased (a b : TimerHeap) : Prop where
  clock : b.clock = 0
  ticks : b.ticks = a.ticks
  maxTick : b.maxTick = a.maxTick
  inUse : b.inUse = a.inUse
  slots : b.slots = a.slots
  size_objects : b.objects.size = a.objects.size
  object : ∀ j, b.object j = if (a.object j).slot = 0 then a.object j
    else { a.object j with wake := (a.object j).wake - a.clock }

/-- A change that leaves the slot of an object alone does not touch the links. -/
theorem Linked.alter_kept (h : heap.Linked live) (hid : id < heap.objects.size)
    (f : TimerObject → TimerObject) (hf : ∀ x, (f x).slot = x.slot) :
    (heap.alter id f).Linked live := by
  have hslot (j : ObjectId) : ((heap.alter id f).object j).slot = (heap.object j).slot := by
    rw [object_alter hid]
    split
    · exact hf _
    · rfl
  refine ⟨h.inUse_lt, fun k h1 hk => ?_, fun j hj => ?_⟩
  · rw [occupant_alter, hslot]; exact h.slot_occupant k h1 hk
  · rw [hslot]; exact h.occupant_slot j hj

/-- A due tick set anew. -/
def reschedule (wake : Nat) (x : TimerObject) : TimerObject := { x with wake }

/-- Lowering sets the due ticks in a range of slots back and leaves every other object alone. -/
theorem lowerWakes_spec (amount : Nat) : ∀ (count slot : Nat) (heap : TimerHeap),
    heap.Linked (fun _ => True) → 1 ≤ slot → slot + count ≤ heap.inUse + 1 →
    (∀ k, slot ≤ k → k < slot + count → amount ≤ heap.due k) →
    ∃ objects, heap.lowerWakes amount slot count = .ok { heap with objects } ∧
      objects.size = heap.objects.size ∧
      ∀ j, ({ heap with objects } : TimerHeap).object j =
        if slot ≤ (heap.object j).slot ∧ (heap.object j).slot < slot + count then
          { heap.object j with wake := (heap.object j).wake - amount }
        else heap.object j
  | 0, slot, heap, _, _, _, _ => by
    refine ⟨heap.objects, rfl, rfl, fun j => ?_⟩
    rw [if_neg (by omega)]
  | count + 1, slot, heap, hL, h1, hle, hdue => by
    have hid := hL.occupant_lt h1 (by omega)
    have husz := hL.inUse_lt
    have hslot := (hL.slot_occupant slot h1 (by omega)).2
    have hsub : Checked.sub (heap.object (heap.occupant slot)).wake amount =
        .ok ((heap.object (heap.occupant slot)).wake - amount) :=
      Checked.sub_eq (hdue slot (Nat.le_refl _) (by omega))
    generalize hw : (heap.object (heap.occupant slot)).wake - amount = wake at hsub
    have hobj := object_alter hid (reschedule wake)
    -- the objects in the slots to come are other ones, and their due ticks are as before
    have hdue₁ : ∀ k, slot + 1 ≤ k → k < slot + 1 + count →
        amount ≤ (heap.alter (heap.occupant slot) (reschedule wake)).due k := by
      intro k hk hk'
      have hne : heap.occupant k ≠ heap.occupant slot := fun heq =>
        absurd (hL.occupant_inj ⟨by omega, by omega⟩ ⟨h1, by omega⟩ heq) (by omega)
      unfold due
      rw [occupant_alter, hobj, if_neg hne]
      exact hdue k (by omega) (by omega)
    obtain ⟨objects, hlow, hsize, hall⟩ := lowerWakes_spec amount count (slot + 1) _
      (hL.alter_kept hid (reschedule wake) fun _ => rfl) (by omega)
      (by show slot + 1 + count ≤ heap.inUse + 1; omega) hdue₁
    refine ⟨objects, ?_, hsize.trans (size_objects_alter _), fun j => (hall j).trans ?_⟩
    · unfold lowerWakes
      rw [read_slots (by omega), Checked.ok_bind, wakeOf_eq hid, Checked.ok_bind, hsub,
        Checked.ok_bind, Checked.update_eq _ hid, Checked.ok_bind]
      exact hlow
    · rw [hobj]
      by_cases hj : j = heap.occupant slot
      · subst hj
        rw [if_pos rfl, if_neg (by simp [reschedule]; omega), if_pos (by omega), hw]; rfl
      · have hjs : (heap.object j).slot ≠ slot := by
          intro heq
          have := (hL.occupant_slot j trivial (by omega)).2
          exact hj (by rw [← this, heq])
        rw [if_neg hj]
        by_cases hin : slot + 1 ≤ (heap.object j).slot ∧ (heap.object j).slot < slot + 1 + count
        · rw [if_pos hin, if_pos (by omega)]
        · rw [if_neg hin, if_neg (by omega)]

/-- Setting the due ticks of the scheduled objects back by one amount keeps a heap in order. -/
theorem Rebased.wellFormed {a b : TimerHeap} (h : a.WellFormed) (hr : Rebased a b) :
    b.WellFormed := by
  have hslot (j : ObjectId) : (b.object j).slot = (a.object j).slot := by
    rw [hr.object]; split <;> rfl
  have hocc (k : Nat) : b.occupant k = a.occupant k := by rw [occupant, occupant, hr.slots]
  have hdue (k : Nat) (h1 : 1 ≤ k) (hk : k ≤ a.inUse) : b.due k = a.due k - a.clock := by
    have := (h.linked.slot_occupant k h1 hk).2
    unfold due
    rw [hocc, hr.object, if_neg (by omega)]
  refine ⟨⟨by rw [hr.inUse, hr.slots]; exact h.linked.inUse_lt, fun k h1 hk => ?_, fun j hj h0 => ?_⟩,
    fun k h2 hk => ?_, fun j h0 => ?_⟩
  · rw [hr.inUse] at hk
    rw [hocc, hslot]; exact h.linked.slot_occupant k h1 hk
  · rw [hslot] at h0 ⊢
    rw [hr.inUse, hocc]; exact h.linked.occupant_slot j hj h0
  · rw [hr.inUse] at hk
    rw [hdue k (by omega) hk, hdue (k / 2) (by omega) (by omega)]
    exact Nat.sub_le_sub_right (h.ordered k h2 hk) _
  · rw [hslot] at h0
    rw [hr.object, if_neg h0]; exact h.armed j h0

/-- On a heap without due objects a rebase sets the clock and the due ticks back once the clock has
reached `maxTick`. -/
theorem rebase_spec (h : heap.WellFormed) (hidle : heap.Idle) :
    (heap.clock < heap.maxTick ∧ heap.rebase = .ok (none, heap)) ∨
    (heap.maxTick ≤ heap.clock ∧ ∃ heap', heap.rebase = .ok (some heap.clock, heap') ∧
      Rebased heap heap') := by
  unfold rebase
  by_cases hc : heap.clock < heap.maxTick
  · rw [if_pos hc]; exact Or.inl ⟨hc, rfl⟩
  rw [if_neg hc]
  -- every scheduled object is still ahead of the clock, so that no due tick falls below 0
  have hdue : ∀ k, 1 ≤ k → k < 1 + heap.inUse → heap.clock ≤ heap.due k := by
    intro k h1 hk
    have hslot := (h.linked.slot_occupant k h1 (by omega)).2
    exact Nat.le_of_lt (hidle _ (by omega))
  obtain ⟨objects, hlow, hsize, hall⟩ :=
    lowerWakes_spec heap.clock heap.inUse 1 heap h.linked (Nat.le_refl 1) (by omega) hdue
  refine Or.inr ⟨Nat.le_of_not_lt hc, { heap with objects, clock := 0 }, ?_, rfl, rfl, rfl, rfl, rfl,
    hsize, fun j => (hall j).trans ?_⟩
  · rw [hlow]; rfl
  · by_cases h0 : (heap.object j).slot = 0
    · rw [if_pos h0, if_neg (by omega)]
    · have := (h.linked.occupant_slot j trivial h0).1
      rw [if_neg h0, if_pos (by omega)]

end Executive.TimerHeap
