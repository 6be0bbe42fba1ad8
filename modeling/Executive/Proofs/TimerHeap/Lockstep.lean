/-
A rebase cannot be seen from outside (`performAll_unrebased`). Of two heaps built alike that carry out
the same requests, one rebases after some of the `popDue` requests that find nothing and the other one
never does. As long as the clock of the latter stays `maxTick` ticks away from its limit, both answer
every request alike, and which of several objects due at one tick comes first is the same too.

`Trails d` says that the one heap has been set back by `d` ticks in all. A request of both keeps the
two heaps as far apart, and a rebase of the one moves them further apart.
-/
import Executive.Proofs.TimerHeap.Run
import Executive.Proofs.TimerHeap.Shift

namespace Executive.TimerHeap

variable {a b : TimerHeap} {id : ObjectId} {d : Nat}

/-! ## Entering side by side -/

namespace Shifted

theorem grow (h : Shifted d a b) : Shifted d a.grow b.grow :=
  ⟨{ h.toSameShape with inUse := congrArg (· + 1) h.inUse }, h.wake⟩

/-- An object off both heaps gets the same slot in both, if it is due as much later in the one. -/
theorem place_siftUp (h : Shifted d a b) (ha : a.WellFormed) (hid : id < a.objects.size)
    (h0 : (a.object id).slot = 0) (harmed : (a.object id).action.isSome) (hroom : a.inUse < a.capacity)
    (hwake : (b.object id).wake = (a.object id).wake + d) :
    ∃ a₁ b₁ slot a₂ b₂, a.grow.place (a.inUse + 1) id = .ok a₁ ∧ b.grow.place (b.inUse + 1) id = .ok b₁ ∧
      a₁.siftUp (a.inUse + 1) = .ok (slot, a₂) ∧ b₁.siftUp (b.inUse + 1) = .ok (slot, b₂) ∧
      Shifted d a₂ b₂ := by
  have hlt : a.inUse + 1 < a.slots.size := by unfold capacity at hroom; omega
  obtain ⟨a₁, slot, a₂, hplace, hup, -⟩ := place_siftUp_spec ha hid h0 harmed hroom
  have hplace' : b.grow.place (b.inUse + 1) id = .ok (b.grow.seat (b.inUse + 1) id) :=
    place_eq (show _ < b.slots.size by rw [h.inUse, h.size_slots]; exact hlt)
      (show _ < b.objects.size by rw [h.size_objects]; exact hid)
  cases (place_eq (show _ < a.grow.slots.size from hlt) (show _ < a.grow.objects.size from hid)).symm.trans
    hplace
  have hseat : Shifted d (a.grow.seat (a.inUse + 1) id) (b.grow.seat (a.inUse + 1) id) :=
    h.grow.seat_of_wake hid hwake
  obtain ⟨b₂, hup', h₂⟩ :=
    hseat.siftUp (ha.linked.grow_seat h0 hid hlt) (Nat.succ_pos _) (Nat.le_refl _) hup
  rw [h.inUse] at hplace' ⊢
  exact ⟨_, _, slot, a₂, b₂, hplace, hplace', hup, hup', h₂⟩

/-- An object that is started is due as much later in the one heap, if the due tick is not cut off at
the limit of the clock. -/
theorem wakeAfter (h : Shifted d a b) (hclock : b.clock = a.clock + d) (hmax : 2 ≤ a.maxTick)
    (hfar : b.clock + a.maxTick ≤ UInt64.size) (delay : Nat) :
    b.wakeAfter delay = a.wakeAfter delay + d := by
  have hfar' : b.clock + b.maxTick ≤ UInt64.size := by rw [h.maxTick]; exact hfar
  rw [wakeAfter_of_room (h.maxTick ▸ hmax) hfar', wakeAfter_of_room hmax (by omega),
    span_congr h.maxTick delay]
  omega

/-- A start finds a free slot in the one heap if it does in the other, and the object gets the same. -/
theorem start (h : Shifted d a b) (ha : a.WellFormed) (hid : id < a.objects.size)
    (hmax : 2 ≤ a.maxTick) (hclock : b.clock = a.clock + d) (hfar : b.clock + a.maxTick ≤ UInt64.size)
    {delay : Nat} {action : TimerAction} {started : Start} {a' : TimerHeap}
    (hstart : a.start id delay action = .ok (started, a')) :
    ∃ started' b', b.start id delay action = .ok (started', b') ∧ started'.isArmed = started.isArmed ∧
      Shifted d a' b' := by
  have hid' : id < b.objects.size := by rw [h.size_objects]; exact hid
  obtain ⟨a₁, hdelete, ha₁, hrem⟩ := delete_spec ha hid
  obtain ⟨b₁, hdelete', hb₁, hrem'⟩ := delete_spec (h.wellFormed ha) hid'
  obtain ⟨_, hsame, h₁⟩ := h.delete ha hid hdelete
  cases hdelete'.symm.trans hsame
  have hid₁ : id < a₁.objects.size := by rw [hrem.size_objects]; exact hid
  have hid₁' : id < b₁.objects.size := by rw [hrem'.size_objects]; exact hid'
  have h0 : (a₁.object id).slot = 0 := by rw [hrem.object]
  have h0' : (b₁.object id).slot = 0 := by rw [hrem'.object]
  have hwake := h.wakeAfter hclock hmax hfar delay
  -- the object off both heaps, and armed
  have h₂ : Shifted d (a₁.alter id (arm (a.wakeAfter delay) action))
      (b₁.alter id (arm (b.wakeAfter delay) action)) := h₁.alter_off hid₁ h0 h0' rfl rfl
  have hobject : (a₁.alter id (arm (a.wakeAfter delay) action)).object id =
      arm (a.wakeAfter delay) action (a₁.object id) := by rw [object_alter hid₁, if_pos rfl]
  have hobject' : (b₁.alter id (arm (b.wakeAfter delay) action)).object id =
      arm (b.wakeAfter delay) action (b₁.object id) := by rw [object_alter hid₁', if_pos rfl]
  have ha₂ := ha₁.alter hid₁ h0 (arm (a.wakeAfter delay) action) h0
  rw [start_eq hdelete hid₁ hrem.clock hrem.maxTick hmax rfl] at hstart
  rw [start_eq hdelete' hid₁' hrem'.clock hrem'.maxTick (by rw [h.maxTick]; exact hmax) rfl]
  have hsize : (a₁.alter id (arm (a.wakeAfter delay) action)).objects.size = a₁.objects.size :=
    size_objects_alter _
  generalize a₁.alter id (arm (a.wakeAfter delay) action) = a₂ at h₂ hobject ha₂ hstart hsize
  generalize b₁.alter id (arm (b.wakeAfter delay) action) = b₂ at h₂ hobject' ⊢
  have hcapacity : b₂.capacity = a₂.capacity := congrArg (· - 1) h₂.size_slots
  rw [h₂.inUse, hcapacity]
  by_cases hfull : a₂.capacity ≤ a₂.inUse
  · rw [if_pos hfull] at hstart ⊢
    cases hstart
    exact ⟨.full, b₂, rfl, rfl, h₂⟩
  · obtain ⟨a₃, b₃, slot, a₄, b₄, hplace, hplace', hup, hup', h₄⟩ :=
      h₂.place_siftUp ha₂ (by rw [hsize]; exact hid₁) (by rw [hobject]; exact h0)
        (by rw [hobject]; rfl) (Nat.lt_of_not_le hfull) (by rw [hobject, hobject']; exact hwake)
    rw [if_neg hfull, hplace, Checked.ok_bind, hup] at hstart
    cases hstart
    rw [h₂.inUse] at hplace' hup'
    rw [if_neg hfull, hplace', Checked.ok_bind, hup']
    exact ⟨_, b₄, rfl, rfl, h₄⟩

end Shifted

/-! ## Requests side by side -/

/-- Heap `a` is heap `b` set back by `d` ticks, with its clock and the due ticks of its objects. -/
structure Trails (d : Nat) (a b : TimerHeap) : Prop extends Shifted d a b where
  clock : b.clock = a.clock + d
  ticks : b.ticks = a.ticks

namespace Trails

theorem refl (a : TimerHeap) : Trails 0 a a := ⟨.refl a, rfl, rfl⟩

theorem sameButClock (h : Trails d a b) : SameButClock a b := .of_shifted h.toShifted h.ticks h.clock

/-- Both heaps are idle or neither is. -/
theorem idle_iff (h : Trails d a b) : a.Idle ↔ b.Idle := by
  refine ⟨h.idle h.clock, fun hidle j hj => ?_⟩
  have hahead := hidle j (by rw [h.slot]; exact hj)
  rw [h.wake j hj, h.clock] at hahead
  omega

/-- Ticks that reach both heaps in full keep them as far apart. -/
theorem advanceClock (h : Trails d a b) {delta : Nat} (hfar : (b.advanceClock delta).clock < clockLimit) :
    Trails d (a.advanceClock delta) (b.advanceClock delta) := by
  have hclock := h.clock
  have hb : (b.advanceClock delta).clock = min (b.clock + delta) clockLimit := rfl
  have ha : (a.advanceClock delta).clock = min (a.clock + delta) clockLimit := rfl
  refine ⟨(h.toShifted.advance_left delta).advance_right delta, ?_, ?_⟩
  · omega
  · show min (b.ticks + delta) clockLimit = min (a.ticks + delta) clockLimit
    rw [h.ticks]

/-- A rebase of the one heap sets it back further. -/
theorem rebased {next : TimerHeap} (h : Trails d a b) (hidle : a.Idle) (hr : Rebased a next) :
    Trails (a.clock + d) next b := by
  have hshifted : Shifted a.clock next a :=
    (SameButClock.of_rebased hr hidle).symm.shifted (by rw [hr.clock, Nat.zero_add])
  refine ⟨hshifted.trans h.toShifted, ?_, ?_⟩
  · rw [hr.clock, Nat.zero_add, h.clock]
  · rw [hr.ticks, h.ticks]

/-- An object that is started is scheduled in both heaps or in neither. -/
theorem start (h : Trails d a b) (ha : a.WellFormed) (hid : id < a.objects.size) (hmax : 2 ≤ a.maxTick)
    (hfar : b.clock + a.maxTick ≤ UInt64.size) {delay : Nat} {action : TimerAction} {started : Start}
    {a' : TimerHeap} (hstart : a.start id delay action = .ok (started, a')) :
    ∃ started' b', b.start id delay action = .ok (started', b') ∧ started'.isArmed = started.isArmed ∧
      Trails d a' b' := by
  have hid' : id < b.objects.size := by rw [h.size_objects]; exact hid
  obtain ⟨started', b', hstart', hflag, hshifted⟩ := h.toShifted.start ha hid hmax h.clock hfar hstart
  obtain ⟨_, _, hsame, -, hst, -⟩ := start_spec ha hid hmax delay action
  cases hstart.symm.trans hsame
  obtain ⟨_, _, hsame', -, hst', -⟩ :=
    start_spec (h.wellFormed ha) hid' (by rw [h.maxTick]; exact hmax) delay action
  cases hstart'.symm.trans hsame'
  refine ⟨started', b', hstart', hflag, hshifted, ?_, ?_⟩
  · rw [hst'.clock, hst.clock, h.clock]
  · rw [hst'.ticks, hst.ticks, h.ticks]

theorem delete (h : Trails d a b) (ha : a.WellFormed) (hid : id < a.objects.size) {a' : TimerHeap}
    (hdelete : a.delete id = .ok a') : ∃ b', b.delete id = .ok b' ∧ Trails d a' b' := by
  have hid' : id < b.objects.size := by rw [h.size_objects]; exact hid
  obtain ⟨b', hdelete', hshifted⟩ := h.toShifted.delete ha hid hdelete
  obtain ⟨_, hsame, -, hrem⟩ := delete_spec ha hid
  cases hdelete.symm.trans hsame
  obtain ⟨_, hsame', -, hrem'⟩ := delete_spec (h.wellFormed ha) hid'
  cases hdelete'.symm.trans hsame'
  refine ⟨b', hdelete', hshifted, ?_, ?_⟩
  · rw [hrem'.clock, hrem.clock, h.clock]
  · rw [hrem'.ticks, hrem.ticks, h.ticks]

/-- What is due is taken out of both heaps. -/
theorem popDue (h : Trails d a b) (ha : a.WellFormed) {entry : Option (ObjectId × TimerAction)}
    {a' : TimerHeap} (hpop : a.popDue = .ok (entry, a')) :
    ∃ b', b.popDue = .ok (entry, b') ∧ Trails d a' b' := by
  have hb := h.wellFormed ha
  rcases popDue_spec ha with ⟨hidle, hnone⟩ | ⟨id, action, a₁, hsome, -, hpopped⟩
  · rw [hnone] at hpop
    cases hpop
    rcases popDue_spec hb with ⟨-, hnone'⟩ | ⟨_, _, _, -, -, hpopped'⟩
    · exact ⟨b, hnone', h⟩
    · have hahead := h.idle_iff.1 hidle _ hpopped'.scheduled
      exact absurd hpopped'.due (Nat.not_le.2 hahead)
  · rw [hsome] at hpop
    cases hpop
    obtain ⟨b', hpop', h'⟩ := h.toShifted.popDue ha (Nat.le_of_eq h.clock.symm) hsome
    obtain ⟨-, hpopped'⟩ := Popped.of_popDue hb hpop'
    refine ⟨b', hpop', h', ?_, ?_⟩
    · rw [hpopped'.clock, hpopped.clock, h.clock]
    · rw [hpopped'.ticks, hpopped.ticks, h.ticks]

theorem popDueUpTo : ∀ (count : Nat) {a b : TimerHeap}, Trails d a b → a.WellFormed →
    ∀ {entries : List (ObjectId × TimerAction)} {a' : TimerHeap},
    a.popDueUpTo count = .ok (entries, a') →
    ∃ b', b.popDueUpTo count = .ok (entries, b') ∧ Trails d a' b'
  | 0, _, b, h, _, _, _, hpops => by
    cases hpops
    exact ⟨b, rfl, h⟩
  | count + 1, a, b, h, ha, entries, a', hpops => by
    unfold TimerHeap.popDueUpTo at hpops ⊢
    rcases popDue_spec ha with ⟨-, hpop⟩ | ⟨id, action, a₁, hpop, ha₁, -⟩
    · obtain ⟨b₁, hpop', h₁⟩ := h.popDue ha hpop
      rw [hpop] at hpops
      cases hpops
      rw [hpop']
      exact ⟨b₁, rfl, h₁⟩
    · obtain ⟨b₁, hpop', h₁⟩ := h.popDue ha hpop
      obtain ⟨rest, a₂, hrest, -⟩ := popDueUpTo_spec count a₁ ha₁
      obtain ⟨b₂, hrest', h₂⟩ := popDueUpTo count h₁ ha₁ hrest
      rw [hpop, Checked.ok_bind] at hpops
      dsimp only at hpops
      rw [hrest] at hpops
      cases hpops
      rw [hpop', Checked.ok_bind]
      dsimp only
      rw [hrest']
      exact ⟨b₂, rfl, h₂⟩

end Trails

/-- A list of objects does not depend on their due ticks. -/
theorem SameShape.objectsWhere (h : SameShape a b) {test : TimerObject → Bool}
    (htest : ∀ x y : TimerObject, y.slot = x.slot → y.pending = x.pending → test y = test x) :
    b.objectsWhere test = a.objectsWhere test := by
  unfold TimerHeap.objectsWhere
  rw [h.size_objects]
  refine List.filter_congr fun j hj => ?_
  have hlt := List.mem_range.1 hj
  have hobject := htest (a.object j) (b.object j) (h.slot j) (h.pending j)
  rw [object, object, Array.getElem?_eq_getElem hlt,
    Array.getElem?_eq_getElem (h.size_objects.symm ▸ hlt)] at hobject
  rw [Array.getElem?_eq_getElem hlt, Array.getElem?_eq_getElem (h.size_objects.symm ▸ hlt)]
  exact hobject

/-- A request other than a rebase has one answer in both heaps, and keeps them as far apart. -/
theorem Trails.perform {settled : Bool} {request : Request} {answer : Answer} {next : TimerHeap}
    (h : Trails d a b) (ha : a.WellFormed) (hmax : 2 ≤ a.maxTick) (hr : request.Allowed a settled)
    (hrebase : request ≠ .rebase) (hperf : a.perform request = .ok (answer, next))
    (hfar : ∀ answer' next', b.perform request = .ok (answer', next') →
      next'.clock + a.maxTick ≤ UInt64.size) :
    ∃ next', b.perform request = .ok (answer, next') ∧ Trails d next next' := by
  cases request with
  | start id delay action =>
    have hid' : id < b.objects.size := by rw [h.size_objects]; exact hr
    obtain ⟨started, a', hstart, -⟩ := start_spec ha hr hmax delay action
    obtain ⟨started', b', hstart', -, hst', -⟩ :=
      start_spec (h.wellFormed ha) hid' (by rw [h.maxTick]; exact hmax) delay action
    have hperf' : b.perform (.start id delay action) = .ok (.flag started'.isArmed, b') := by
      rw [TimerHeap.perform, hstart']; rfl
    have hclock := hfar _ b' hperf'
    rw [hst'.clock] at hclock
    obtain ⟨_, _, hsame, hflag, h'⟩ := h.start ha hr hmax hclock hstart
    cases hstart'.symm.trans hsame
    rw [TimerHeap.perform, hstart] at hperf
    cases hperf
    exact ⟨b', by rw [hperf', hflag], h'⟩
  | delete id =>
    obtain ⟨a', hdelete, -⟩ := delete_spec ha hr
    obtain ⟨b', hdelete', h'⟩ := h.delete ha hr hdelete
    rw [TimerHeap.perform, hdelete] at hperf
    cases hperf
    exact ⟨b', by rw [TimerHeap.perform, hdelete']; rfl, h'⟩
  | advanceClock delta =>
    cases hperf
    refine ⟨_, rfl, h.advanceClock ?_⟩
    have := hfar _ _ rfl
    unfold clockLimit
    omega
  | popDue =>
    obtain ⟨entry, a', hpop⟩ : ∃ entry a', a.popDue = .ok (entry, a') := by
      rcases popDue_spec ha with ⟨-, hpop⟩ | ⟨_, _, _, hpop, -⟩
      · exact ⟨_, _, hpop⟩
      · exact ⟨_, _, hpop⟩
    obtain ⟨b', hpop', h'⟩ := h.popDue ha hpop
    rw [TimerHeap.perform, hpop] at hperf
    cases hperf
    exact ⟨b', by rw [TimerHeap.perform, hpop']; rfl, h'⟩
  | drain =>
    obtain ⟨entries, a', hdrain, -⟩ := popDueUpTo_spec a.inUse a ha
    obtain ⟨b', hdrain', h'⟩ := h.popDueUpTo a.inUse ha hdrain
    rw [TimerHeap.perform, TimerHeap.drain, hdrain] at hperf
    cases hperf
    exact ⟨b', by rw [TimerHeap.perform, TimerHeap.drain, h.inUse, hdrain']; rfl, h'⟩
  | rebase => exact absurd rfl hrebase
  | isScheduled id =>
    have hid' : id < b.objects.size := by rw [h.size_objects]; exact hr
    rw [TimerHeap.perform, isScheduled_eq hr] at hperf
    cases hperf
    exact ⟨b, by rw [TimerHeap.perform, isScheduled_eq hid', h.slot]; rfl, h⟩
  | isPending id =>
    have hid' : id < b.objects.size := by rw [h.size_objects]; exact hr
    rw [TimerHeap.perform, isPending_eq hr] at hperf
    cases hperf
    exact ⟨b, by rw [TimerHeap.perform, isPending_eq hid', h.pending]; rfl, h⟩
  | survey =>
    cases hperf
    refine ⟨b, ?_, h⟩
    have hcapacity : b.capacity = a.capacity := congrArg (· - 1) h.size_slots
    rw [TimerHeap.perform, hcapacity, h.objectsWhere fun x y hslot _ => by rw [hslot],
      h.objectsWhere fun x y _ hpending => hpending]
    rfl

/-! ## Whole runs -/

/-- The outcomes of two runs of the same requests, of which only the first one rebases: where it does
not, both heaps give the same answer, and they are the same after it but for the base of the clock. In
particular there are as many objects in both, in the same slots, and the tick counter is the same. -/
inductive Agree :
    List Request → List (Checked (Answer × TimerHeap)) → List (Checked (Answer × TimerHeap)) → Prop
  | nil : Agree [] [] []
  | rebased {heap : TimerHeap} {requests outcomes others} (rest : Agree requests outcomes others) :
    Agree (.rebase :: requests) (.ok (.done, heap) :: outcomes) others
  | answered {request : Request} {answer : Answer} {a b : TimerHeap} {requests outcomes others}
    (hrequest : request ≠ .rebase) (same : SameButClock a b) (rest : Agree requests outcomes others) :
    Agree (request :: requests) (.ok (answer, a) :: outcomes) (.ok (answer, b) :: others)

/-- The requests without the rebases. -/
def unrebased (requests : List Request) : List Request := requests.filter (· ≠ .rebase)

theorem Trails.performAll : ∀ (requests : List Request) {d : Nat} {a b : TimerHeap} {settled : Bool},
    Trails d a b → a.WellFormed → 2 ≤ a.maxTick → (settled = true → a.Idle) →
    a.Permitted settled requests →
    (∀ answer next, .ok (answer, next) ∈ b.performAll (unrebased requests) →
      next.clock + a.maxTick ≤ UInt64.size) →
    Agree requests (a.performAll requests) (b.performAll (unrebased requests))
  | [], _, _, _, _, _, _, _, _, _, _ => .nil
  | request :: requests, d, a, b, settled, h, ha, hmax, hidle, hp, hfar => by
    obtain ⟨answer, next, hperf, hnext, hs, hidle'⟩ := perform_spec ha hmax hidle hp.1
    have hrest := hp.2
    have hmax' : 2 ≤ next.maxTick := by rw [hs.maxTick]; exact hmax
    rw [hperf] at hrest
    rw [TimerHeap.performAll, hperf]
    by_cases hrequest : request = .rebase
    · subst hrequest
      have hsame : unrebased (.rebase :: requests) = unrebased requests := rfl
      rw [hsame] at hfar ⊢
      rw [← hs.maxTick] at hfar
      rcases rebase_spec ha (hidle hp.1) with ⟨-, hreb⟩ | ⟨-, a', hreb, hb⟩
      · rw [TimerHeap.perform, hreb] at hperf
        cases hperf
        exact .rebased (Trails.performAll requests h hnext hmax' hidle' hrest hfar)
      · rw [TimerHeap.perform, hreb] at hperf
        cases hperf
        exact .rebased
          (Trails.performAll requests (h.rebased (hidle hp.1) hb) hnext hmax' hidle' hrest hfar)
    · have hkept : unrebased (request :: requests) = request :: unrebased requests :=
        List.filter_cons_of_pos (decide_eq_true hrequest)
      rw [hkept] at hfar ⊢
      rw [TimerHeap.performAll] at hfar ⊢
      obtain ⟨next', hperf', h'⟩ := h.perform ha hmax hp.1 hrequest hperf fun answer' next' hperf' =>
        hfar answer' next' (by rw [hperf']; exact List.mem_cons_self ..)
      rw [hperf'] at hfar ⊢
      refine .answered hrequest h'.sameButClock
        (Trails.performAll requests h' hnext hmax' hidle' hrest fun answer' last hmem => ?_)
      rw [hs.maxTick]
      exact hfar answer' last (List.mem_cons_of_mem _ hmem)

/-- Two new heaps built alike, of which one rebases whenever a run that keeps the rules asks for it, after
any of the `popDue` requests that find nothing, and the other one never does, give the same answers to all
other requests, if the clock of the latter stays `maxTick` ticks away from its limit. -/
theorem performAll_unrebased (objects capacity maxTick : Nat) (hmax : 2 ≤ maxTick)
    (requests : List Request) (hp : (ofSize objects capacity maxTick).Permitted false requests)
    (hclock : ∀ answer heap,
      .ok (answer, heap) ∈ (ofSize objects capacity maxTick).performAll (unrebased requests) →
      heap.clock + maxTick ≤ UInt64.size) :
    Agree requests ((ofSize objects capacity maxTick).performAll requests)
      ((ofSize objects capacity maxTick).performAll (unrebased requests)) :=
  (Trails.refl _).performAll requests (ofSize_wellFormed objects capacity maxTick) hmax
    (fun hf => Bool.noConfusion hf) hp hclock

/-- Objects that are started before and after a rebase and are due at one tick. -/
def ties : List Request :=
  [.start 0 4 (.wakeTask ⟨0⟩), .advanceClock 3, .start 1 3 (.wakeTask ⟨1⟩), .start 2 3 (.fireTimer ⟨0⟩),
    .advanceClock 2, .popDue, .popDue, .rebase, .start 3 1 (.fireTimer ⟨1⟩), .advanceClock 1, .popDue,
    .isScheduled 3, .popDue, .popDue, .popDue, .rebase, .survey]

theorem ties_unrebased : 2 ≤ 5 ∧ (ofSize 4 4 5).Permitted false ties ∧
    (∀ answer heap, .ok (answer, heap) ∈ (ofSize 4 4 5).performAll (unrebased ties) →
      heap.clock + 5 ≤ UInt64.size) ∧
    Agree ties ((ofSize 4 4 5).performAll ties) ((ofSize 4 4 5).performAll (unrebased ties)) :=
  have permitted : (ofSize 4 4 5).Permitted false ties := by decide +kernel
  have below : ((ofSize 4 4 5).performAll (unrebased ties)).all (fun outcome =>
      outcome.toOption.all fun done => decide (done.2.clock + 5 ≤ UInt64.size)) = true := by
    decide +kernel
  have clock : ∀ answer heap, .ok (answer, heap) ∈ (ofSize 4 4 5).performAll (unrebased ties) →
      heap.clock + 5 ≤ UInt64.size :=
    fun _ _ hmem => of_decide_eq_true (List.all_eq_true.1 below _ hmem)
  ⟨by decide, permitted, clock, performAll_unrebased 4 4 5 (by decide) ties permitted clock⟩

end Executive.TimerHeap
