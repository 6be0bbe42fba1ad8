/-
What one delivery of ticks does while nothing else happens. It ends unless its clock has come to the
end and a periodic timer is scheduled, and it visits each due object once, in the order of the due
ticks, doing every action whether or not an earlier one failed (`run_delivers_ticks`).

A delivery is a move that begins it, followed by rounds of doing the action in hand and taking out
the next object. `drain_cases` says what any number of rounds comes to, as a drain of the kernel.
-/
import Executive.Proofs.Kernel.Drain
import Executive.Proofs.Timekeeping

namespace Executive

open Kernel
open TimerHeap (clockLimit)

/-! ## Deeds -/

/-- Something that a delivery does. -/
inductive Deed where
  /-- It takes out an object. -/
  | expired (object : ObjectId)
  /-- It does an action, which gives signals. -/
  | done (action : TimerAction) (signals : List Signal)
  deriving DecidableEq, Repr

/-- The deed that a signal tells of. -/
def Deed.told? : Signal → Option Deed
  | .report (.objectExpired object _) => some (.expired object)
  | _ => none

/-- An object is taken out and its action is done. -/
def Visit.deeds (visit : Visit) : List Deed :=
  [.expired visit.object, .done visit.action visit.signals]

namespace System

variable {system base last : System} {signals : List Signal} {t : Section} {move : Move}
  {moves : List Move} {answer : Answer} {a b : Kernel} {deliveries : List (Option TimerAction)}

/-! ## The moves of a delivery -/

/-- The latest delivery does the action it has in hand and takes out the next object, `n` times. -/
def rounds : (n : Nat) → List Move
  | 0 => []
  | n + 1 => .act 0 :: .proceed 0 :: rounds n

/-- A delivery of ticks in `n` rounds, with no other move in between. -/
def delivery (delta n : Nat) : List Move := .advance delta :: rounds n

/-- The deeds of one move. -/
def deedsOf (system : System) (signals : List Signal) : Move → List Deed
  | .act i =>
    match system.deliveries[i]? with
    | some (some action) => [.done action signals]
    | _ => []
  | _ => signals.filterMap Deed.told?

/-- The deeds so far after a move. -/
def noteDeeds (system : System) (move : Move) (_ : Answer) (signals : List Signal) (_ : System)
    (deeds : List Deed) : List Deed :=
  deeds ++ system.deedsOf signals move

/-- The deeds of a run, in their order. -/
def deeds (system : System) (moves : List Move) : List Deed := recount noteDeeds system moves []

/-- A run that leads to a system, and its deeds. -/
def Walks (system : System) (moves : List Move) (deeds : List Deed) (last : System) : Prop :=
  system.run moves = .ok last ∧ ∀ earlier, recount noteDeeds system moves earlier = earlier ++ deeds

theorem Walks.nil (system : System) : Walks system [] [] system :=
  ⟨rfl, fun earlier => (List.append_nil earlier).symm⟩

theorem Walks.cons {next : System} {rest : List Deed}
    (hobserve : system.observe move = .ok (answer, signals, next)) (h : Walks next moves rest last) :
    Walks system (move :: moves) (system.deedsOf signals move ++ rest) last := by
  refine ⟨(run_cons hobserve moves).trans h.1, fun earlier => ?_⟩
  rw [recount_cons hobserve, noteDeeds, h.2, List.append_assoc]

/-! ## Sections in the course of a delivery -/

theorem enter_nextDue {object : ObjectId} {action : TimerAction} {heap : TimerHeap}
    (hpop : a.heap.popDue = .ok (some (object, action), heap))
    (deliveries : List (Option TimerAction)) :
    (base.put a deliveries).enter nextDue = .ok (some action,
      [.report (.objectExpired object heap.clock)], base.put (a.setHeap heap) deliveries) := by
  have hends : nextDue.Ends { kernel := a } fun r t => r = some action ∧
      t = ⟨a.setHeap heap, [.report (.objectExpired object heap.clock)]⟩ := by
    simp only [nextDue, Critical.ends_bind, Critical.ends_kernel, Critical.ends_liftM]
    exact ⟨_, hpop, by simp⟩
  obtain ⟨_, _, henter, rfl, rfl⟩ := @enter_of_ends (base.put a deliveries) _ _ _ hends
  exact henter

theorem enter_nextDue_idle (h : a.WellFormed) (hidle : a.heap.Idle) (base : System) :
    ∃ t, NextDue { kernel := a } none t ∧ ∀ deliveries, (base.put a deliveries).enter nextDue =
      .ok (none, t.signals, base.put t.kernel deliveries) := by
  obtain ⟨next, t, hrun, -, hnext⟩ := nextDue_spec (s := { kernel := a }) h
  have henter (deliveries : List (Option TimerAction)) : (base.put a deliveries).enter nextDue =
      .ok (next, t.signals, t.signals.foldl obey (base.put t.kernel deliveries)) := by
    show (nextDue.run { kernel := a } >>= _) = _
    rw [hrun]; rfl
  cases hnext with
  | popped hpop =>
    have hahead := hidle _ hpop.scheduled
    have hdue := hpop.due
    exact absurd hdue (Nat.not_le.2 hahead)
  | idle hidle' hclock => exact ⟨_, .idle hidle' hclock, henter⟩
  | rebased hidle' hclock hrebase => exact ⟨_, .rebased hidle' hclock hrebase, henter⟩

/-- A delivery with no action in hand takes out the next due object. -/
theorem proceed_eq {object : ObjectId} {action : TimerAction} {heap : TimerHeap}
    (hpop : a.heap.popDue = .ok (some (object, action), heap)) :
    (base.put a [none]).proceed 0 = .ok (some action, [.report (.objectExpired object heap.clock)],
      base.put (a.setHeap heap) [some action]) := by
  have hdelivery : (base.put a [none]).deliveries[0]? = some none := rfl
  simp only [proceed, hdelivery, enter_nextDue hpop]
  rfl

/-- It ends if nothing is due. -/
theorem proceed_idle (henter : ∀ deliveries, (base.put a deliveries).enter nextDue =
    .ok (none, t.signals, base.put t.kernel deliveries)) :
    (base.put a [none]).proceed 0 = .ok (none, t.signals, base.put t.kernel []) := by
  have hdelivery : (base.put a [none]).deliveries[0]? = some none := rfl
  simp only [proceed, hdelivery, henter]
  rfl

theorem observe_proceed {i : Nat} {next : Option TimerAction}
    (h : system.proceed i = .ok (next, signals, last)) :
    system.observe (.proceed i) = .ok (.due next, signals, last) := by
  simp only [observe, h]; rfl

/-- The action in hand is done. -/
theorem observe_act {action : TimerAction} (hact : (runAction action).run { kernel := a } = .ok ((), t)) :
    (base.put a [some action]).observe (.act 0) =
      .ok (.acted, t.signals, (t.signals.foldl obey base).put t.kernel [none]) := by
  have henter : (base.put a [none]).enter (runAction action) =
      .ok ((), t.signals, t.signals.foldl obey (base.put t.kernel [none])) := by
    show ((runAction action).run { kernel := a } >>= _) = _
    rw [hact]; rfl
  rw [foldl_obey_put] at henter
  have hdelivery : (base.put a [some action]).deliveries[0]? = some (some action) := rfl
  simp only [observe, act, hdelivery]
  show ((base.put a [none]).enter (runAction action) >>= _) >>= _ = _
  rw [henter]; rfl

/-- A delivery begins like one that goes on from a later clock. -/
theorem observe_advance (hwf : system.WellFormed) (hquiet : system.deliveries = []) (delta : Nat) :
    system.observe (.advance delta) =
      (system.put (system.kernel.ticked delta) [none]).observe (.proceed 0) := by
  have hsystem : system = system.put system.kernel [] := by rw [← hquiet]; rfl
  have hsection : system.enter (Kernel.beginAdvance delta) =
      (system.put (system.kernel.ticked delta) []).enter nextDue := by
    rw [hsystem]; rfl
  have hkernel : (system.kernel.ticked delta).WellFormed := hwf.kernel.advanceClock delta
  have hbegin : system.beginAdvance delta =
      (system.put (system.kernel.ticked delta) [none]).proceed 0 := by
    unfold System.beginAdvance
    rw [hsection]
    by_cases hidle : (system.kernel.ticked delta).heap.Idle
    · obtain ⟨t, -, henter⟩ := enter_nextDue_idle hkernel hidle system
      rw [proceed_idle henter, henter]
      rfl
    · obtain ⟨_, _, hpop, -⟩ := exists_visit hkernel hidle
      rw [proceed_eq hpop, enter_nextDue hpop]
      rfl
  simp only [observe, hbegin]

/-! ## Any number of rounds -/

/-- Without a delivery, rounds come to nothing. -/
theorem walks_rounds (hquiet : system.deliveries = []) (n : Nat) :
    Walks system (rounds n) [] system := by
  induction n with
  | zero => exact .nil system
  | succ n ih =>
    have hnone : system.deliveries[0]? = none := by rw [hquiet]; rfl
    have hact : system.observe (.act 0) = .ok (.acted, [], system) := by
      simp only [observe, act, hnone]; rfl
    have hproceed : system.observe (.proceed 0) = .ok (.due none, [], system) := by
      simp only [observe, proceed, hnone]; rfl
    have hwalks := Walks.cons hact (.cons hproceed ih)
    simp only [deedsOf, hnone, List.filterMap_nil, List.append_nil] at hwalks
    exact hwalks

/-- A delivery with nothing due ends, whatever rounds follow. -/
theorem walks_idle (h : a.WellFormed) (hidle : a.heap.Idle) (base : System) (n : Nat) :
    ∃ t, NextDue { kernel := a } none t ∧
      Walks (base.put a [none]) (.proceed 0 :: rounds n) [] (base.put t.kernel []) := by
  obtain ⟨t, hnext, henter⟩ := enter_nextDue_idle h hidle base
  have hwalks := Walks.cons (observe_proceed (proceed_idle henter)) (walks_rounds rfl n)
  have hdeeds : (base.put a [none]).deedsOf t.signals (.proceed 0) = [] := by
    cases hnext with
    | idle | rebased => rfl
  rw [hdeeds] at hwalks
  exact ⟨t, hnext, hwalks⟩

/-- After any number of rounds a delivery has ended with nothing due, or each round was a visit and
another object is in hand. -/
theorem drain_cases (n : Nat) : ∀ (base : System) (a : Kernel), a.WellFormed →
    (∃ visits b t, Drains a visits b ∧ b.heap.Idle ∧ NextDue { kernel := b } none t ∧
      Walks (base.put a [none]) (.proceed 0 :: rounds n) (visits.flatMap Visit.deeds)
        (((visits.flatMap (·.signals)).foldl obey base).put t.kernel [])) ∨
    ∃ visits b deeds last, Drains a visits b ∧ visits.length = n ∧ ¬ b.heap.Idle ∧
      Walks (base.put a [none]) (.proceed 0 :: rounds n) deeds last ∧ last.deliveries ≠ [] := by
  induction n with
  | zero =>
    intro base a h
    by_cases hidle : a.heap.Idle
    · obtain ⟨t, hnext, hwalks⟩ := walks_idle h hidle base 0
      exact Or.inl ⟨[], a, t, .rest a, hidle, hnext, hwalks⟩
    · obtain ⟨_, _, @⟨_, _, _, _, hpop, -⟩⟩ := exists_visit h hidle
      have hwalks := Walks.cons (observe_proceed (proceed_eq hpop)) (.nil (base.put _ [some _]))
      exact Or.inr ⟨[], a, _, _, .rest a, rfl, hidle, hwalks, nofun⟩
  | succ n ih =>
    intro base a h
    by_cases hidle : a.heap.Idle
    · obtain ⟨t, hnext, hwalks⟩ := walks_idle h hidle base (n + 1)
      exact Or.inl ⟨[], a, t, .rest a, hidle, hnext, hwalks⟩
    · obtain ⟨_, _, hvisit⟩ := exists_visit h hidle
      have hwf := (hvisit.spec h).1
      have hdrains {visits : List Visit} {c : Kernel} (hrest : Drains _ visits c) :=
        Drains.visit hvisit hrest
      obtain @⟨object, action, heap, t, hpop, hact⟩ := hvisit
      -- a round is a visit, and the other rounds go on from there
      have hround {deeds : List Deed} {last : System}
          (hrest : Walks ((t.signals.foldl obey base).put t.kernel [none]) (.proceed 0 :: rounds n)
            deeds last) : Walks (base.put a [none]) (.proceed 0 :: rounds (n + 1))
              (Visit.deeds { object, action, signals := t.signals } ++ deeds) last :=
        .cons (observe_proceed (proceed_eq hpop)) (.cons (observe_act hact) hrest)
      rcases ih (t.signals.foldl obey base) t.kernel hwf with
        ⟨visits, b, u, hd, hidle', hnext, hwalks⟩ | ⟨visits, b, deeds, last, hd, hlen, hdue, hwalks, hlast⟩
      · refine Or.inl ⟨_, b, u, hdrains hd, hidle', hnext, ?_⟩
        have hall := hround hwalks
        rwa [← List.foldl_append] at hall
      · exact Or.inr ⟨_, b, _, last, hdrains hd, congrArg (· + 1) hlen, hdue, hround hwalks, hlast⟩

/-! ## One delivery -/

/-- Object `id` is `delta` ticks nearer to the clock in heap `b` than in heap `a`. -/
structure Nearer (delta : Nat) (id : ObjectId) (a b : TimerHeap) : Prop where
  scheduled : (b.object id).slot = 0 ↔ (a.object id).slot = 0
  action : (b.object id).action = (a.object id).action
  pending : (b.object id).pending = (a.object id).pending
  wake : (a.object id).slot ≠ 0 →
    (b.object id).wake + (a.clock + delta) = (a.object id).wake + b.clock

/-- What a delivery of `delta` ticks comes to that visited some objects. -/
structure Advanced (before : System) (delta : Nat) (visits : List Visit) (after : System) : Prop where
  /-- No object is taken out twice. -/
  nodup : (visits.map (·.object)).Nodup
  /-- What is taken out is what was scheduled for a clock value that has come. -/
  mem_iff : ∀ object, object ∈ visits.map (·.object) ↔
    (before.kernel.heap.object object).slot ≠ 0 ∧
      (before.kernel.heap.object object).wake ≤ before.kernel.clockAfter delta
  ordered : visits.Pairwise fun v w =>
    (before.kernel.heap.object v.object).wake ≤ (before.kernel.heap.object w.object).wake
  armed : ∀ v ∈ visits, (before.kernel.heap.object v.object).action = some v.action
  aftermath : ∀ v ∈ visits, Aftermath (before.kernel.clockAfter delta) before.kernel after.kernel
    v.object v.action v.signals
  nearer : ∀ object, object ∉ visits.map (·.object) →
    Nearer delta object before.kernel.heap after.kernel.heap
  timer : ∀ id, before.kernel.timerObject id ∉ visits.map (·.object) →
    after.kernel.timers[id.index]? = before.kernel.timers[id.index]?
  ahead : ∀ object, (after.kernel.heap.object object).slot ≠ 0 →
    after.kernel.heap.clock < (after.kernel.heap.object object).wake
  clock_lt : after.kernel.heap.clock < after.kernel.heap.maxTick

theorem Timed.ticking (h : system.Timed) (hwf : system.WellFormed) (delta : Nat) :
    (system.kernel.ticked delta).Ticking :=
  ⟨hwf.kernel.advanceClock delta, h.sound, h.live, Nat.min_le_right ..⟩

theorem advanced_of_drains {delta : Nat} {visits : List Visit} (h : system.Timed)
    (hwf : system.WellFormed) (hends : ¬ (system.kernel.ticked delta).Endless)
    (hdrains : Drains (system.kernel.ticked delta) visits b) (hidle : b.heap.Idle)
    (hnext : NextDue { kernel := b } none t) (hlast : last.kernel = t.kernel) :
    Advanced system delta visits last := by
  obtain ⟨hticking, -, hclock, hdrained⟩ := hdrains.spec (h.ticking hwf delta) hends
  obtain ⟨hahead, hlt⟩ := hnext.quiet hticking.wellFormed
  have hmem := hdrained.mem_iff hclock hidle
  have hended := hdrained.ended hnext
  rw [← hlast] at hahead hlt hended
  refine ⟨hended.nodup, hmem, hended.ordered, hended.armed, fun v hv => ?_, fun j hj => ?_,
    hended.timer, hahead, hlt⟩
  · have hafter := hended.aftermath v hv
    have hget : ∀ id, v.action = .fireTimer id →
        (system.kernel.ticked delta).timers.get id = system.kernel.timers.get id := fun _ _ => rfl
    exact .of_get hget rfl hafter
  · have hlead := hended.lead j hj
    refine ⟨hlead.scheduled, hlead.action, hlead.pending, fun hslot => ?_⟩
    -- what stays scheduled is due later, so that the clock has not come to its end
    have hwake : (system.kernel.heap.object j).wake ≤ clockLimit := (h.sound j hslot).2
    have hlater : system.kernel.clockAfter delta < (system.kernel.heap.object j).wake :=
      Nat.not_le.1 fun hdue => hj ((hmem j).2 ⟨hslot, hdue⟩)
    have heq : (last.kernel.heap.object j).wake + system.kernel.clockAfter delta =
        (system.kernel.heap.object j).wake + last.kernel.heap.clock := hlead.wake hslot
    unfold clockAfter at hlater heq
    omega

/-- A delivery goes like a drain of the kernel at the later clock. -/
theorem walks_delivery {delta n : Nat} {deeds : List Deed} (hwf : system.WellFormed)
    (hquiet : system.deliveries = [])
    (h : Walks (system.put (system.kernel.ticked delta) [none]) (.proceed 0 :: rounds n) deeds last) :
    Walks system (delivery delta n) deeds last := by
  have hobserve := observe_advance hwf hquiet delta
  constructor
  · rw [← h.1]
    unfold run delivery
    rw [List.foldlM_cons, List.foldlM_cons, step_eq, step_eq, hobserve]
  · intro earlier
    rw [← h.2]
    unfold delivery recount
    rw [hobserve]
    rfl

/-- A delivery ends after some number of rounds unless its drain is endless. -/
theorem exists_delivery (delta : Nat) (h : system.Timed) (hwf : system.WellFormed)
    (hquiet : system.deliveries = []) (hends : ¬ (system.kernel.ticked delta).Endless) :
    ∃ n visits b t, Drains (system.kernel.ticked delta) visits b ∧ b.heap.Idle ∧
      NextDue { kernel := b } none t ∧ Walks system (delivery delta n) (visits.flatMap Visit.deeds)
        (((visits.flatMap (·.signals)).foldl obey system).put t.kernel []) := by
  have hticking := h.ticking hwf delta
  -- there are no more visits than objects
  rcases drain_cases ((system.kernel.ticked delta).heap.objects.size + 1) system _ hticking.wellFormed with
    ⟨visits, b, t, hdrains, hidle, hnext, hwalks⟩ | ⟨visits, b, _, _, hdrains, hlength, -, -, -⟩
  · exact ⟨_, visits, b, t, hdrains, hidle, hnext, walks_delivery hwf hquiet hwalks⟩
  · have hle := (hdrains.spec hticking hends).2.2.2.length_le
    omega

/-- A run of a valid configuration in which no delivery is in progress, and any number of ticks. Their
delivery, with no other move in between, comes to an end unless its clock is at the end of its range
and a periodic timer is scheduled. If it ends, it has taken out each object whose due tick has come,
once and in the order of the due ticks, and it has done every action at once, also after others had
failed. A sleep is over then, a timer without a period has fired and is off the heap, and one with a
period is scheduled as many ticks ahead as the range of the clock leaves of the period. Any other
object is as many ticks nearer, nothing is due, and the clock is below its bound. -/
theorem run_delivers_ticks {config : Config} (h : config.fault? = none) (moves : List Move) :
    ∃ system, run { kernel := .ofConfig config } moves = .ok system ∧ (system.deliveries = [] → ∀ delta,
      ((∃ n last, system.run (delivery delta n) = .ok last ∧ last.deliveries = []) ↔
        ¬ (system.kernel.clockAfter delta = clockLimit ∧ ∃ id period,
          system.kernel.Scheduled id ∧ system.kernel.Running id (some period))) ∧
      ∀ n, ∃ last, system.run (delivery delta n) = .ok last ∧ (last.deliveries = [] →
        ∃ visits, system.deeds (delivery delta n) = visits.flatMap Visit.deeds ∧
          Advanced system delta visits last)) := by
  obtain ⟨system, hrun, hwf, -, htimed⟩ := run_timed h moves
  refine ⟨system, hrun, fun hquiet delta => ?_⟩
  have hticking := htimed.ticking hwf delta
  have hcases (n : Nat) := drain_cases n system _ hticking.wellFormed
  refine ⟨⟨?_, fun hends => ?_⟩, fun n => ?_⟩
  · rintro ⟨n, last, hlast, hnone⟩ hendless
    rcases hcases n with ⟨visits, b, t, hdrains, hidle, -, -⟩ | ⟨_, _, _, other, -, -, -, hwalks, hbusy⟩
    · obtain ⟨hb, hstill⟩ := hdrains.endless hticking hendless
      exact hstill.not_idle hb.sound hidle
    · have heq := (walks_delivery hwf hquiet hwalks).1
      rw [hlast] at heq
      cases heq
      exact hbusy hnone
  · obtain ⟨n, _, _, _, -, -, -, hwalks⟩ := exists_delivery delta htimed hwf hquiet hends
    exact ⟨n, _, hwalks.1, rfl⟩
  · rcases hcases n with ⟨visits, b, t, hdrains, hidle, hnext, hwalks⟩ | ⟨_, _, _, last, -, -, -, hwalks, hbusy⟩
    · have hdelivery := walks_delivery hwf hquiet hwalks
      refine ⟨_, hdelivery.1, fun _ => ⟨visits, hdelivery.2 [], ?_⟩⟩
      refine advanced_of_drains htimed hwf (fun hendless => ?_) hdrains hidle hnext rfl
      obtain ⟨hb, hstill⟩ := hdrains.endless hticking hendless
      exact hstill.not_idle hb.sound hidle
    · exact ⟨last, (walks_delivery hwf hquiet hwalks).1, fun hnone => absurd hnone hbusy⟩

/-- A timer posts to a queue that is not there, and a periodic one is due after it. -/
def failing : List Move :=
  [.call (.allocateTask "task" {}), .call (.createTimer (.message ⟨1⟩ 7)),
    .call (.createTimer (.event ⟨1⟩ 1)), .call (.startTimer ⟨0⟩ 1 none),
    .call (.startTimer ⟨1⟩ 2 (some 4))]

/-- What the delivery of 3 ticks then does. -/
def failingDeeds : List Deed :=
  [.expired 2, .done (.fireTimer ⟨0⟩)
      [.report (.timerFired ⟨0⟩), .report (.timerFailed ⟨0⟩ (.invalidQueue ⟨1⟩))],
    .expired 3, .done (.fireTimer ⟨1⟩)
      [.report (.objectArmed 3 7 3), .report (.timerFired ⟨1⟩), .report (.eventsPosted ⟨1⟩ 1 1)]]

/-- The failure of the first timer does not keep the second one from firing. -/
theorem failing_delivers_ticks : roomy.fault? = none ∧
    ∃ system last, run { kernel := .ofConfig roomy } failing = .ok system ∧
      system.run (delivery 3 2) = .ok last ∧ last.deliveries = [] ∧
      ∃ visits, failingDeeds = visits.flatMap Visit.deeds ∧ Advanced system 3 visits last := by
  have hvalid : roomy.fault? = none := by decide
  obtain ⟨system, hrun, hdelivers⟩ := run_delivers_ticks hvalid failing
  have hbefore : (run { kernel := .ofConfig roomy } failing).toOption.map
      (fun system => (system.deliveries, system.deeds (delivery 3 2))) = some ([], failingDeeds) := by
    decide +kernel
  rw [hrun] at hbefore
  obtain ⟨hquiet, hdeeds⟩ := Prod.mk.inj (Option.some.inj hbefore)
  obtain ⟨last, hlast, hadvanced⟩ := (hdelivers hquiet 3).2 2
  have hends : (run { kernel := .ofConfig roomy } failing >>= (·.run (delivery 3 2))).toOption.map
      (·.deliveries) = some [] := by decide +kernel
  obtain ⟨_, hlast', hended⟩ := exists_of_run hrun hends
  rw [hlast] at hlast'
  cases hlast'
  obtain ⟨visits, htold, hall⟩ := hadvanced hended
  exact ⟨hvalid, system, last, hrun, hlast, hended, visits, hdeeds.symm.trans htold, hall⟩

/-- A timer with a period of 5 ticks is started. -/
def periodic : List Move :=
  [.call (.allocateTask "task" {}), .call (.createTimer (.event ⟨1⟩ 1)),
    .call (.startTimer ⟨0⟩ 1 (some 5))]

/-- A delivery that comes to one tick before the end of the clock leaves the timer scheduled 1 tick
ahead, and not its period. -/
theorem periodic_cut_short : small.fault? = none ∧
    ∃ system last, run { kernel := .ofConfig small } periodic = .ok system ∧
      system.deliveries = [] ∧ system.run (delivery (clockLimit - 1) 1) = .ok last ∧
      last.deliveries = [] ∧ last.kernel.Running ⟨0⟩ (some 5) ∧ last.kernel.Scheduled ⟨0⟩ ∧
      (last.kernel.heap.object (last.kernel.timerObject ⟨0⟩)).wake ≠
        last.kernel.heap.clock + small.span 5 := by
  obtain ⟨system, hrun, -⟩ := run_wellFormed (show small.fault? = none by decide) periodic
  have hquiet : (run { kernel := .ofConfig small } periodic).toOption.map (·.deliveries) = some [] := by
    decide +kernel
  have hends : (run { kernel := .ofConfig small } periodic >>=
      (·.run (delivery (clockLimit - 1) 1))).toOption.map (fun last => (last.deliveries,
        last.kernel.timers.get ⟨0⟩, last.kernel.heap.object (last.kernel.timerObject ⟨0⟩),
        last.kernel.heap.clock)) = some ([],
          .ok { target := .event ⟨1⟩ 1, phase := .active (some 5) },
          { slot := 1, wake := 1, action := some (.fireTimer ⟨0⟩), pending := true }, 0) := by
    decide +kernel
  rw [hrun] at hquiet
  obtain ⟨last, hlast, hstate⟩ := exists_of_run hrun hends
  obtain ⟨hended, hget, hobject, hclock⟩ := by simpa only [Prod.mk.injEq] using hstate
  refine ⟨by decide, system, last, hrun, Option.some.inj hquiet, hlast, hended, ⟨_, hget⟩, ?_, ?_⟩
  · unfold Scheduled
    rw [hobject]
    decide
  · rw [hobject, hclock]
    decide

end System

end Executive
