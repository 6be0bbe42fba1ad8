/-
Ticks may be delivered together or one part after the other. As long as no timer with a period is
scheduled, both ways do the same deeds in the same order and end in systems that differ at most in the
base of the clock (`run_coalesces_ticks`).

Two kernels that differ in their heaps only, of which the one is a number of ticks behind the other
(`Alongside`), visit the same objects, since what is done on a visit does not look at the heap.
-/
import Executive.Proofs.Drain
import Executive.Proofs.TimerHeap.Shift

namespace Executive

open TimerHeap (clockLimit)

/-- A section with another timer heap. -/
def Section.withHeap (s : Section) (heap : TimerHeap) : Section := ⟨s.kernel.setHeap heap, s.signals⟩

namespace Kernel

/-! ## Sections that do not look at the heap -/

section Sections

variable {s t t' : Section} {r r' : Except Error Unit} {heap : TimerHeap}

theorem EventsPosted.withHeap {id : TaskId} {bits : EventBits} (h : EventsPosted id bits s r t)
    (h' : EventsPosted id bits (s.withHeap heap) r' t') : r' = r ∧ t' = t.withHeap heap := by
  have hsame : (s.withHeap heap).kernel.tasks.get id = s.kernel.tasks.get id := rfl
  cases h with
  | refused hget =>
    cases h' with
    | refused hget' =>
      rw [hsame, hget] at hget'
      cases hget'
      exact ⟨rfl, rfl⟩
    | posted hget' =>
      rw [hsame, hget] at hget'
      cases hget'
  | posted hget =>
    cases h' with
    | refused hget' =>
      rw [hsame, hget] at hget'
      cases hget'
    | posted hget' =>
      rw [hsame, hget] at hget'
      cases hget'
      exact ⟨rfl, rfl⟩

theorem BoundPosted.withHeap {binding : Option Binding} (h : BoundPosted binding s r t)
    (h' : BoundPosted binding (s.withHeap heap) r' t') :
    r' = r ∧ t' = t.withHeap heap := by
  cases binding with
  | none =>
    obtain ⟨rfl, rfl⟩ := h
    exact h'
  | some binding => exact EventsPosted.withHeap h h'

theorem MessagePosted.withHeap {id : QueueId} {message : Message} {mode : PostMode}
    (h : MessagePosted id message mode s r t)
    (h' : MessagePosted id message mode (s.withHeap heap) r' t') :
    r' = r ∧ t' = t.withHeap heap := by
  have hsame : (s.withHeap heap).kernel.queues = s.kernel.queues := rfl
  cases h with
  | refused hpush =>
    cases h' with
    | refused hpush' =>
      rw [hsame, hpush] at hpush'
      cases hpush'
      exact ⟨rfl, rfl⟩
    | pushed _ _ hpush' =>
      rw [hsame, hpush] at hpush'
      cases hpush'
  | pushed hget _ hpush hbound =>
    cases h' with
    | refused hpush' =>
      rw [hsame, hpush] at hpush'
      cases hpush'
    | pushed hget' _ hpush' hbound' =>
      rw [hsame, hget] at hget'
      cases hget'
      rw [hsame, hpush] at hpush'
      have hlt := QueueTable.lt_size_of_get hget
      have htables := Except.ok.inj (Except.ok.inj hpush')
      obtain ⟨hqueue, rfl⟩ := QueueTable.put_inj hlt htables
      obtain rfl := congrArg Queue.chain hqueue
      exact hbound.withHeap hbound'

theorem ActedOn.withHeap {target : TimerTarget} (h : ActedOn target s r t)
    (h' : ActedOn target (s.withHeap heap) r' t') : r' = r ∧ t' = t.withHeap heap := by
  cases target with
  | event task events => exact EventsPosted.withHeap h h'
  | message queue message => exact MessagePosted.withHeap h h'

/-- A timer without a period fires alike on any heap that it is off. -/
theorem TimerFired.withHeap {id : TimerId} (h : TimerFired id s r t)
    (h' : TimerFired id (s.withHeap heap) r' t') (hoff : ¬ s.kernel.Scheduled id)
    (hoff' : ¬ (s.kernel.setHeap heap).Scheduled id) (honce : ∀ period, ¬ s.kernel.Running id (some period)) :
    r' = r ∧ t' = t.withHeap heap ∧ t.kernel.heap = s.kernel.heap := by
  have hsame : (s.withHeap heap).kernel.timers.get id = s.kernel.timers.get id := rfl
  cases h with
  | scheduled hscheduled => exact absurd hscheduled hoff
  | rearmed _ hget => exact absurd ⟨_, hget⟩ (honce _)
  | inactive hinactive =>
    cases h' with
    | scheduled hscheduled => exact absurd hscheduled hoff'
    | inactive => exact ⟨rfl, rfl, rfl⟩
    | expired _ hget => exact absurd hget (hinactive _ _)
    | rearmed _ hget => exact absurd hget (hinactive _ _)
  | expired _ hget hact =>
    cases h' with
    | scheduled hscheduled => exact absurd hscheduled hoff'
    | inactive hinactive => exact absurd hget (hinactive _ _)
    | rearmed _ hget' => exact absurd ⟨_, hget'⟩ (honce _)
    | expired _ hget' hact' =>
      rw [hsame, hget] at hget'
      cases hget'
      obtain ⟨hresult, hend⟩ := ActedOn.withHeap hact hact'
      exact ⟨hresult, hend, hact.keepsTimers.heap⟩

theorem ActionDone.withHeap {action : TimerAction} (h : ActionDone s action t)
    (h' : ActionDone (s.withHeap heap) action t')
    (hoff : ∀ id, action = .fireTimer id → ¬ s.kernel.Scheduled id ∧
      ¬ (s.kernel.setHeap heap).Scheduled id ∧ ∀ period, ¬ s.kernel.Running id (some period)) :
    t' = t.withHeap heap ∧ t.kernel.heap = s.kernel.heap := by
  cases h with
  | woken =>
    cases h' with
    | woken => exact ⟨rfl, rfl⟩
  | fired hfired =>
    obtain ⟨hoff, hoff', honce⟩ := hoff _ rfl
    cases h' with
    | fired hfired' => exact (hfired.withHeap hfired' hoff hoff' honce).2
    | failed hfired' => cases (hfired.withHeap hfired' hoff hoff' honce).1
  | failed hfired =>
    obtain ⟨hoff, hoff', honce⟩ := hoff _ rfl
    cases h' with
    | fired hfired' => cases (hfired.withHeap hfired' hoff hoff' honce).1
    | failed hfired' =>
      obtain ⟨heq, hend, hheap⟩ := hfired.withHeap hfired' hoff hoff' honce
      cases heq
      subst hend
      exact ⟨rfl, hheap⟩

end Sections

/-! ## Drains side by side -/

variable {d : Nat} {a b c a' : Kernel} {visit : Visit} {visits : List Visit}

/-- Kernel `b` is kernel `a` with a heap that is `d` ticks behind, and its clock is so at least. -/
structure Alongside (d : Nat) (a b : Kernel) : Prop where
  rest : b = a.setHeap b.heap
  shifted : TimerHeap.Shifted d a.heap b.heap
  clock_le : a.heap.clock + d ≤ b.heap.clock

theorem Alongside.wellFormed (h : Alongside d a b) (ha : a.WellFormed) : b.WellFormed := by
  rw [h.rest]
  refine ha.setHeap (h.shifted.wellFormed ha.heap) h.shifted.size_objects h.shifted.size_slots
    h.shifted.maxTick fun object action haction => ha.serves object action ?_
  rw [← haction, h.shifted.action]

theorem Visits.alongside (h : a.Ticking) (honce : ¬ a.Periodic) (hab : Alongside d a a')
    (hvisit : Visits a visit b) : ∃ b', Visits a' visit b' ∧ Alongside d b b' := by
  have hwf' := hab.wellFormed h.wellFormed
  have hclock := (hvisit.visited h).clock
  obtain @⟨object, action, heap, t, hpop, hact⟩ := hvisit
  obtain ⟨heap', hpop', hshifted⟩ := hab.shifted.popDue h.wellFormed.heap hab.clock_le hpop
  obtain ⟨hwf, hpopped⟩ := TimerHeap.Popped.of_popDue h.wellFormed.heap hpop
  obtain ⟨hwf₂, hpopped'⟩ := TimerHeap.Popped.of_popDue hwf'.heap hpop'
  have hserves := h.wellFormed.serves _ _ hpopped.armed
  have hin := h.wellFormed.removed hwf hpopped.toRemoved
  have hin' := hwf'.removed hwf₂ hpopped'.toRemoved
  have hkernel : a'.setHeap heap' = (a.setHeap heap).setHeap heap' := by
    rw [hab.rest]
    rfl
  have hdone := (runAction_spec (s := { kernel := a.setHeap heap }) hin hserves).of_run hact
  obtain ⟨_, t', hact', -, hdone'⟩ :=
    runAction_spec (s := { kernel := a'.setHeap heap' }) hin' (hwf'.serves _ _ hpopped'.armed)
  have hvisit' : Visits a' _ _ := .mk hpop' hact'
  rw [hkernel] at hdone'
  -- the object is off both heaps when its action is done
  obtain ⟨hend, hheap⟩ := ActionDone.withHeap hdone.2 hdone' fun id haction => by
    rw [haction] at hserves
    have hobject := h.wellFormed.eq_timerObject hserves
    have hscheduled : a.Scheduled id := by
      unfold Scheduled
      rw [← hobject]
      exact hpopped.scheduled
    have hoff : (heap.object (a.timerObject id)).slot = 0 := by rw [← hobject, hpopped.object]
    have hoff' : (heap'.object (a.timerObject id)).slot = 0 := by rw [← hobject, hpopped'.object]
    exact ⟨fun hon => hon hoff, fun hon => hon hoff', fun period hrunning =>
      honce ⟨id, period, hscheduled, hrunning⟩⟩
  subst hend
  refine ⟨_, hvisit', rfl, ?_, ?_⟩
  · rw [hheap]
    exact hshifted
  · show t.kernel.heap.clock + d ≤ heap'.clock
    rw [hclock, hpopped'.clock]
    exact hab.clock_le

/-- Both kernels visit the same objects, with the same signals. -/
theorem Drains.alongside (hdrains : Drains a visits b) : a.Ticking → ¬ a.Periodic →
    ∀ {a' : Kernel}, Alongside d a a' → ∃ b', Drains a' visits b' ∧ Alongside d b b' := by
  induction hdrains with
  | rest => exact fun _ _ a' hab => ⟨a', .rest a', hab⟩
  | visit hvisit _ ih =>
    intro h honce a' hab
    obtain ⟨b', hvisit', hb⟩ := hvisit.alongside h honce hab
    obtain ⟨c', hrest', hc⟩ := ih (hvisit.visited h).ticking
      (fun hb => honce ((hvisit.periodic_iff h).1 hb)) hb
    exact ⟨c', .visit hvisit' hrest', hc⟩

theorem Drains.periodic_iff (hdrains : Drains a visits b) : a.Ticking → (b.Periodic ↔ a.Periodic) := by
  induction hdrains with
  | rest => exact fun _ => Iff.rfl
  | visit hvisit _ ih => exact fun h => (ih (hvisit.visited h).ticking).trans (hvisit.periodic_iff h)

/-- The end of a delivery changes the base of the clock at most, and the clock falls. -/
theorem NextDue.sameButClock {t : Section} (hnext : NextDue { kernel := a } none t) :
    t.kernel = a.setHeap t.kernel.heap ∧ TimerHeap.SameButClock a.heap t.kernel.heap ∧
      t.kernel.heap.clock ≤ a.heap.clock := by
  cases hnext with
  | idle => exact ⟨rfl, .refl _, Nat.le_refl _⟩
  | rebased hidle _ hrebase =>
    refine ⟨rfl, .of_rebased hrebase hidle, ?_⟩
    rw [heap_setHeap, hrebase.clock]
    exact Nat.zero_le _

theorem NextDue.periodic_iff {t : Section} (hnext : NextDue { kernel := a } none t) :
    t.kernel.Periodic ↔ a.Periodic := by
  obtain ⟨hkernel, hsame, -⟩ := hnext.sameButClock
  refine exists_congr fun id => exists_congr fun period => ?_
  unfold Scheduled Running
  rw [hsame.slot, hkernel]
  rfl

/-- Two drains, with the end of a delivery between them, come to one drain of a kernel that is given all
ticks at once. -/
theorem Drains.coalesce {first second : Nat} {rest : List Visit} {t : Section}
    (h : (a.ticked first).Ticking) (h' : (a.ticked (first + second)).Ticking)
    (hnextTicking : (t.kernel.ticked second).Ticking) (honce : ¬ a.Periodic)
    (hclock : a.heap.clock + first + second ≤ clockLimit)
    (hdrains : Drains (a.ticked first) visits b) (hnext : NextDue { kernel := b } none t)
    (hrest : Drains (t.kernel.ticked second) rest c) (hidle : c.heap.Idle) :
    ∃ c', Drains (a.ticked (first + second)) (visits ++ rest) c' ∧ c'.heap.Idle ∧
      c' = c.setHeap c'.heap ∧ TimerHeap.SameButClock c.heap c'.heap := by
  have hfirst : (a.ticked first).heap.clock = a.heap.clock + first := Nat.min_eq_left (by omega)
  have hboth : (a.ticked (first + second)).heap.clock = a.heap.clock + first + second :=
    (congrArg (min · clockLimit) (Nat.add_assoc ..).symm).trans (Nat.min_eq_left hclock)
  have hstart : Alongside 0 (a.ticked first) (a.ticked (first + second)) :=
    ⟨rfl, ((TimerHeap.Shifted.refl a.heap).advance_left _).advance_right _, by omega⟩
  obtain ⟨b', hdrains', hb⟩ := hdrains.alongside h honce hstart
  obtain ⟨-, -, hclockb, -⟩ := hdrains.spec h fun hendless => honce hendless.2
  obtain ⟨hb', -, hclockb', -⟩ := hdrains'.spec h' fun hendless => honce hendless.2
  obtain ⟨hkernel, hsame, hle⟩ := hnext.sameButClock
  -- the first delivery has set its clock back by as much as its due ticks
  obtain ⟨d, hd⟩ := Nat.exists_eq_add_of_le hle
  have hsecond : (t.kernel.ticked second).heap.clock = t.kernel.heap.clock + second :=
    Nat.min_eq_left (by omega)
  have hmiddle : Alongside d (t.kernel.ticked second) b' := by
    refine ⟨?_, ((hsame.symm.shifted hd).trans hb.shifted).advance_left second, by omega⟩
    rw [hb.rest, hkernel]
    rfl
  have honce' : ¬ (t.kernel.ticked second).Periodic := fun hperiodic =>
    honce ((hdrains.periodic_iff h).1 (hnext.periodic_iff.1 hperiodic))
  obtain ⟨c', hrest', hc⟩ := hrest.alongside hnextTicking honce' hmiddle
  obtain ⟨-, -, hclockc, -⟩ := hrest.spec hnextTicking fun hendless => honce' hendless.2
  have hall := hdrains'.append hrest'
  obtain ⟨-, -, hclockc', -⟩ := hall.spec h' fun hendless => honce hendless.2
  have hclocks : c'.heap.clock = c.heap.clock + d := by omega
  refine ⟨c', hall, hc.shifted.idle hclocks hidle, hc.rest, .of_shifted hc.shifted ?_ hclocks⟩
  rw [hall.ticks_eq h', hrest.ticks_eq hnextTicking]
  show min (a.heap.ticks + (first + second)) clockLimit = min (t.kernel.heap.ticks + second) clockLimit
  rw [hsame.ticks, hdrains.ticks_eq h]
  show _ = min (min (a.heap.ticks + first) clockLimit + second) clockLimit
  omega

end Kernel

namespace System

open Kernel

variable {system last : System}

/-- A delivery of ticks, with no other move in between, ends in a system and does some deeds. -/
def Delivers (system : System) (delta : Nat) (deeds : List Deed) (last : System) : Prop :=
  ∃ n, system.run (delivery delta n) = .ok last ∧ last.deliveries = [] ∧
    system.deeds (delivery delta n) = deeds

/-- Two systems that differ at most in the base of the clock. -/
structure SameButClock (a b : System) : Prop where
  config : b.kernel.config = a.kernel.config
  tasks : b.kernel.tasks = a.kernel.tasks
  queues : b.kernel.queues = a.kernel.queues
  timers : b.kernel.timers = a.kernel.timers
  heap : TimerHeap.SameButClock a.kernel.heap b.kernel.heap
  parked : b.parked = a.parked
  ready : b.ready = a.ready
  deliveries : b.deliveries = a.deliveries
  callCount : b.callCount = a.callCount

theorem SameButClock.put {base : System} {a : Kernel} {heap : TimerHeap}
    {deliveries : List (Option TimerAction)} (h : TimerHeap.SameButClock a.heap heap) :
    SameButClock (base.put a deliveries) (base.put (a.setHeap heap) deliveries) :=
  ⟨rfl, rfl, rfl, rfl, h, rfl, rfl, rfl, rfl⟩

theorem Walks.delivers {delta n : Nat} {deeds : List Deed} (h : Walks system (delivery delta n) deeds last)
    (hended : last.deliveries = []) : system.Delivers delta deeds last :=
  ⟨n, h.1, hended, h.2 []⟩

/-- A run of a valid configuration in which no delivery is in progress and no timer with a period is
scheduled, and ticks in two parts that the clock has room for. Delivered one part right after the other
and delivered together, they do the same deeds in the same order: the objects taken out, the actions
done and the signals of each. The two ends differ at most in the base of the clock. -/
theorem run_coalesces_ticks {config : Config} (h : config.fault? = none) (moves : List Move) :
    ∃ system, run { kernel := .ofConfig config } moves = .ok system ∧ (system.deliveries = [] →
      (∀ id period, system.kernel.Scheduled id → ¬ system.kernel.Running id (some period)) →
      ∀ first second, system.kernel.heap.clock + first + second ≤ clockLimit →
        ∃ middle last once earlier later, system.Delivers first earlier middle ∧
          middle.Delivers second later last ∧
          system.Delivers (first + second) (earlier ++ later) once ∧ SameButClock last once) := by
  obtain ⟨system, hrun, hwf, -, htimed⟩ := run_timed h moves
  refine ⟨system, hrun, fun hquiet honce first second hclock => ?_⟩
  have honce : ¬ system.kernel.Periodic := fun ⟨id, period, hscheduled, hrunning⟩ =>
    honce id period hscheduled hrunning
  have hticking := htimed.ticking hwf first
  have hticking' := htimed.ticking hwf (first + second)
  obtain ⟨m, visits, b, t, hdrains, -, hnext, hwalks⟩ :=
    exists_delivery first htimed hwf hquiet fun hendless => honce hendless.2
  -- the end of the first delivery is the end of a run as well
  obtain ⟨middle, hmiddle, hwf', -, htimed'⟩ := run_timed h (moves ++ delivery first m)
  rw [run_append hrun, hwalks.1] at hmiddle
  cases hmiddle
  have honce' : ¬ t.kernel.Periodic := fun hperiodic =>
    honce ((hdrains.periodic_iff hticking).1 (hnext.periodic_iff.1 hperiodic))
  obtain ⟨n, rest, c, u, hrest, hidle, hlast, hwalks'⟩ :=
    exists_delivery second htimed' hwf' rfl fun hendless => honce' hendless.2
  obtain ⟨k, all, c', v, hall, hidle', honceNext, hwalksOnce⟩ :=
    exists_delivery (first + second) htimed hwf hquiet fun hendless => honce hendless.2
  obtain ⟨_, hboth, hidleBoth, hkernel, hsame⟩ := hdrains.coalesce hticking hticking'
    (htimed'.ticking hwf' second) honce hclock hnext hrest hidle
  obtain ⟨rfl, rfl⟩ := hboth.unique hticking'.wellFormed hidleBoth hall hidle'
  obtain ⟨hu, hsameu, -⟩ := hlast.sameButClock
  obtain ⟨hv, hsamev, -⟩ := honceNext.sameButClock
  have hkernels : v.kernel = u.kernel.setHeap v.kernel.heap := hv.trans (by rw [hkernel, hu]; rfl)
  have hdelivers := hwalksOnce.delivers rfl
  rw [List.flatMap_append, List.flatMap_append, List.foldl_append] at hdelivers
  refine ⟨_, _, _, _, _, hwalks.delivers rfl, hwalks'.delivers rfl, hdelivers, ?_⟩
  rw [foldl_obey_put, hkernels]
  exact .put (hsameu.symm.trans (hsame.trans hsamev))

/-- A configuration whose clock is set back from 4 ticks on. -/
def brief : Config := { roomy with maxTick := 4 }

/-- Two timers are started 3 ticks after the beginning, the one for 2 ticks and the other for 3. -/
def staggered : List Move :=
  [.call (.allocateTask "task" {}), .call (.createTimer (.event ⟨1⟩ 1)),
    .call (.createTimer (.event ⟨1⟩ 2)), .advance 3, .call (.startTimer ⟨0⟩ 2 none),
    .call (.startTimer ⟨1⟩ 3 none)]

/-- Of two times 2 ticks the first ones set the clock back, and those of one delivery do so once. -/
theorem staggered_coalesces_ticks : brief.fault? = none ∧
    ∃ system, run { kernel := .ofConfig brief } staggered = .ok system ∧ system.deliveries = [] ∧
      (∀ id period, system.kernel.Scheduled id → ¬ system.kernel.Running id (some period)) ∧
      system.kernel.heap.clock + 2 + 2 ≤ clockLimit ∧
      ∃ middle last once earlier later, system.Delivers 2 earlier middle ∧
        middle.Delivers 2 later last ∧ system.Delivers (2 + 2) (earlier ++ later) once ∧
        SameButClock last once := by
  have hvalid : brief.fault? = none := by decide
  obtain ⟨system, hrun, hcoalesces⟩ := run_coalesces_ticks hvalid staggered
  have hbefore : (run { kernel := .ofConfig brief } staggered).toOption.map
      (fun system => (system.deliveries, system.kernel.heap.clock, system.kernel.timers)) =
        some ([], 3, #[some { target := .event ⟨1⟩ 1, phase := .active none },
          some { target := .event ⟨1⟩ 2, phase := .active none }]) := by decide +kernel
  rw [hrun] at hbefore
  obtain ⟨hquiet, hclock, htimers⟩ := by
    simpa only [Except.toOption, Option.map_some, Option.some.injEq, Prod.mk.injEq] using hbefore
  have honce : ∀ id period, system.kernel.Scheduled id → ¬ system.kernel.Running id (some period) := by
    rintro ⟨i⟩ period - ⟨target, hget⟩
    rw [TimerTable.get_eq_ok, htimers] at hget
    rcases i with - | - | i
    · cases hget
    · cases hget
    · cases hget
  have hroom : system.kernel.heap.clock + 2 + 2 ≤ clockLimit := by
    rw [hclock]
    decide
  exact ⟨hvalid, system, hrun, hquiet, honce, hroom, hcoalesces hquiet honce 2 2 hroom⟩

end System

end Executive
