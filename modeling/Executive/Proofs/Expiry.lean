/-
No expiry is lost when the timer heap has a slot for every object (`run_keeps_expiries`). Every start
finds a free slot then, so that a running timer is scheduled, or it has expired and a delivery has its
action in hand, which lets it fire. An arming ends when the timer fires or is stopped, and it never gets
older than its delay without the timer being due or its action being in hand.
-/
import Executive.Proofs.Firing
import Executive.Proofs.Kernel.Room
import Executive.Proofs.Timekeeping

namespace Executive

namespace Kernel

variable {a b : Kernel} {s t : Section} {id : TimerId}

/-! ## Timers that have expired -/

/-- A timer is running and off the heap: it has expired and has not fired yet. -/
def Expired (kernel : Kernel) (id : TimerId) : Prop :=
  (∃ reload, kernel.Running id reload) ∧ ¬ kernel.Scheduled id

theorem SameTimer.expired_iff (h : SameTimer id a b) : b.Expired id ↔ a.Expired id := by
  unfold Expired Running
  rw [h.scheduled, h.get]

/-- A timer that is not running has not expired. -/
theorem not_expired_of_get {timer : Timer} (hget : a.timers.get id = .ok timer)
    (hphase : ∀ reload, timer.phase ≠ .active reload) : ¬ a.Expired id := by
  rintro ⟨⟨reload, target, hrunning⟩, -⟩
  rw [hget] at hrunning
  cases hrunning
  exact hphase reload rfl

theorem TimerCreated.expired_before {target : TimerTarget} {r : Except Error TimerId}
    (h : TimerCreated target s r t) (hexpired : t.kernel.Expired id) : s.kernel.Expired id := by
  cases h with
  | refused => exact hexpired
  | @created new hvacant =>
    by_cases hnew : new = id
    · subst hnew
      have hget := TimerTable.get_set_self (Array.getElem?_eq_some_iff.1 hvacant).1 { target }
      exact absurd hexpired (not_expired_of_get hget nofun)
    · exact (SameTimer.setTimer hnew ..).expired_iff.1 hexpired

theorem TimerStarted.expired_before {delay : Nat} {reload : Option Nat} {r : Except Error Unit}
    (hroomy : s.kernel.Roomy) (h : TimerStarted id delay reload s r t)
    (hexpired : t.kernel.Expired id) : s.kernel.Expired id := by
  cases h with
  | refused => exact hexpired
  | started hget hstart =>
    obtain ⟨hpos, hlt⟩ := timerObject_inRange hroomy.wellFormed hget
    exact absurd (hstart.scheduled_of_spacious hroomy.wellFormed.heap hroomy.matched hroomy.spacious
      hpos hlt) hexpired.2

theorem TimerAborted.expired_before {r : Except Error Unit} (h : TimerAborted id s r t)
    (hexpired : t.kernel.Expired id) : s.kernel.Expired id := by
  cases h with
  | refused => exact hexpired
  | stopped hget | expired hget | idle hget =>
    have hidle := TimerTable.get_set_self (TimerTable.lt_size_of_get hget)
    exact absurd hexpired (not_expired_of_get (hidle _) nofun)

theorem TimerDeleted.expired_before {r : Except Error Unit} (h : TimerDeleted id s r t)
    (hexpired : t.kernel.Expired id) : s.kernel.Expired id := by
  cases h with
  | refused => exact hexpired
  | deleted hget =>
    obtain ⟨⟨_, _, hrunning⟩, -⟩ := hexpired
    have hvacant := TimerTable.get_vacated (TimerTable.lt_size_of_get hget)
    simp only [timers_setTimer, timers_setHeap, hvacant] at hrunning
    cases hrunning

/-- With room on the heap no operation makes a timer expire. -/
theorem Performed.expired_before {operation : Operation} {r : Except Error (Progress Value)}
    (hroomy : s.kernel.Roomy) (h : Performed s operation r t) (hexpired : t.kernel.Expired id) :
    s.kernel.Expired id := by
  by_cases hop : Concerns id operation
  · cases operation with
    | createTimer => obtain ⟨_, h, -⟩ := h; exact h.expired_before hexpired
    | startTimer => cases hop; obtain ⟨_, h, -⟩ := h; exact h.expired_before hroomy hexpired
    | abortTimer => cases hop; obtain ⟨_, h, -⟩ := h; exact h.expired_before hexpired
    | deleteTimer => cases hop; obtain ⟨_, h, -⟩ := h; exact h.expired_before hexpired
    | _ => exact hop.elim
  · exact (h.sameTimer hop).expired_iff.1 hexpired

/-- A timer whose action has been done has not expired any more: it is scheduled, or it has stopped. -/
theorem TimerFired.not_expired {r : Except Error Unit} (hroomy : s.kernel.Roomy)
    (h : TimerFired id s r t) : ¬ t.kernel.Expired id := by
  cases h with
  | scheduled hscheduled => exact fun hexpired => hexpired.2 hscheduled
  | inactive hinactive => exact fun ⟨⟨reload, target, hrunning⟩, _⟩ => hinactive target reload hrunning
  | @expired target _ _ _ hget hact =>
    have hfired := TimerTable.get_set_self (TimerTable.lt_size_of_get hget) { target, phase := .fired }
    rw [(hact.keepsTimers.sameTimer id).expired_iff]
    exact not_expired_of_get hfired nofun
  | rearmed _ hget hstart hact =>
    obtain ⟨hpos, hlt⟩ := timerObject_inRange hroomy.wellFormed hget
    rw [(hact.keepsTimers.sameTimer id).expired_iff]
    exact fun hexpired => hexpired.2 (hstart.scheduled_of_spacious hroomy.wellFormed.heap
      hroomy.matched hroomy.spacious hpos hlt)

theorem ActionDone.expired_before {action : TimerAction} (hroomy : s.kernel.Roomy) (h : ActionDone s action t)
    (hexpired : t.kernel.Expired id) : s.kernel.Expired id ∧ action ≠ .fireTimer id := by
  by_cases haction : action = .fireTimer id
  · subst haction
    cases h with
    | fired hfired | failed hfired =>
      have hnot := hfired.not_expired hroomy
      exact absurd hexpired hnot
  · exact ⟨(h.sameTimer haction).expired_iff.1 hexpired, haction⟩

/-- A timer expires when its object is taken out, and its action is in hand then. -/
theorem NextDue.expired_before {action : Option TimerAction} (hwf : s.kernel.WellFormed)
    (h : NextDue s action t) (hexpired : t.kernel.Expired id) :
    s.kernel.Expired id ∨ action = some (.fireTimer id) := by
  cases h with
  | idle => exact Or.inl hexpired
  | @popped object action heap hpop =>
    by_cases hown : s.kernel.timerObject id = object
    · have hserves := hwf.serves _ _ hpop.armed
      rw [← hown] at hserves
      exact Or.inr (congrArg some (hwf.eq_fireTimer hserves))
    · exact Or.inl ((SameTimer.setHeap hpop.toAgreesBut hown).expired_iff.1 hexpired)
  | @rebased heap _ _ hrebase =>
    refine Or.inl ⟨hexpired.1, fun hscheduled => hexpired.2 ?_⟩
    show (heap.object (s.kernel.timerObject id)).slot ≠ 0
    rw [hrebase.object, if_neg hscheduled]
    exact hscheduled

end Kernel

/-! ## The age of an arming -/

namespace Arming

open Kernel

variable {id : TimerId} {kernel : Kernel} {arming : Option Arming} {P : Kernel → Arming → Prop}

/-- The timers with an arming are the running ones. -/
theorem Holds.isSome_iff (h : Holds P id kernel arming) :
    arming.isSome ↔ ∃ reload, kernel.Running id reload := by
  cases arming with
  | none => exact iff_of_false nofun fun ⟨reload, target, hrunning⟩ => h target reload hrunning
  | some arming => exact iff_of_true rfl ⟨_, h.1⟩

/-- A scheduled timer is due when its delay is over, or before. -/
def Punctual (id : TimerId) (kernel : Kernel) (arming : Arming) : Prop :=
  kernel.Scheduled id → (kernel.heap.object (kernel.timerObject id)).wake ≤ TimerHeap.clockLimit ∧
    ((kernel.heap.object (kernel.timerObject id)).wake + arming.elapsed ≤
        kernel.heap.clock + kernel.heap.span arming.delay ∨
      (kernel.heap.object (kernel.timerObject id)).wake ≤ kernel.heap.clock)

theorem lasting_punctual : Lasting id (fun _ => True) (Punctual id) where
  congr := by
    intro a b arming hsame hpunctual hscheduled
    have hspan := TimerHeap.span_congr hsame.maxTick arming.delay
    rw [hsame.object.wake, hsame.clock, hspan]
    exact hpunctual (hsame.scheduled.1 hscheduled)
  made := by
    intro a b delay period action hwf _ hstart hobject _
    have hspan := TimerHeap.span_congr hstart.maxTick delay
    rw [hobject, hstart.wake, hstart.clock]
    refine ⟨Nat.min_le_right .., Or.inl ?_⟩
    show a.heap.wakeAfter delay + 0 ≤ a.heap.clock + b.heap.span delay
    rw [hspan]
    exact Nat.min_le_left ..
  after := by
    intro a arming delta hpunctual hscheduled
    obtain ⟨hlimit, htime⟩ := hpunctual hscheduled
    refine ⟨hlimit, ?_⟩
    show (a.heap.object (a.timerObject id)).wake + (arming.elapsed + delta) ≤
      min (a.heap.clock + delta) TimerHeap.clockLimit + a.heap.span arming.delay ∨
        (a.heap.object (a.timerObject id)).wake ≤ min (a.heap.clock + delta) TimerHeap.clockLimit
    omega
  nextDue := by
    intro s t arming action hnext hpunctual hscheduled
    have hspan := TimerHeap.span_congr hnext.maxTick arming.delay
    unfold Scheduled at hscheduled
    rw [hnext.timerObject id] at hscheduled ⊢
    rw [hspan]
    cases hnext.turned (s.kernel.timerObject id) with
    | kept halike hclock =>
      rw [halike.wake, hclock]
      exact hpunctual fun h0 => hscheduled (halike.scheduled.2 h0)
    | taken _ _ hobject => exact absurd (by rw [hobject]) hscheduled
    | setBack hslot hahead hobject hclock =>
      obtain ⟨hlimit, htime⟩ := hpunctual hslot
      rw [hobject, hclock]
      dsimp only
      omega
    | off hslot hobject => exact absurd hslot (hobject ▸ hscheduled)

end Arming

namespace System

open Kernel
open TimerHeap (Handled)

variable {system system' : System} {signals : List Signal} {id : TimerId} {t : Section}

/-! ## Expiries and deliveries -/

/-- The pending objects are the scheduled ones, and the action of every timer that has expired is in the
hands of a delivery. -/
structure Complete (system : System) : Prop where
  matched : system.kernel.heap.Matched
  inHand : ∀ id, system.kernel.Expired id → some (.fireTimer id) ∈ system.deliveries

theorem WellFormed.roomy (h : system.WellFormed) (hmatched : system.kernel.heap.Matched)
    (hroom : (system.kernel.config.maxTasks - 1) + system.kernel.config.maxAppTimers ≤
      system.kernel.config.maxTimerObjects) : system.kernel.Roomy := by
  have htasks := Config.two_le_maxTasks h.kernel.valid
  refine ⟨h.kernel, hmatched, ?_⟩
  unfold TimerHeap.Spacious TimerHeap.capacity
  rw [h.kernel.objects_size, h.kernel.slots_size]
  omega

theorem ofConfig_complete (config : Config) : Complete { kernel := .ofConfig config } where
  matched := TimerHeap.ofSize_matched ..
  inHand id hexpired := by
    obtain ⟨⟨reload, target, hget⟩, -⟩ := hexpired
    exact absurd hget (TimerTable.get_ofSize config.maxAppTimers _ _)

namespace Complete

/-- A section that handles one object at most loses no expiry, if what it makes of the timers and of the
deliveries does not. -/
theorem handled (h : system.Complete) (hroomy : system.kernel.Roomy) {object : Option ObjectId}
    (hhandled : Handled system.kernel.heap object t.kernel.heap) (hkernel : system'.kernel = t.kernel)
    (hinHand : ∀ id, t.kernel.Expired id → system.kernel.Expired id ∧
      (some (.fireTimer id) ∈ system.deliveries → some (.fireTimer id) ∈ system'.deliveries)) :
    system'.Complete := by
  constructor
  · rw [hkernel]
    exact h.matched.handled hroomy.wellFormed.heap hroomy.spacious hhandled
  · intro id hexpired
    rw [hkernel] at hexpired
    obtain ⟨hbefore, hstays⟩ := hinHand id hexpired
    exact hstays (h.inHand id hbefore)

/-- Neither does one that takes out the next due object or ends a delivery. -/
theorem nextDue (h : system.Complete) {s : Section} {next : Option TimerAction} (hwf : s.kernel.WellFormed)
    (hmatched : s.kernel.heap.Matched)
    (hexpired : ∀ id, s.kernel.Expired id → system.kernel.Expired id)
    (hnext : NextDue s next t) (hkernel : system'.kernel = t.kernel)
    (hstays : ∀ action, some action ∈ system.deliveries → some action ∈ system'.deliveries)
    (hnew : ∀ action, next = some action → some action ∈ system'.deliveries) : system'.Complete := by
  constructor
  · rw [hkernel]
    cases hnext with
    | idle => exact hmatched
    | popped hpop => exact hmatched.removed hpop.toRemoved
    | rebased _ _ hrebase => exact hmatched.rebased hrebase
  · intro id hafter
    rw [hkernel] at hafter
    rcases hnext.expired_before hwf hafter with hbefore | htaken
    · exact hstays _ (h.inHand id (hexpired id hbefore))
    · exact hnew _ htaken

theorem move {move : Move} {answer : Answer} (h : system.Complete) (hroomy : system.kernel.Roomy)
    (hmoved : Moved system move answer signals system') : system'.Complete := by
  have hwf := hroomy.wellFormed
  cases hmoved with
  | unready | waits | inactive | busy => exact ⟨h.matched, h.inHand⟩
  | blocked hcall =>
    refine h.handled hroomy (hcall.handled hwf) kernel_leave fun id hexpired => ?_
    exact ⟨hcall.expired_before hroomy hexpired, fun hin => (deliveries_leave ▸ hin :)⟩
  | returned hcall =>
    refine h.handled hroomy (hcall.handled hwf) kernel_leave fun id hexpired => ?_
    exact ⟨hcall.expired_before hroomy hexpired, fun hin => by rw [deliveries_leave]; exact hin⟩
  | ended _ hlook =>
    refine h.handled hroomy hlook.handled kernel_leave fun id hexpired => ?_
    exact ⟨hlook.sameTimer.expired_iff.1 hexpired, fun hin => by rw [deliveries_leave]; exact hin⟩
  | acted hdelivery hdone =>
    refine h.handled hroomy (hdone.handled hwf) kernel_leave fun id hexpired => ?_
    obtain ⟨hbefore, hother⟩ := hdone.expired_before hroomy hexpired
    rw [deliveries_leave]
    exact ⟨hbefore, mem_set_of_ne hdelivery fun heq => hother (Option.some.inj heq)⟩
  | began hnext =>
    refine h.nextDue (hwf.advanceClock _) (h.matched.advanceClock _) (fun _ => id) hnext kernel_leave ?_ ?_
    · exact fun _ hin => List.mem_cons_of_mem _ hin
    · rintro _ ⟨⟩
      exact List.mem_cons_self ..
  | passed hnext =>
    refine h.nextDue (hwf.advanceClock _) (h.matched.advanceClock _) (fun _ => id) hnext kernel_leave ?_ nofun
    exact fun _ hin => by rw [deliveries_leave]; exact hin
  | wentOn hdelivery hnext =>
    refine h.nextDue hwf h.matched (fun _ => id) hnext kernel_leave (fun _ => mem_set_of_ne hdelivery nofun) ?_
    rintro _ ⟨⟩
    exact List.mem_set (List.getElem?_eq_some_iff.1 hdelivery).1 _
  | delivered hdelivery hnext =>
    exact h.nextDue hwf h.matched (fun _ => id) hnext kernel_leave
      (fun _ => mem_eraseIdx_of_none hdelivery) nofun

end Complete

/-- With room on the heap no move reports that it is full. -/
theorem Moved.spotless {move : Move} {answer : Answer} (hroomy : system.kernel.Roomy)
    (h : Moved system move answer signals system') : Spotless signals := by
  cases h with
  | unready | waits | inactive | busy => exact spotless_nil
  | blocked hcall => exact hcall.spotless hroomy spotless_nil
  | returned hcall => exact hcall.spotless hroomy spotless_nil
  | ended _ hlook => exact hlook.spotless spotless_nil
  | acted _ hdone => exact hdone.spotless hroomy spotless_nil
  | began hnext => exact hnext.spotless spotless_nil
  | passed hnext => exact hnext.spotless spotless_nil
  | wentOn _ hnext => exact hnext.spotless spotless_nil
  | delivered _ hnext => exact hnext.spotless spotless_nil

/-- The action of a timer that has expired lets it fire. -/
theorem act_fires (hwf : system.WellFormed) (hexpired : system.kernel.Expired id) {i : Nat}
    (hdelivery : system.deliveries[i]? = some (some (.fireTimer id))) :
    ∃ signals next, system.act i = .ok (signals, next) ∧ .report (.timerFired id) ∈ signals := by
  obtain ⟨answer, signals, next, hobserve, -, hmoved⟩ := act_spec hwf i
  refine ⟨signals, next, act_of_observe hobserve, ?_⟩
  obtain ⟨⟨reload, target, hrunning⟩, hoff⟩ := hexpired
  have hfires {r : Except Error Unit} {u : Section}
      (hfired : TimerFired id { kernel := system.kernel } r u) : .report (.timerFired id) ∈ u.signals := by
    rcases Arming.left_alone_or_fires hfired with ⟨-, -, hscheduled | hinactive⟩ | ⟨hmem, -⟩
    · exact absurd hscheduled hoff
    · exact absurd hrunning (hinactive target reload)
    · exact hmem
  cases hmoved with
  | inactive hnone => exact absurd hdelivery (hnone _)
  | acted hdelivery' hdone =>
    rw [hdelivery] at hdelivery'
    cases hdelivery'
    cases hdone with
    | fired hfired => exact hfires hfired
    | failed hfired => exact List.mem_append_left _ (hfires hfired)

/-! ## Runs -/

/-- No expiry is lost in the system that a run has led to. -/
structure KeepsExpiries (config : Config) (moves : List Move) (system : System) : Prop where
  /-- A start of any object but object 0, which is never started, finds a free slot. -/
  starts : ∀ object delay action, 0 < object → object < system.kernel.heap.objects.size →
    ∃ wake heap, system.kernel.heap.start object delay action = .ok (.armed wake, heap)
  /-- Whatever the next move is, it reports no start for which there is no slot. -/
  spotless : ∀ move, ∃ answer signals next,
    system.observe move = .ok (answer, signals, next) ∧ Spotless signals
  pending_iff : ∀ object, (system.kernel.heap.object object).pending = true ↔
    (system.kernel.heap.object object).slot ≠ 0
  running : ∀ id reload, system.kernel.Running id reload →
    system.kernel.Scheduled id ∨ some (.fireTimer id) ∈ system.deliveries
  scheduled : ∀ id, system.kernel.Scheduled id → ∃ reload, system.kernel.Running id reload
  /-- The timers with an arming in force are the running ones. -/
  armed_iff : ∀ id, (armingAfter config moves id).isSome ↔ ∃ reload, system.kernel.Running id reload
  /-- When the delay of an arming in force is over, its action is in hand, or its object is due and a
  delivery is in progress. -/
  overdue : ∀ id arming, armingAfter config moves id = some arming →
    config.span arming.delay ≤ arming.elapsed →
    some (.fireTimer id) ∈ system.deliveries ∨ system.deliveries ≠ [] ∧ system.kernel.Scheduled id ∧
      (system.kernel.heap.object (system.kernel.timerObject id)).wake ≤ system.kernel.heap.clock
  /-- An action in hand lets a running timer fire whose object is off the heap. -/
  fires : ∀ id i reload, system.deliveries[i]? = some (some (.fireTimer id)) →
    system.kernel.Running id reload → ¬ system.kernel.Scheduled id →
    ∃ signals next, system.act i = .ok (signals, next) ∧ .report (.timerFired id) ∈ signals

theorem run_complete {config : Config} (h : config.fault? = none)
    (hroom : (config.maxTasks - 1) + config.maxAppTimers ≤ config.maxTimerObjects) (moves : List Move) :
    ∃ system, run { kernel := .ofConfig config } moves = .ok system ∧ system.WellFormed ∧
      system.kernel.config = config ∧ system.Timed ∧ system.Complete := by
  refine @run_invariant (fun system => system.Timed ∧ system.Complete) config h
    ⟨ofConfig_timed h, ofConfig_complete config⟩ ?_ moves
  rintro system move answer signals system' hwf hconfig ⟨htimed, hcomplete⟩ hmoved
  have hroomy := hwf.roomy hcomplete.matched (hconfig ▸ hroom)
  exact ⟨htimed.move hwf hmoved, hcomplete.move hroomy hmoved⟩

/-- The arming in force is punctual. -/
theorem run_punctual {config : Config} (h : config.fault? = none) (moves : List Move) (id : TimerId) :
    ∃ system, run { kernel := .ofConfig config } moves = .ok system ∧ system.WellFormed ∧
      Arming.Holds (Arming.Punctual id) id system.kernel (armingAfter config moves id) := by
  refine @run_induct _ (Arming.note id) (fun _ _ => True)
    (fun system arming => Arming.Holds (Arming.Punctual id) id system.kernel arming)
    (fun hwf _ hholds hmoved => hholds.move Arming.lasting_punctual hwf trivial hmoved) moves _ none
    (ofConfig_wellFormed h) (along_of_forall (fun _ _ => trivial) moves _)
    fun _ _ => TimerTable.get_ofSize config.maxAppTimers _ _

/-- In every run of a valid configuration whose heap has a slot for each task but task 0 and for each
application timer, every start is successful and no expiry is lost: a running timer is scheduled or its
action is in hand and lets it fire, and an arming that is not stopped or replaced is acted on when its
delay is over. -/
theorem run_keeps_expiries {config : Config} (h : config.fault? = none)
    (hroom : (config.maxTasks - 1) + config.maxAppTimers ≤ config.maxTimerObjects) (moves : List Move) :
    ∃ system, run { kernel := .ofConfig config } moves = .ok system ∧
      KeepsExpiries config moves system := by
  obtain ⟨system, hrun, hwf, hconfig, htimed, hcomplete⟩ := run_complete h hroom moves
  have hroomy := hwf.roomy hcomplete.matched (hconfig ▸ hroom)
  have hholds (id : TimerId) :
      Arming.Holds (Arming.Punctual id) id system.kernel (armingAfter config moves id) := by
    obtain ⟨other, hother, -, hholds⟩ := run_punctual h moves id
    rw [hrun] at hother
    cases hother
    exact hholds
  have hrunning (id : TimerId) (reload : Option Nat) (hrunning : system.kernel.Running id reload) :
      system.kernel.Scheduled id ∨ some (.fireTimer id) ∈ system.deliveries := by
    by_cases hscheduled : system.kernel.Scheduled id
    · exact Or.inl hscheduled
    · exact Or.inr (hcomplete.inHand id ⟨⟨reload, hrunning⟩, hscheduled⟩)
  refine ⟨system, hrun, ⟨?_, ?_, hcomplete.matched.pending_iff, hrunning, htimed.live,
    fun id => (hholds id).isSome_iff, ?_, ?_⟩⟩
  · intro object delay action hpos hlt
    exact TimerHeap.start_armed hwf.kernel.heap hcomplete.matched hroomy.spacious hwf.kernel.maxTick_le
      hpos hlt delay action
  · intro move
    obtain ⟨answer, signals, next, hobserve, -, hmoved⟩ := observe_spec hwf move
    exact ⟨answer, signals, next, hobserve, hmoved.spotless hroomy⟩
  · intro id arming harming hover
    have hpunctual := hholds id
    rw [harming] at hpunctual
    obtain ⟨hactive, htime⟩ := hpunctual
    refine (hrunning id _ hactive).symm.imp_right fun hscheduled => ?_
    have hspan : system.kernel.heap.span arming.delay = config.span arming.delay := by
      rw [hwf.kernel.span_eq, hconfig]
    have hdue : (system.kernel.heap.object (system.kernel.timerObject id)).wake ≤ system.kernel.heap.clock := by
      have := (htime hscheduled).2
      omega
    refine ⟨fun hquiet => ?_, hscheduled, hdue⟩
    exact Nat.not_lt.2 hdue ((htimed.quiet hquiet).1 _ hscheduled)
  · intro id i reload hdelivery hactive hoff
    exact act_fires hwf ⟨⟨reload, hactive⟩, hoff⟩ hdelivery

/-- A timer is started anew while its action is in hand, and it expires again in a delivery within the
first one. -/
def overtaken : List Move :=
  [.call (.allocateTask "task" {}), .call (.createTimer (.event ⟨1⟩ 1)),
    .call (.createTimer (.event ⟨1⟩ 2)), .call (.startTimer ⟨0⟩ 1 none),
    .call (.startTimer ⟨1⟩ 3 (some 4)), .advance 1, .call (.startTimer ⟨0⟩ 1 none), .advance 1]

/-- Both deliveries have the action of the timer in hand then. -/
theorem overtaken_keeps_expiries : roomy.fault? = none ∧
    (roomy.maxTasks - 1) + roomy.maxAppTimers ≤ roomy.maxTimerObjects ∧
    ∃ system, run { kernel := .ofConfig roomy } overtaken = .ok system ∧
      system.deliveries = [some (.fireTimer ⟨0⟩), some (.fireTimer ⟨0⟩)] ∧
      KeepsExpiries roomy overtaken system := by
  have hvalid : roomy.fault? = none := by decide
  have hroom : (roomy.maxTasks - 1) + roomy.maxAppTimers ≤ roomy.maxTimerObjects := by decide
  obtain ⟨system, hrun, hkeeps⟩ := run_keeps_expiries hvalid hroom overtaken
  have hdeliveries : (run { kernel := .ofConfig roomy } overtaken).toOption.map (·.deliveries) =
      some [some (.fireTimer ⟨0⟩), some (.fireTimer ⟨0⟩)] := by decide +kernel
  rw [hrun] at hdeliveries
  exact ⟨hvalid, hroom, system, hrun, Option.some.inj hdeliveries, hkeeps⟩

end System

end Executive
