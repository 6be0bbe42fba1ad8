/-
A timer that is left to itself keeps its timetable (`run_keeps_timetable`): in a run whose advances do
not overlap, and in which it is neither started nor stopped, its action runs in the advances that the
timetable names, once in each, whatever else is done and however often the clock is rebased.

The timetable is kept beside the arming in force. Outside an advance the two say the same; within one
the timetable is ahead of an arming whose delay is over until the action has run.
-/
import Executive.Proofs.Expiry
import Executive.Proofs.Timetable

namespace Executive

open Signal (isFiring ofTiming_isFiring)

/-! ## Firing in a section -/

namespace Kernel

variable {s t : Section} {id : TimerId} {timer : Timer}

theorem Performed.get_timer {operation : Operation} {r : Except Error (Progress Value)}
    (h : Performed s operation r t) (hget : s.kernel.timers.get id = .ok timer)
    (hother : timerOf operation ≠ some id) : t.kernel.timers.get id = .ok timer := by
  by_cases hop : Concerns id operation
  · cases operation with
    | createTimer =>
      obtain ⟨_, h, -⟩ := h
      cases h with
      | refused => exact hget
      | @created new hvacant =>
        have hnew : new ≠ id := by
          rintro rfl
          rw [TimerTable.get_eq_ok, hvacant] at hget
          cases hget
        exact (SameTimer.setTimer hnew ..).get.trans hget
    | startTimer => exact absurd (congrArg some hop) hother
    | abortTimer => exact absurd (congrArg some hop) hother
    | deleteTimer => exact absurd (congrArg some hop) hother
    | _ => exact hop.elim
  · exact (h.sameTimer hop).get.trans hget

/-- The actions of other objects do not let a timer fire. -/
theorem ActionDone.countP_of_ne {action : TimerAction} (hwf : s.kernel.WellFormed) (hnew : s.signals = [])
    (h : ActionDone s action t) (hne : action ≠ .fireTimer id) : t.signals.countP (isFiring id) = 0 := by
  have hfired {other : TimerId} {r : Except Error Unit} {u : Section} (hother : other ≠ id)
      (hfired : TimerFired other s r u) : u.signals.countP (isFiring id) = 0 := by
    rcases hfired.countP_cases (ofTiming_isFiring id) hwf (startsApart_isFiring id _) with rfl | hcount
    · rw [hnew]
      rfl
    · rw [hcount, hnew]
      simp [isFiring, hother]
  cases h with
  | woken => simp [hnew, isFiring]
  | fired h => exact hfired (fun heq => hne (congrArg _ heq)) h
  | failed h =>
    rw [countP_append_plain (ofTiming_isFiring id) rfl]
    exact hfired (fun heq => hne (congrArg _ heq)) h

/-- What the action of a timer does to it: it leaves it alone, or the timer fires once, and has stopped
then unless it has a period. -/
inductive Strikes (id : TimerId) (timer : Timer) (a : Kernel) (signals : List Signal) (b : Kernel) : Prop
  | silent (hcount : signals.countP (isFiring id) = 0) (hget : b.timers.get id = .ok timer)
  | fired {target : TimerTarget} {period : Option Nat} (hcount : signals.countP (isFiring id) = 1)
    (hoff : ¬ a.Scheduled id) (htimer : timer = { target, phase := .active period })
    (hget : b.timers.get id = .ok { target, phase := if period = none then .fired else .active period })

theorem TimerFired.strikes {r : Except Error Unit} (hnew : s.signals = [])
    (hget : s.kernel.timers.get id = .ok timer) (h : TimerFired id s r t) :
    Strikes id timer s.kernel t.signals t.kernel := by
  cases h with
  | scheduled | inactive => exact .silent (by rw [hnew]; rfl) hget
  | @expired target _ _ hoff hrunning hact =>
    have hstopped := TimerTable.get_set_self (TimerTable.lt_size_of_get hget) { target, phase := .fired }
    rw [hrunning] at hget
    refine .fired ?_ (not_not_intro hoff) (Except.ok.inj hget).symm ?_
    · rw [hact.countP_eq (ofTiming_isFiring id), hnew]
      simp [isFiring]
    · rw [hact.keepsTimers.timers]
      exact hstopped
  | @rearmed target period _ _ _ hoff hrunning _ hact =>
    rw [hrunning] at hget
    refine .fired ?_ (not_not_intro hoff) (Except.ok.inj hget).symm ?_
    · rw [hact.countP_eq (ofTiming_isFiring id), hnew]
      unfold startRecord
      split <;> simp [isFiring]
    · rw [hact.keepsTimers.timers]
      exact hrunning

theorem ActionDone.strikes {action : TimerAction} (hwf : s.kernel.WellFormed) (hnew : s.signals = [])
    (hget : s.kernel.timers.get id = .ok timer) (h : ActionDone s action t) :
    Strikes id timer s.kernel t.signals t.kernel := by
  by_cases haction : action = .fireTimer id
  · subst haction
    cases h with
    | fired h => exact h.strikes hnew hget
    | @failed _ error u h =>
      have hsame : (u.signals ++ [Signal.report (.timerFailed id error)]).countP (isFiring id) =
          u.signals.countP (isFiring id) := countP_append_plain (ofTiming_isFiring id) rfl
      cases h.strikes hnew hget with
      | silent hcount hkept => exact .silent (hsame.trans hcount) hkept
      | fired hcount hoff htimer hfired => exact .fired (hsame.trans hcount) hoff htimer hfired
  · exact .silent (h.countP_of_ne hwf hnew haction) ((h.sameTimer haction).get.trans hget)

end Kernel

/-! ## Moves -/

namespace System

open Kernel

variable {system system' : System} {signals : List Signal} {move : Move} {answer : Answer}
  {id : TimerId} {timer : Timer} {arming : Option Arming}

/-- The timer that a move starts or stops. -/
def Move.timer? : Move → Option TimerId
  | .call operation => timerOf operation
  | _ => none

/-- The ticks of an advance. -/
def Move.delta? : Move → Option Nat
  | .advance delta => some delta
  | _ => none

/-- Timers fire when their actions are done, and at no other time. -/
theorem Moved.silent (hwf : system.WellFormed) (hmoved : Moved system move answer signals system')
    (hother : ∀ i, move ≠ .act i) : signals.countP (isFiring id) = 0 := by
  cases hmoved with
  | unready | waits | busy => rfl
  | blocked hcall | returned hcall =>
    exact hcall.countP_eq (ofTiming_isFiring id) hwf.kernel (startsApart_isFiring id _)
  | ended _ hlook => exact hlook.countP_eq (ofTiming_isFiring id)
  | began h | passed h | wentOn _ h | delivered _ h => exact h.countP_eq (ofTiming_isFiring id)
  | inactive | acted => exact absurd rfl (hother _)

theorem Moved.strikes (hwf : system.WellFormed) (hget : system.kernel.timers.get id = .ok timer)
    (hother : move.timer? ≠ some id) (hmoved : Moved system move answer signals system') :
    Strikes id timer system.kernel signals system'.kernel := by
  by_cases hact : ∃ i, move = .act i
  · obtain ⟨i, rfl⟩ := hact
    cases hmoved with
    | inactive => exact .silent rfl hget
    | acted _ hdone =>
      rw [kernel_leave]
      exact hdone.strikes (s := { kernel := system.kernel }) hwf.kernel rfl hget
  · apply Strikes.silent (hmoved.silent hwf fun i heq => hact ⟨i, heq⟩)
    have hnext {kernel : Kernel} {action : Option TimerAction} {t : Section}
        (h : NextDue { kernel } action t) (htimers : kernel.timers = system.kernel.timers) :
        (system.leave t).kernel.timers.get id = .ok timer := by
      rw [kernel_leave, ← hget, ← htimers]
      cases h with
      | popped | idle | rebased => rfl
    cases hmoved with
    | unready | waits | busy => exact hget
    | blocked hcall =>
      have hkept := hcall.get_timer hget hother
      rwa [← @kernel_leave system] at hkept
    | returned hcall =>
      rw [kernel_leave]
      exact hcall.get_timer hget hother
    | ended _ hlook =>
      rw [kernel_leave]
      exact hlook.sameTimer.get.trans hget
    | began h | passed h | wentOn _ h | delivered _ h => exact hnext h rfl
    | inactive | acted => exact absurd ⟨_, rfl⟩ hact

/-- The arming of a timer that is neither started nor stopped: it gets older, or the timer fires. -/
theorem Moved.note_eq (hwf : system.WellFormed) (hother : move.timer? ≠ some id)
    (hmoved : Moved system move answer signals system') :
    Arming.note id system move answer signals system' arming =
      if signals.countP (isFiring id) = 0 then arming.map (Arming.after (move.delta?.getD 0))
      else arming.bind (Arming.next system.kernel id) := by
  have hstill := Arming.map_after_zero arming
  cases move with
  | call =>
    rw [if_pos (hmoved.silent hwf nofun)]
    exact (Arming.noteOperation_of_ne hother).trans hstill.symm
  | advance =>
    rw [if_pos (hmoved.silent hwf nofun)]
    rfl
  | resume | proceed =>
    rw [if_pos (hmoved.silent hwf nofun)]
    exact hstill.symm
  | act =>
    cases hmoved with
    | inactive hnone => exact (if_neg fun h => hnone _ h.1).trans hstill.symm
    | @acted _ action t hdelivery hdone =>
      by_cases hcount : t.signals.countP (isFiring id) = 0
      · have hmem : .report (.timerFired id) ∉ t.signals := fun hmem =>
          List.countP_eq_zero.1 hcount _ hmem (Signal.isFiring_iff.2 rfl)
        rw [if_pos hcount]
        exact (if_neg fun h => hmem h.2).trans hstill.symm
      · obtain ⟨signal, hmem, hfiring⟩ := List.countP_pos_iff.1 (Nat.pos_of_ne_zero hcount)
        rw [Signal.isFiring_iff.1 hfiring] at hmem
        have haction : action = .fireTimer id := by
          by_contra hne
          exact hcount (hdone.countP_of_ne hwf.kernel rfl hne)
        subst haction
        rw [if_neg hcount]
        exact if_pos ⟨hdelivery, hmem⟩

end System

/-! ## Armings that are due in time -/

namespace Arming

open Kernel

variable {id : TimerId} {kernel : Kernel} {arming : Arming} {bound bound' : Kernel → Prop}
  {P Q : Kernel → Arming → Prop}

theorem Lasting.and (hP : Lasting id bound P) (hQ : Lasting id bound' Q) :
    Lasting id (fun kernel => bound kernel ∧ bound' kernel)
      fun kernel arming => P kernel arming ∧ Q kernel arming where
  congr hsame h := ⟨hP.congr hsame h.1, hQ.congr hsame h.2⟩
  made hwf hbound hstart hobject := ⟨hP.made hwf hbound.1 hstart hobject, hQ.made hwf hbound.2 hstart hobject⟩
  after delta h := ⟨hP.after delta h.1, hQ.after delta h.2⟩
  nextDue hnext h := ⟨hP.nextDue hnext h.1, hQ.nextDue hnext h.2⟩

/-- With room on the heap no arming is dropped. -/
theorem lasting_undropped : Lasting id (fun kernel => kernel.Roomy ∧ id.index < kernel.timers.size)
    fun _ arming => arming.dropped = false where
  congr _ h := h
  made := by
    rintro a b delay period action hwf ⟨hroomy, hlt⟩ - -
    have hin := hwf.object_lt (hwf.timerObject_serves hlt)
    exact decide_eq_false (Nat.not_le.2 (hwf.heap.inUseBut_lt hroomy.matched.vacant hroomy.spacious
      (timerObject_pos hwf id) hin))
  after _ h := h
  nextDue _ h := h

/-- An arming is due when its delay is over, neither before nor after. -/
def Timely (id : TimerId) (kernel : Kernel) (arming : Arming) : Prop :=
  (InTime id kernel arming ∧ Punctual id kernel arming) ∧ arming.dropped = false

theorem lasting_timely : Lasting id (fun kernel =>
    (kernel.heap.clock + kernel.heap.maxTick ≤ UInt64.size ∧ True) ∧
      kernel.Roomy ∧ id.index < kernel.timers.size) (Timely id) :=
  (lasting_inTime.and lasting_punctual).and lasting_undropped

/-- As long as nothing is due, the delay of a scheduled timer is not over. -/
theorem Timely.early (h : Timely id kernel arming) (hidle : kernel.heap.Idle) (hon : kernel.Scheduled id) :
    arming.elapsed < kernel.heap.span arming.delay := by
  have hahead := hidle _ hon
  obtain ⟨-, htime⟩ := h.1.2 hon
  omega

/-- The delay of a timer that has expired is over. -/
theorem Timely.over (h : Timely id kernel arming) (hoff : ¬ kernel.Scheduled id) :
    kernel.heap.span arming.delay ≤ arming.elapsed := by
  have htime := h.1.1
  unfold InTime at htime
  rw [if_pos (not_not.1 hoff), h.2] at htime
  exact htime.resolve_left Bool.false_ne_true

end Arming

/-! ## Timetables beside a run -/

open Kernel

/-- The timetable agrees with the arming in force and with the runs of the action so far. -/
inductive Timetable.Agrees (config : Config) (timetable : Timetable) : Option Arming → List Nat → Prop
  | stopped (harmed : timetable.armed = none) : Agrees config timetable none timetable.runs
  | waiting {arming : Arming} {base : Nat} (harmed : timetable.armed = some (base, config.span arming.delay))
    (htotal : base + arming.elapsed = timetable.total) (hearly : arming.elapsed < config.span arming.delay) :
    Agrees config timetable (some arming) timetable.runs
  /-- The delay is over, and the action is still to run in the advance in progress. -/
  | due {arming : Arming} {earlier : List Nat}
    (harmed : timetable.armed = (arming.period.map config.span).map (timetable.total, ·))
    (hruns : timetable.runs = 1 :: earlier) (hover : config.span arming.delay ≤ arming.elapsed) :
    Agrees config timetable (some arming) (0 :: earlier)

namespace Timetable.Agrees

variable {config : Config} {timetable : Timetable} {runs : List Nat} {delta : Nat}

theorem advance {arming : Option Arming} {period : Option Nat} (h : Agrees config timetable arming runs)
    (hearly : ∀ a ∈ arming, a.elapsed < config.span a.delay) (hperiod : ∀ a ∈ arming, a.period = period) :
    Agrees config (timetable.advance (period.map config.span) delta) (arming.map (Arming.after delta))
      (0 :: runs) := by
  unfold Timetable.advance
  cases h with
  | stopped harmed =>
    rw [harmed]
    exact .stopped rfl
  | @waiting arming base harmed htotal hwaits =>
    rw [harmed]
    dsimp only
    by_cases hdue : config.span arming.delay ≤ timetable.total + delta - base
    · rw [if_pos hdue, ← hperiod arming rfl]
      have hover : config.span (arming.after delta).delay ≤ (arming.after delta).elapsed := by
        dsimp only [Arming.after]
        omega
      exact .due rfl rfl hover
    · rw [if_neg hdue]
      have htotal' : base + (arming.after delta).elapsed = timetable.total + delta := by
        dsimp only [Arming.after]
        omega
      have hwaits' : (arming.after delta).elapsed < config.span (arming.after delta).delay := by
        dsimp only [Arming.after]
        omega
      exact .waiting rfl htotal' hwaits'
  | due _ _ hover => exact absurd (hearly _ rfl) (Nat.not_lt.2 hover)

/-- The timetable is not ahead any more when the action has run. -/
theorem fire {kernel : Kernel} {id : TimerId} {arming : Arming}
    (h : Agrees config timetable (some arming) runs) (hover : config.span arming.delay ≤ arming.elapsed) :
    ∃ earlier, runs = 0 :: earlier ∧
      Agrees config timetable (Arming.next kernel id arming) (1 :: earlier) := by
  cases h with
  | waiting _ _ hearly => exact absurd hearly (Nat.not_lt.2 hover)
  | @due _ earlier harmed hruns =>
    refine ⟨earlier, rfl, ?_⟩
    rw [← hruns]
    unfold Arming.next
    cases hperiod : arming.period with
    | none =>
      rw [hperiod] at harmed
      exact .stopped harmed
    | some ticks =>
      rw [hperiod] at harmed
      exact .waiting harmed (Nat.add_zero _) (config.span_pos ticks)

end Timetable.Agrees

namespace System

variable {system system' : System} {signals : List Signal} {move : Move} {answer : Answer}
  {config : Config} {id : TimerId} {target : TimerTarget} {period : Option Nat}
  {arming : Option Arming} {runs : List Nat} {timetable : Timetable} {moves : List Move}

/-- A move that is made while there is time on the clock for the longest delay. No advance begins within
another one, and the timer is neither started nor stopped. -/
def LeavesTimer (id : TimerId) (system : System) (move : Move) : Prop :=
  Arming.ClockBounded system move ∧ (move.delta?.isSome → system.deliveries = []) ∧ move.timer? ≠ some id

instance (id : TimerId) (system : System) (move : Move) : Decidable (LeavesTimer id system move) :=
  inferInstanceAs (Decidable (_ ∧ _))

/-- How often the action of a timer has run in each advance, the latest first; last comes the time
before all of them. -/
def noteRuns (id : TimerId) (_ : System) (move : Move) (_ : Answer) (signals : List Signal) (_ : System)
    (runs : List Nat) : List Nat :=
  (if move.delta?.isSome then 0 :: runs else runs).modifyHead (· + signals.countP (isFiring id))

/-- The timetable after a move. -/
def noteTimetable (period : Option Nat) (timetable : Timetable) (move : Move) : Timetable :=
  move.delta?.elim timetable (timetable.advance period)

/-- The phase of a timer that was started and left to itself, by the runs of its action. -/
def phaseAfter (period : Option Nat) (runs : List Nat) : TimerPhase :=
  if period = none ∧ 0 < runs.sum then .fired else .active period

theorem eq_of_phaseAfter {other : Option Nat} (h : phaseAfter period runs = .active other) :
    other = period := by
  unfold phaseAfter at h
  split at h <;> cases h
  rfl

theorem phaseAfter_start : phaseAfter period [0] = .active period :=
  if_neg fun h => absurd h.2 (Nat.lt_irrefl 0)

theorem phaseAfter_zero : phaseAfter period (0 :: runs) = phaseAfter period runs := by
  unfold phaseAfter
  rw [List.sum_cons, Nat.zero_add]

theorem phaseAfter_one :
    phaseAfter period (1 :: runs) = if period = none then .fired else .active period := by
  have hsum : 0 < (1 :: runs).sum := by
    rw [List.sum_cons]
    omega
  simp only [phaseAfter, hsum, and_true]

/-- What is noted of a run for a timer: its arming, the runs of its action and its timetable. -/
def noteKept (id : TimerId) (period : Option Nat) (system : System) (move : Move) (answer : Answer)
    (signals : List Signal) (system' : System) (x : Option Arming × List Nat × Timetable) :
    Option Arming × List Nat × Timetable :=
  (Arming.note id system move answer signals system' x.1,
    noteRuns id system move answer signals system' x.2.1, noteTimetable period x.2.2 move)

/-- The timer keeps its timetable. -/
structure Keeps (config : Config) (id : TimerId) (target : TimerTarget) (period : Option Nat)
    (system : System) (arming : Option Arming) (runs : List Nat) (timetable : Timetable) : Prop where
  config_eq : system.kernel.config = config
  timed : system.Timed
  complete : system.Complete
  holds : Arming.Holds (Arming.Timely id) id system.kernel arming
  entry : system.kernel.timers.get id = .ok { target, phase := phaseAfter period runs }
  agrees : timetable.Agrees config arming runs

namespace Keeps

variable (h : Keeps config id target period system arming runs timetable)

include h

theorem span_eq (hwf : system.WellFormed) (delay : Nat) :
    system.kernel.heap.span delay = config.span delay := by
  rw [hwf.kernel.span_eq, h.config_eq]

theorem period_eq : ∀ a ∈ arming, a.period = period := by
  rintro a rfl
  obtain ⟨_, hrunning⟩ := h.holds.1
  have hentry := h.entry
  rw [hrunning, Except.ok.injEq] at hentry
  exact eq_of_phaseAfter (Timer.mk.inj hentry).2.symm

/-- Outside the advances the delay in force is not over. -/
theorem early (hwf : system.WellFormed) (hquiet : system.deliveries = []) :
    ∀ a ∈ arming, a.elapsed < config.span a.delay := by
  rintro a rfl
  obtain ⟨⟨_, hrunning⟩, htimely⟩ := h.holds
  rw [← h.span_eq hwf]
  apply htimely.early (h.timed.quiet hquiet).1
  by_contra hoff
  have hin := h.complete.inHand id ⟨⟨_, _, hrunning⟩, hoff⟩
  rw [hquiet] at hin
  cases hin

/-- The timetable is ahead of the runs by the one that is still to come in the advance in progress. -/
theorem runs_cases (hwf : system.WellFormed) : runs = timetable.runs ∨
    system.deliveries ≠ [] ∧ ∃ earlier, timetable.runs = 1 :: earlier ∧ runs = 0 :: earlier := by
  have hearly := h.early hwf
  cases h.agrees with
  | stopped | waiting => exact Or.inl rfl
  | due _ hruns hover =>
    exact Or.inr ⟨fun hquiet => absurd (hearly hquiet _ rfl) (Nat.not_lt.2 hover), _, hruns, rfl⟩

theorem moved (hwf : system.WellFormed)
    (hroom : (config.maxTasks - 1) + config.maxAppTimers ≤ config.maxTimerObjects)
    (hrule : LeavesTimer id system move) (hmoved : Moved system move answer signals system') :
    Keeps config id target period system' (Arming.note id system move answer signals system' arming)
      (noteRuns id system move answer signals system' runs)
      (noteTimetable (period.map config.span) timetable move) := by
  obtain ⟨hclock, hapart, hother⟩ := hrule
  have hroomy := hwf.roomy h.complete.matched (h.config_eq ▸ hroom)
  have hbound : system.kernel.heap.clock + system.kernel.heap.maxTick ≤ UInt64.size := by
    rw [hwf.kernel.maxTick_eq]
    exact hclock
  have hlt := TimerTable.lt_size_of_get h.entry
  have hholds := h.holds.move Arming.lasting_timely hwf ⟨⟨hbound, trivial⟩, hroomy, hlt⟩ hmoved
  suffices hrest : _ ∧ _ from
    ⟨hmoved.config_eq.trans h.config_eq, h.timed.move hwf hmoved, h.complete.move hroomy hmoved, hholds,
      hrest.1, hrest.2⟩
  rw [hmoved.note_eq hwf hother]
  unfold noteRuns noteTimetable
  cases hmoved.strikes hwf h.entry hother with
  | silent hcount hget =>
    rw [if_pos hcount, hcount]
    cases hdelta : move.delta? with
    | none =>
      have hruns : runs.modifyHead (· + 0) = runs := by cases runs <;> rfl
      simp only [Option.isSome_none, Bool.false_eq_true, if_false, hruns, Option.getD_none,
        Arming.map_after_zero]
      exact ⟨hget, h.agrees⟩
    | some delta =>
      have hquiet := hapart (by rw [hdelta]; rfl)
      refine ⟨?_, h.agrees.advance (h.early hwf hquiet) h.period_eq⟩
      simpa [phaseAfter_zero] using hget
  | @fired _ period' hcount hoff htimer hget =>
    have hstill : move.delta? = none := by
      cases move with
      | advance => rw [hmoved.silent hwf nofun] at hcount; cases hcount
      | call | resume | act | proceed => rfl
    have hrunning := h.entry
    rw [htimer] at hrunning
    obtain ⟨htarget, hphase⟩ := Timer.mk.inj htimer
    cases arming with
    | none => exact absurd hrunning (h.holds _ _)
    | some a =>
      have hover := h.holds.2.over hoff
      rw [h.span_eq hwf] at hover
      -- the delay is over, so that the timetable has the run already
      obtain ⟨earlier, hruns, hagrees⟩ := h.agrees.fire hover
      subst hruns
      rw [hcount, hstill, if_neg Nat.one_ne_zero]
      refine ⟨?_, hagrees⟩
      rw [hget, htarget, eq_of_phaseAfter hphase, ← @phaseAfter_one period earlier]
      rfl

theorem run (hwf : system.WellFormed)
    (hroom : (config.maxTasks - 1) + config.maxAppTimers ≤ config.maxTimerObjects)
    (hrule : system.Along (LeavesTimer id) moves) :
    ∃ last arming', system.run moves = .ok last ∧ last.WellFormed ∧
      Keeps config id target period last arming' (recount (noteRuns id) system moves runs)
        (moves.foldl (noteTimetable (period.map config.span)) timetable) := by
  obtain ⟨last, hrun, hlast, hkeeps⟩ := @run_induct _ (noteKept id (period.map config.span)) (LeavesTimer id)
    (fun system x => Keeps config id target period system x.1 x.2.1 x.2.2)
    (fun hwf hrule hkeeps hmoved => hkeeps.moved hwf hroom hrule hmoved) moves system
    (arming, runs, timetable) hwf hrule h
  have hruns := @map_recount _ (noteKept id (period.map config.span)) _ (fun x => x.2.1) (noteRuns id)
    (fun _ _ _ _ _ _ => rfl) moves system (arming, runs, timetable)
  have htimetable := @map_recount _ (noteKept id (period.map config.span)) _ (fun x => x.2.2)
    (fun _ move _ _ _ timetable => noteTimetable (period.map config.span) timetable move)
    (fun _ _ _ _ _ _ => rfl) moves system (arming, runs, timetable)
  rw [hruns, htimetable, recount_eq_foldl hwf] at hkeeps
  exact ⟨last, _, hrun, hlast, hkeeps⟩

end Keeps

/-! ## Runs -/

/-- The ticks of the advances of a run. -/
def advances (moves : List Move) : List Nat := moves.filterMap Move.delta?

theorem foldl_noteTimetable : moves.foldl (noteTimetable period) timetable =
    (advances moves).foldl (Timetable.advance period) timetable := by
  rw [advances, List.foldl_filterMap]
  congr
  funext timetable move
  cases move <;> rfl

/-- How often the action of a timer runs in each advance of a run, the latest first; last comes the time
before all of them. -/
def runsIn (id : TimerId) (begun : System) (moves : List Move) : List Nat :=
  recount (noteRuns id) begun moves [0]

/-- The timetable, after a run, of a timer that was started before it. -/
def timetableAfter (config : Config) (delay : Nat) (reload : Option Nat) (moves : List Move) : Timetable :=
  .ofAdvances (config.span delay) ((Timer.period? reload).map config.span) (advances moves)

/-- The timer has kept its timetable in a run. -/
structure KeepsTimetable (config : Config) (id : TimerId) (delay : Nat) (reload : Option Nat) (begun : System)
    (moves : List Move) (system : System) : Prop where
  /-- The action has run in the advances that the timetable names, once in each, and in no other ones. Only
  the run in the advance in progress may still be to come. -/
  runs : runsIn id begun moves = (timetableAfter config delay reload moves).runs ∨
    system.deliveries ≠ [] ∧ ∃ earlier, (timetableAfter config delay reload moves).runs = 1 :: earlier ∧
      runsIn id begun moves = 0 :: earlier
  /-- The timer is active, and without a period it has stopped as fired once its action has run. -/
  entry : ∃ target, begun.kernel.timers.get id = .ok { target, phase := .active (Timer.period? reload) } ∧
    system.kernel.timers.get id =
      .ok { target, phase := phaseAfter (Timer.period? reload) (runsIn id begun moves) }
  /-- In advances of one tick the action runs at the beats. -/
  beats : system.deliveries = [] → (∀ delta ∈ advances moves, delta = 1) →
    (runsIn id begun moves).reverse = (List.range ((advances moves).length + 1)).map fun tick =>
      if Timetable.IsBeat (config.span delay) ((Timer.period? reload).map config.span) tick then 1 else 0

/-- A timer that has just been started while no advance is in progress is at the beginning of its
timetable. -/
theorem keeps_of_started {value : Value} {delay : Nat} {reload : Option Nat} (hwf : system.WellFormed)
    (hroomy : system.kernel.Roomy) (htimed : system.Timed) (hcomplete : system.Complete)
    (hquiet : system.deliveries = [])
    (hmoved : Moved system (.call (.startTimer id delay reload)) (.outcome (.returned (.ok value)))
      signals system') :
    ∃ target arming, Keeps system.kernel.config id target (Timer.period? reload) system' arming [0]
      (.start (system.kernel.config.span delay)) := by
  have hconfig := hmoved.config_eq
  have htimed' := htimed.move hwf hmoved
  have hcomplete' := hcomplete.move hroomy hmoved
  have hclock : system.kernel.heap.clock + system.kernel.heap.maxTick ≤ UInt64.size := by
    have hlt := (htimed.quiet hquiet).2
    have hmax := Config.maxTick_le hwf.kernel.valid
    unfold Config.maxTickLimit at hmax
    rw [hwf.kernel.maxTick_eq] at hlt ⊢
    omega
  cases hmoved with
  | @returned _ _ t hcall =>
    obtain ⟨r, hstarted, hr⟩ := Gives.result hcall
    cases r with
    | error => cases hr
    | ok =>
      have hget : ∃ timer, system.kernel.timers.get id = .ok timer := by
        cases hstarted with
        | started hget => exact ⟨_, hget⟩
      obtain ⟨timer, hget⟩ := hget
      have hlt := TimerTable.lt_size_of_get hget
      have hholds := Arming.holds_started Arming.lasting_timely hwf.kernel
        ⟨⟨hclock, trivial⟩, hroomy, hlt⟩ hstarted
      rw [← @kernel_leave system t] at hholds
      obtain ⟨target, hrunning⟩ := hholds.1
      refine ⟨target, _, hconfig, htimed', hcomplete', hholds, ?_, ?_⟩
      · rw [phaseAfter_start]
        exact hrunning
      · exact .waiting rfl (Nat.add_zero 0) (Config.span_pos _ delay)

/-- A timer is started in any run of a valid configuration whose heap has a slot for each task but task 0
and for each application timer, while no advance is in progress, and it is left to itself from then on. Its
action then runs in exactly those advances in which the delay or the period is over, counted from the end
of the advance in which it ran last, and once in each; a timer with a proper period stays active, and
another one has fired once and stays so. In advances of one tick the action runs at the first tick for
which the timer was started and, with a period, every period after it. -/
theorem run_keeps_timetable {config : Config} (h : config.fault? = none)
    (hroom : (config.maxTasks - 1) + config.maxAppTimers ≤ config.maxTimerObjects) (before after : List Move)
    (id : TimerId) (delay : Nat) (reload : Option Nat) {idle begun : System} {value : Value}
    (hbefore : run { kernel := .ofConfig config } before = .ok idle) (hquiet : idle.deliveries = [])
    (hstart : idle.call (.startTimer id delay reload) = .ok (.returned (.ok value), signals, begun))
    (hrule : begun.Along (LeavesTimer id) after) :
    ∃ system, run begun after = .ok system ∧ KeepsTimetable config id delay reload begun after system := by
  obtain ⟨idle', hbefore', hwf, hconfig, htimed, hcomplete⟩ := run_complete h hroom before
  cases hbefore.symm.trans hbefore'
  have hroomy := hwf.roomy hcomplete.matched (hconfig ▸ hroom)
  obtain ⟨answer, signals', begun', hobserve, hwf', hmoved⟩ :=
    observe_spec hwf (.call (.startTimer id delay reload))
  have hobserve' : idle.observe (.call (.startTimer id delay reload)) =
      .ok (.outcome (.returned (.ok value)), signals, begun) := by
    simp only [observe, hstart]
    rfl
  cases hobserve.symm.trans hobserve'
  obtain ⟨target, arming, hkeeps⟩ := keeps_of_started hwf hroomy htimed hcomplete hquiet hmoved
  rw [hconfig] at hkeeps
  have hactive := hkeeps.entry
  rw [phaseAfter_start] at hactive
  obtain ⟨system, arming', hrun, hlast, hkept⟩ := hkeeps.run hwf' hroom hrule
  rw [foldl_noteTimetable] at hkept
  have hruns := hkept.runs_cases hlast
  refine ⟨system, hrun, hruns, ⟨target, hactive, hkept.entry⟩, fun hended hunits => ?_⟩
  have hperiods : ∀ ticks ∈ (Timer.period? reload).map config.span, 1 ≤ ticks := by
    intro ticks hticks
    obtain ⟨period, -, rfl⟩ := Option.map_eq_some_iff.1 hticks
    exact config.span_pos period
  have hinStep := Timetable.inStep_ofAdvances (config.span_pos delay) hperiods (advances after).length
  rw [← List.eq_replicate_of_mem hunits] at hinStep
  rw [← hinStep.runs]
  exact congrArg List.reverse (hruns.resolve_right fun hahead => hahead.1 hended)

/-- A configuration whose clock is set back every four ticks. -/
def brisk : Config := { roomy with maxTick := 4 }

/-- Another timer runs with a period of two ticks. -/
def metronome : List Move :=
  [.call (.allocateTask "task" {}), .call (.createTimer (.event ⟨1⟩ 1)),
    .call (.createTimer (.event ⟨1⟩ 2)), .call (.startTimer ⟨1⟩ 2 (some 2))]

/-- Five ticks, one by one. The clock is set back at the end of the fourth, and a task waits within the
third. -/
def ticking : List Move :=
  [.advance 1, .advance 1, .act 0, .proceed 0, .advance 1, .call (.waitEvents ⟨1⟩ 4 .any .indefinite), .act 0,
    .proceed 0, .advance 1, .act 0, .proceed 0, .advance 1, .act 0, .proceed 0]

/-- A timer started for three ticks with a period of two acts at ticks three and five. -/
theorem ticking_keeps_timetable : brisk.fault? = none ∧
    (brisk.maxTasks - 1) + brisk.maxAppTimers ≤ brisk.maxTimerObjects ∧
    ∃ idle begun value signals system, run { kernel := .ofConfig brisk } metronome = .ok idle ∧
      idle.deliveries = [] ∧
      idle.call (.startTimer ⟨0⟩ 3 (some 2)) = .ok (.returned (.ok value), signals, begun) ∧
      begun.Along (LeavesTimer ⟨0⟩) ticking ∧ run begun ticking = .ok system ∧
      KeepsTimetable brisk ⟨0⟩ 3 (some 2) begun ticking system ∧
      system.kernel.heap.clock = 1 ∧ (runsIn ⟨0⟩ begun ticking).reverse = [0, 0, 0, 1, 0, 1] := by
  have hvalid : brisk.fault? = none := by decide
  have hroom : (brisk.maxTasks - 1) + brisk.maxAppTimers ≤ brisk.maxTimerObjects := by decide
  obtain ⟨idle, hbefore, -⟩ := run_wellFormed hvalid metronome
  have hquiet : (run { kernel := .ofConfig brisk } metronome).toOption.map (·.deliveries) = some [] := by
    decide +kernel
  rw [hbefore] at hquiet
  have hstarts : (run { kernel := .ofConfig brisk } metronome >>=
      (call · (.startTimer ⟨0⟩ 3 (some 2)))).toOption.map (fun p =>
        ((Answer.outcome p.1).isSuccess, decide (p.2.2.Along (LeavesTimer ⟨0⟩) ticking))) =
      some (true, true) := by decide +kernel
  obtain ⟨⟨outcome, signals, begun⟩, hstart, hstarted⟩ := exists_of_run hbefore hstarts
  obtain ⟨hreturned, hrule⟩ := Prod.mk.inj hstarted
  obtain ⟨value, rfl⟩ : ∃ value, outcome = .returned (.ok value) := by
    rcases outcome with ⟨_ | value⟩ | _
    · cases hreturned
    · exact ⟨value, rfl⟩
    · cases hreturned
  obtain ⟨system, hrun, hkeeps⟩ := run_keeps_timetable hvalid hroom metronome ticking ⟨0⟩ 3 (some 2) hbefore
    (Option.some.inj hquiet) hstart (of_decide_eq_true hrule)
  have hend : (run { kernel := .ofConfig brisk } metronome >>= fun idle =>
      call idle (.startTimer ⟨0⟩ 3 (some 2)) >>= fun p => run p.2.2 ticking).toOption.map
      (fun system => (system.deliveries, system.kernel.heap.clock)) = some ([], 1) := by decide +kernel
  obtain ⟨_, hrun', hlast⟩ := exists_of_run hbefore hend
  rw [hstart] at hrun'
  cases hrun.symm.trans hrun'
  obtain ⟨hended, hclock⟩ := Prod.mk.inj hlast
  refine ⟨hvalid, hroom, idle, begun, value, signals, system, hbefore, Option.some.inj hquiet, hstart,
    of_decide_eq_true hrule, hrun, hkeeps, hclock, ?_⟩
  rw [hkeeps.beats hended (by decide)]
  decide

/-- However many ticks an advance delivers, the action runs once in it, and the period is counted from its
end. -/
example : (timetableAfter brisk 3 (some 2) [.advance 9, .advance 1, .advance 1]).runs = [1, 0, 1, 0] := by
  decide

/-- A timer with the period 0 acts once. -/
example : (timetableAfter brisk 3 (some 0) [.advance 9, .advance 9]).runs = [0, 1, 0] := by decide

end System

end Executive
