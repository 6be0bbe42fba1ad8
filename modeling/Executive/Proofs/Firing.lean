/-
When timers fire. `Arming.note` keeps for one timer, beside a run, how it was armed last: a start
arms it, an abort and a deletion end the arming, and so does its firing, which arms a timer with a
period again. A timer fires for the arming in force, and not before its time unless the heap was full
when the timer was armed. Then no object stands for that arming, and the action of an earlier one
that is still to be done finds the timer running and not scheduled.

`Arming.Holds` carries any property of the arming in force through a move, provided that it lasts in the
sections that can touch the timer (`Arming.Lasting`); being in time is one such property.
-/
import Executive.Proofs.Kernel.Objects
import Executive.Proofs.System

namespace Executive

open Executive.Kernel Executive.System

/-- How a timer was armed. -/
structure Arming where
  delay : Nat
  /-- The period with which the timer is armed when it fires. -/
  period : Option Nat
  /-- Other objects filled the heap, so that the timer was not scheduled. -/
  dropped : Bool
  /-- The ticks delivered since. -/
  elapsed : Nat := 0
  deriving DecidableEq, Repr

namespace Arming

variable {id : TimerId} {kernel kernel' : Kernel} {system system' : System} {signals : List Signal}
  {s t : Section} {arming : Option Arming}

/-! ## Keeping armings beside a run -/

/-- The arming that a timer is given in a kernel. -/
def made (kernel : Kernel) (id : TimerId) (delay : Nat) (period : Option Nat) : Arming where
  delay := delay
  period := period
  dropped := decide (kernel.heap.capacity ≤ kernel.heap.inUseBut (kernel.timerObject id))

/-- The arming after some ticks. -/
def after (delta : Nat) (arming : Arming) : Arming := { arming with elapsed := arming.elapsed + delta }

@[simp] theorem map_after_zero (arming : Option Arming) : arming.map (after 0) = arming := by
  cases arming <;> rfl

/-- The arming of a timer that fires in a kernel. -/
def next (kernel : Kernel) (id : TimerId) (arming : Arming) : Option Arming :=
  arming.period.map fun period => made kernel id period (some period)

/-- The arming of a timer after an operation on a kernel. -/
def noteOperation (id : TimerId) (kernel : Kernel) (succeeded : Bool) (arming : Option Arming) :
    Operation → Option Arming
  | .startTimer timer delay reload =>
    if timer = id ∧ succeeded = true then some (made kernel id delay (Timer.period? reload)) else arming
  | .abortTimer timer => if timer = id then none else arming
  | .deleteTimer timer => if timer = id then none else arming
  | _ => arming

/-- An operation that neither starts nor stops a timer leaves its arming in force. -/
theorem noteOperation_of_ne {succeeded : Bool} {operation : Operation}
    (hother : timerOf operation ≠ some id) :
    noteOperation id kernel succeeded arming operation = arming := by
  cases operation with
  | startTimer => exact if_neg fun h => hother (congrArg some h.1)
  | abortTimer => exact if_neg fun h => hother (congrArg some h)
  | deleteTimer => exact if_neg fun h => hother (congrArg some h)
  | _ => rfl

/-- The arming of a timer after a move. -/
def note (id : TimerId) (system : System) (move : Move) (answer : Answer) (signals : List Signal)
    (_ : System) (arming : Option Arming) : Option Arming :=
  match move with
  | .call operation => noteOperation id system.kernel answer.isSuccess arming operation
  | .advance delta => arming.map (after delta)
  | .act i =>
    if system.deliveries[i]? = some (some (.fireTimer id)) ∧ .report (.timerFired id) ∈ signals then
      arming.bind (next system.kernel id)
    else arming
  | _ => arming

/-! ## Properties of armings that last -/

/-- A running timer has an arming, of which `P` holds; one that is not running has none. -/
def Holds (P : Kernel → Arming → Prop) (id : TimerId) (kernel : Kernel) : Option Arming → Prop
  | none => ∀ target reload, kernel.timers.get id ≠ .ok { target, phase := .active reload }
  | some arming =>
    (∃ target, kernel.timers.get id = .ok { target, phase := .active arming.period }) ∧ P kernel arming

/-- A property of a timer and its arming that holds once the timer is armed in a kernel of which `bound`
holds, and that every section keeps. -/
structure Lasting (id : TimerId) (bound : Kernel → Prop) (P : Kernel → Arming → Prop) : Prop where
  congr : ∀ {a b : Kernel} {arming : Arming}, SameTimer id a b → P a arming → P b arming
  made : ∀ {a b : Kernel} {delay : Nat} {period : Option Nat} {action : TimerAction}, a.WellFormed →
    bound a → TimerHeap.Started (a.timerObject id) delay action a.heap b.heap →
    b.timerObject id = a.timerObject id → P b (made a id delay period)
  after : ∀ {a : Kernel} {arming : Arming} (delta : Nat), P a arming →
    P (a.setHeap (a.heap.advanceClock delta)) (arming.after delta)
  nextDue : ∀ {s t : Section} {arming : Arming} {action : Option TimerAction}, NextDue s action t →
    P s.kernel arming → P t.kernel arming

section Holds

variable {P : Kernel → Arming → Prop} {bound : Kernel → Prop}

theorem Holds.congr (hP : Lasting id bound P) (h : SameTimer id kernel kernel')
    (hholds : Holds P id kernel arming) : Holds P id kernel' arming := by
  cases arming with
  | none => unfold Holds; rw [h.get]; exact hholds
  | some arming =>
    obtain ⟨hrunning, hp⟩ := hholds
    exact ⟨by rw [h.get]; exact hrunning, hP.congr h hp⟩

theorem Holds.created (hP : Lasting id bound P) {target : TimerTarget} {r : Except Error TimerId}
    (hholds : Holds P id s.kernel arming) (h : TimerCreated target s r t) : Holds P id t.kernel arming := by
  cases h with
  | refused => exact hholds
  | @created new hvacant =>
    by_cases hnew : new = id
    · subst hnew
      have hlt := (Array.getElem?_eq_some_iff.1 hvacant).1
      cases arming with
      | none =>
        intro target' reload hget
        rw [timers_setTimer, TimerTable.get_set_self hlt] at hget
        cases hget
      | some arming =>
        obtain ⟨target', hget⟩ := hholds.1
        rw [TimerTable.get_eq_ok, hvacant] at hget
        cases hget
    · exact hholds.congr hP (SameTimer.setTimer hnew ..)

/-- A timer that has been started has the arming that it was given. -/
theorem holds_started (hP : Lasting id bound P) {delay : Nat} {reload : Option Nat}
    (hwf : s.kernel.WellFormed) (hbound : bound s.kernel) (h : TimerStarted id delay reload s (.ok ()) t) :
    Holds P id t.kernel (some (made s.kernel id delay (Timer.period? reload))) := by
  cases h with
  | started hget hstart =>
    exact ⟨⟨_, TimerTable.get_set_self (TimerTable.lt_size_of_get hget) _⟩, hP.made hwf hbound hstart rfl⟩

theorem Holds.started (hP : Lasting id bound P) {delay : Nat} {reload : Option Nat}
    {r : Except Error Unit} (hholds : Holds P id s.kernel arming) (hwf : s.kernel.WellFormed)
    (hbound : bound s.kernel) (h : TimerStarted id delay reload s r t) : Holds P id t.kernel
      (if r.isOk = true then some (Arming.made s.kernel id delay (Timer.period? reload)) else arming) := by
  cases r with
  | ok => exact holds_started hP hwf hbound h
  | error =>
    cases h with
    | refused => exact hholds

theorem holds_aborted {r : Except Error Unit} (h : TimerAborted id s r t) : Holds P id t.kernel none := by
  intro target reload hrunning
  cases h with
  | refused hget => rw [hget] at hrunning; cases hrunning
  | stopped hget | expired hget | idle hget =>
    have hidle := TimerTable.get_set_self (TimerTable.lt_size_of_get hget)
    simp only [timers_setTimer, timers_setHeap, hidle] at hrunning
    cases hrunning

theorem holds_deleted {r : Except Error Unit} (h : TimerDeleted id s r t) : Holds P id t.kernel none := by
  intro target reload hrunning
  cases h with
  | refused hget => rw [hget] at hrunning; cases hrunning
  | deleted hget =>
    have hvacant := TimerTable.get_vacated (TimerTable.lt_size_of_get hget)
    simp only [timers_setTimer, timers_setHeap, hvacant] at hrunning
    cases hrunning

theorem Holds.operation (hP : Lasting id bound P) {operation : Operation}
    {r : Except Error (Progress Value)} {succeeded : Bool} (hwf : s.kernel.WellFormed)
    (hbound : bound s.kernel) (hsucceeded : succeeded = true ↔ ∃ value, r = .ok (.returned value))
    (h : Performed s operation r t) (hholds : Holds P id s.kernel arming) :
    Holds P id t.kernel (noteOperation id s.kernel succeeded arming operation) := by
  by_cases hop : Concerns id operation
  · cases operation with
    | createTimer target =>
      obtain ⟨_, h, -⟩ := h
      exact hholds.created hP h
    | startTimer timer delay reload =>
      obtain rfl : timer = id := hop
      obtain ⟨r', h, rfl⟩ := h
      have hstarted := hholds.started hP hwf hbound h
      have hiff : succeeded = true ↔ r'.isOk = true := by
        rw [hsucceeded]
        cases r' with
        | error =>
          constructor
          · rintro ⟨_, heq⟩; cases heq
          · intro heq; cases heq
        | ok =>
          constructor
          · intro; rfl
          · intro; exact ⟨_, rfl⟩
      simp only [noteOperation, hiff, true_and]
      exact hstarted
    | abortTimer timer =>
      obtain rfl : timer = id := hop
      obtain ⟨_, h, -⟩ := h
      simp only [noteOperation, if_true]
      exact holds_aborted h
    | deleteTimer timer =>
      obtain rfl : timer = id := hop
      obtain ⟨_, h, -⟩ := h
      simp only [noteOperation, if_true]
      exact holds_deleted h
    | _ => exact hop.elim
  · rw [noteOperation_of_ne fun heq => hop (concerns_of_timerOf heq)]
    exact hholds.congr hP (h.sameTimer hop)

theorem Holds.after (hP : Lasting id bound P) (hholds : Holds P id kernel arming) (delta : Nat) :
    Holds P id (kernel.setHeap (kernel.heap.advanceClock delta)) (arming.map (after delta)) := by
  cases arming with
  | none => exact hholds
  | some arming => exact ⟨hholds.1, hP.after delta hholds.2⟩

theorem Holds.nextDue (hP : Lasting id bound P) {action : Option TimerAction}
    (hholds : Holds P id s.kernel arming) (h : NextDue s action t) : Holds P id t.kernel arming := by
  have htimers : t.kernel.timers = s.kernel.timers := by
    cases h with
    | popped | idle | rebased => rfl
  cases arming with
  | none => unfold Holds; rw [htimers]; exact hholds
  | some arming => exact ⟨by rw [htimers]; exact hholds.1, hP.nextDue h hholds.2⟩

/-! ## Firing -/

/-- A timer is left alone, or it fires. It fires if it is running and its object is not scheduled. -/
theorem left_alone_or_fires {r : Except Error Unit} (h : TimerFired id s r t) :
    (r = .ok () ∧ t = s ∧ ((s.kernel.heap.object (s.kernel.timerObject id)).slot ≠ 0 ∨
      ∀ target reload, s.kernel.timers.get id ≠ .ok { target, phase := .active reload })) ∨
    (.report (.timerFired id) ∈ t.signals ∧ (s.kernel.heap.object (s.kernel.timerObject id)).slot = 0 ∧
      ∃ target reload, s.kernel.timers.get id = .ok { target, phase := .active reload }) := by
  cases h with
  | scheduled hscheduled => exact Or.inl ⟨rfl, rfl, Or.inl hscheduled⟩
  | inactive hinactive => exact Or.inl ⟨rfl, rfl, Or.inr hinactive⟩
  | expired hslot hget hact =>
    exact Or.inr ⟨hact.signals_prefix.subset (by simp), hslot, _, _, hget⟩
  | rearmed hslot hget _ hact =>
    exact Or.inr ⟨hact.signals_prefix.subset (by simp), hslot, _, _, hget⟩

/-- A timer that fires gives up its arming, and gets the next one if it has a period. -/
theorem Holds.fired (hP : Lasting id bound P) {r : Except Error Unit}
    (hholds : Holds P id s.kernel arming) (hwf : s.kernel.WellFormed) (hbound : bound s.kernel)
    (h : TimerFired id s r t) (hfired : t ≠ s) :
    Holds P id t.kernel (arming.bind (next s.kernel id)) := by
  cases h with
  | scheduled => exact absurd rfl hfired
  | inactive => exact absurd rfl hfired
  | @expired target _ _ _ hget hact =>
    have hkeeps := hact.keepsTimers
    have hfiredEntry := TimerTable.get_set_self (TimerTable.lt_size_of_get hget) { target, phase := .fired }
    -- a timer without a period is not armed again
    have hnone : arming.bind (next s.kernel id) = none := by
      cases arming with
      | none => rfl
      | some arming =>
        obtain ⟨_, hrunning⟩ := hholds.1
        rw [hget] at hrunning
        cases arming
        cases hrunning
        rfl
    rw [hnone]
    intro target' reload hrunning
    rw [hkeeps.timers, timers_setTimer, hfiredEntry] at hrunning
    cases hrunning
  | @rearmed target period heap _ _ _ hget hstart hact =>
    have hkeeps := hact.keepsTimers
    have hsome : arming.bind (next s.kernel id) = some (made s.kernel id period (some period)) := by
      cases arming with
      | none => exact absurd hget (hholds target (some period))
      | some arming =>
        obtain ⟨_, hrunning⟩ := hholds.1
        rw [hget] at hrunning
        cases arming
        cases hrunning
        rfl
    have hstart' : TimerHeap.Started (s.kernel.timerObject id) period (.fireTimer id) s.kernel.heap
        t.kernel.heap := by rw [hkeeps.heap]; exact hstart
    have hobject : t.kernel.timerObject id = s.kernel.timerObject id := by
      unfold timerObject; rw [hkeeps.tasks_size]; rfl
    rw [hsome]
    exact ⟨⟨target, by rw [hkeeps.timers]; exact hget⟩, hP.made hwf hbound hstart' hobject⟩

theorem Holds.done (hP : Lasting id bound P) {action : TimerAction}
    (hholds : Holds P id s.kernel arming) (hwf : s.kernel.WellFormed) (hbound : bound s.kernel)
    (hnew : s.signals = []) (h : ActionDone s action t) : Holds P id t.kernel
      (if action = .fireTimer id ∧ .report (.timerFired id) ∈ t.signals then
        arming.bind (next s.kernel id) else arming) := by
  by_cases haction : action = .fireTimer id
  · subst haction
    -- a failed action is reported, and that is all the difference it makes
    have hrest {r : Except Error Unit} {u : Section} (hfired : TimerFired id s r u)
        (hkernel : t.kernel = u.kernel) (hsub : u.signals ⊆ t.signals) (hsame : u = s → t = s) :
        Holds P id t.kernel (if .report (.timerFired id) ∈ t.signals then
          arming.bind (next s.kernel id) else arming) := by
      rcases left_alone_or_fires hfired with ⟨-, rfl, -⟩ | ⟨hmem, -⟩
      · rw [hsame rfl, hnew, if_neg List.not_mem_nil]
        exact hholds
      · rw [if_pos (hsub hmem), hkernel]
        refine hholds.fired hP hwf hbound hfired ?_
        rintro rfl
        rw [hnew] at hmem
        exact List.not_mem_nil hmem
    simp only [true_and]
    cases h with
    | fired hfired => exact hrest hfired rfl (List.Subset.refl _) fun heq => heq
    | failed hfired =>
      refine hrest hfired rfl (List.subset_append_left ..) ?_
      rintro rfl
      rcases left_alone_or_fires hfired with ⟨herror, -⟩ | ⟨hmem, -⟩
      · cases herror
      · rw [hnew] at hmem
        exact absurd hmem List.not_mem_nil
  · rw [if_neg fun hboth => haction hboth.1]
    exact hholds.congr hP (h.sameTimer haction)

/-- A lasting property holds of the arming in force, move by move. -/
theorem Holds.move (hP : Lasting id bound P) {move : Move} {answer : Answer} (hwf : system.WellFormed)
    (hbound : bound system.kernel) (hholds : Holds P id system.kernel arming)
    (h : Moved system move answer signals system') :
    Holds P id system'.kernel (note id system move answer signals system' arming) := by
  cases h with
  | blocked hcall =>
    have hnote := Holds.operation (s := { kernel := system.kernel }) hP hwf.kernel hbound
      (show false = true ↔ _ from ⟨fun heq => (nomatch heq), fun ⟨_, heq⟩ => (nomatch heq)⟩) hcall hholds
    simp only [note, park, kernel_leave]
    exact hnote
  | @returned operation result t hcall =>
    simp only [note, kernel_leave]
    cases result with
    | error error =>
      exact Holds.operation (s := { kernel := system.kernel }) hP hwf.kernel hbound
        ⟨fun heq => (nomatch heq), fun ⟨_, heq⟩ => (nomatch heq)⟩ hcall hholds
    | ok value =>
      exact Holds.operation (s := { kernel := system.kernel }) hP hwf.kernel hbound
        ⟨fun _ => ⟨value, rfl⟩, fun _ => rfl⟩ hcall hholds
  | unready => exact hholds
  | waits => exact hholds
  | ended _ hlook =>
    simp only [note, kernel_leave]
    exact Holds.congr hP hlook.sameTimer hholds
  | began hnext =>
    simp only [note, kernel_leave]
    exact Holds.nextDue hP (hholds.after hP _) hnext
  | passed hnext =>
    simp only [note, kernel_leave]
    exact Holds.nextDue hP (hholds.after hP _) hnext
  | acted hdelivery hdone =>
    simp only [note, kernel_leave, hdelivery, Option.some.injEq]
    exact Holds.done (s := { kernel := system.kernel }) hP hholds hwf.kernel hbound rfl hdone
  | inactive hdelivery =>
    simp only [note, hdelivery, false_and, if_false]
    exact hholds
  | wentOn _ hnext =>
    simp only [note, kernel_leave]
    exact Holds.nextDue hP hholds hnext
  | delivered _ hnext =>
    simp only [note, kernel_leave]
    exact Holds.nextDue hP hholds hnext
  | busy => exact hholds

end Holds

/-! ## Armings that fit -/

/-- The object of a running timer is scheduled in time, or has expired in time, or the arming was
dropped. -/
def InTime (id : TimerId) (kernel : Kernel) (arming : Arming) : Prop :=
  if (kernel.heap.object (kernel.timerObject id)).slot = 0 then
    arming.dropped = true ∨ kernel.heap.span arming.delay ≤ arming.elapsed
  else
    arming.dropped = false ∧ kernel.heap.clock + kernel.heap.span arming.delay ≤
      (kernel.heap.object (kernel.timerObject id)).wake + arming.elapsed

/-- What the kernel holds of a timer fits its arming: a timer with an arming is running and in time, and
one without is not running. -/
def Fits (id : TimerId) (kernel : Kernel) (arming : Option Arming) : Prop :=
  Holds (InTime id) id kernel arming

theorem InTime.congr {arming : Arming} (h : SameTimer id kernel kernel')
    (htime : InTime id kernel arming) : InTime id kernel' arming := by
  unfold InTime
  rw [TimerHeap.span_congr h.maxTick arming.delay, h.clock, h.object.wake]
  simpa only [InTime, h.object.scheduled] using htime

/-- A timer that has just been started or has just been armed again is in time. -/
theorem inTime_made {delay : Nat} {period : Option Nat} {action : TimerAction}
    (hwf : kernel.WellFormed) (hclock : kernel.heap.clock + kernel.heap.maxTick ≤ UInt64.size)
    (hstart : TimerHeap.Started (kernel.timerObject id) delay action kernel.heap kernel'.heap)
    (hobject : kernel'.timerObject id = kernel.timerObject id) :
    InTime id kernel' (made kernel id delay period) := by
  have hscheduled := hstart.scheduled
  unfold InTime made
  rw [hobject]
  by_cases hslot : (kernel'.heap.object (kernel.timerObject id)).slot = 0
  · rw [if_pos hslot]
    exact Or.inl (decide_eq_true (Nat.le_of_not_lt fun hroom => hscheduled.2 hroom hslot))
  · rw [if_neg hslot]
    refine ⟨decide_eq_false (Nat.not_le.2 (hscheduled.1 hslot)), ?_⟩
    rw [hstart.wake, hstart.clock, TimerHeap.span_congr hstart.maxTick,
      TimerHeap.wakeAfter_of_room hwf.maxTick_le hclock]
    exact Nat.le_refl _

theorem InTime.after {arming : Arming} (htime : InTime id kernel arming) (delta : Nat) :
    InTime id (kernel.setHeap (kernel.heap.advanceClock delta)) (arming.after delta) := by
  have hspan : (kernel.heap.advanceClock delta).span arming.delay = kernel.heap.span arming.delay := rfl
  have hclock : (kernel.heap.advanceClock delta).clock ≤ kernel.heap.clock + delta :=
    Nat.min_le_left ..
  unfold InTime at htime
  show if (kernel.heap.object (kernel.timerObject id)).slot = 0 then _ else _
  split
  · rename_i hslot
    rw [if_pos hslot] at htime
    exact htime.imp_right fun hle => Nat.le_add_right_of_le hle
  · rename_i hslot
    rw [if_neg hslot] at htime
    refine ⟨htime.1, ?_⟩
    have hle := htime.2
    simp only [Arming.after, heap_setHeap, hspan]
    show _ ≤ (kernel.heap.object (kernel.timerObject id)).wake + _
    omega

theorem InTime.nextDue {arming : Arming} {action : Option TimerAction} (h : NextDue s action t)
    (htime : InTime id s.kernel arming) : InTime id t.kernel arming := by
  have hspan := TimerHeap.span_congr h.maxTick arming.delay
  unfold InTime at htime ⊢
  rw [h.timerObject id, hspan]
  cases h.turned (s.kernel.timerObject id) with
  | kept halike hclock => simpa only [halike.scheduled, halike.wake, hclock] using htime
  | taken hslot hdue hobject =>
    -- the object of the timer itself is taken out, and it is due
    rw [if_neg hslot] at htime
    have hle := htime.2
    rw [hobject, if_pos rfl]
    exact Or.inr (by omega)
  | setBack hslot hahead hobject hclock =>
    rw [if_neg hslot] at htime
    have hle := htime.2
    rw [hobject, if_neg hslot, hclock]
    exact ⟨htime.1, by dsimp only; omega⟩
  | off hslot hobject =>
    rw [if_pos hslot] at htime
    rw [hobject, if_pos hslot]
    exact htime

theorem lasting_inTime :
    Lasting id (fun kernel => kernel.heap.clock + kernel.heap.maxTick ≤ UInt64.size) (InTime id) where
  congr := InTime.congr
  made := inTime_made
  after delta htime := htime.after delta
  nextDue := InTime.nextDue

/-! ## A move and a run -/

/-- Time is left on the clock for the longest delay. -/
def ClockBounded (system : System) (_ : Move) : Prop :=
  system.kernel.heap.clock + system.kernel.config.maxTick ≤ UInt64.size

instance (system : System) (move : Move) : Decidable (ClockBounded system move) :=
  inferInstanceAs (Decidable (_ ≤ _))

theorem Fits.move {move : Move} {answer : Answer} (hwf : system.WellFormed)
    (hclock : ClockBounded system move) (hfits : Fits id system.kernel arming)
    (h : Moved system move answer signals system') :
    Fits id system'.kernel (note id system move answer signals system' arming) := by
  have hbound : system.kernel.heap.clock + system.kernel.heap.maxTick ≤ UInt64.size := by
    rw [hwf.kernel.maxTick_eq]; exact hclock
  exact Holds.move lasting_inTime hwf hbound hfits h

/-- Before its time, a running timer is off the heap exactly if the heap was full. -/
theorem Fits.early {arming : Arming} (hfits : Fits id kernel (some arming))
    (hearly : arming.elapsed < kernel.heap.span arming.delay) :
    (kernel.heap.object (kernel.timerObject id)).slot = 0 ↔ arming.dropped = true := by
  have hobject := hfits.2
  unfold InTime at hobject
  constructor
  · intro hslot
    rw [if_pos hslot] at hobject
    exact hobject.resolve_right (Nat.not_le.2 hearly)
  · intro hdropped
    refine Decidable.byContradiction fun hslot => ?_
    rw [if_neg hslot, hdropped] at hobject
    exact Bool.noConfusion hobject.1

end Arming

namespace System

variable {system system' : System} {signals : List Signal} {id : TimerId} {i : Nat} {arming : Option Arming}

/-- What doing the action of an expired timer comes to under the arming in force. -/
structure DoneAsArmed (system : System) (i : Nat) (id : TimerId) (arming : Option Arming)
    (signals : List Signal) (system' : System) : Prop where
  /-- The timer has fired, or nothing has happened. -/
  left_alone : .report (.timerFired id) ∉ signals →
    signals = [] ∧ system' = { system with deliveries := system.deliveries.set i none }
  /-- A timer does not fire without an arming that has been neither aborted nor deleted. -/
  armed : .report (.timerFired id) ∈ signals → arming.isSome
  /-- It fires before its time exactly if the heap was full when it was armed. -/
  early_iff : ∀ a, arming = some a → a.elapsed < system.kernel.config.span a.delay →
    (.report (.timerFired id) ∈ signals ↔ a.dropped = true)

theorem doneAsArmed_of_fired {r : Except Error Unit} {u : Section} (hwf : system.WellFormed)
    (hfits : Arming.Fits id system.kernel arming) (hfired : TimerFired id { kernel := system.kernel } r u)
    (hsub : u.signals ⊆ signals) (hsame : r = .ok () → u = { kernel := system.kernel } →
      signals = [] ∧ system' = { system with deliveries := system.deliveries.set i none }) :
    DoneAsArmed system i id arming signals system' := by
  rcases Arming.left_alone_or_fires hfired with ⟨hok, hkept, hwhy⟩ | ⟨hmem, hslot, target, reload, hget⟩
  · obtain ⟨rfl, hsystem⟩ := hsame hok hkept
    refine ⟨fun _ => ⟨rfl, hsystem⟩, fun hmem => absurd hmem List.not_mem_nil, fun a ha hearly => ?_⟩
    subst ha
    rw [← hwf.kernel.span_eq] at hearly
    refine iff_of_false List.not_mem_nil fun hdropped => ?_
    rcases hwhy with hslot | hinactive
    · exact hslot ((hfits.early hearly).2 hdropped)
    · obtain ⟨target, hrunning⟩ := hfits.1
      exact hinactive target a.period hrunning
  · refine ⟨fun hnot => absurd (hsub hmem) hnot, fun _ => ?_, fun a ha hearly => ?_⟩
    · cases arming with
      | none => exact absurd hget (hfits target reload)
      | some => rfl
    · subst ha
      rw [← hwf.kernel.span_eq] at hearly
      exact iff_of_true (hsub hmem) ((hfits.early hearly).1 hslot)

theorem act_doneAsArmed (hwf : system.WellFormed) (hfits : Arming.Fits id system.kernel arming)
    (hdelivery : system.deliveries[i]? = some (some (.fireTimer id))) :
    ∃ signals system', system.act i = .ok (signals, system') ∧
      DoneAsArmed system i id arming signals system' := by
  obtain ⟨answer, signals, system', hobserve, -, hmoved⟩ := act_spec hwf i
  refine ⟨signals, system', act_of_observe hobserve, ?_⟩
  cases hmoved with
  | inactive hnone => exact absurd hdelivery (hnone _)
  | acted hdelivery' hdone =>
    rw [hdelivery] at hdelivery'
    cases hdelivery'
    cases hdone with
    | fired hfired =>
      refine doneAsArmed_of_fired hwf hfits hfired (List.Subset.refl _) fun _ hkept => ?_
      subst hkept
      exact ⟨rfl, rfl⟩
    | failed hfired =>
      exact doneAsArmed_of_fired hwf hfits hfired (List.subset_append_left ..) fun hok => nomatch hok

/-- The arming in force of a timer at the end of a run. -/
def armingAfter (config : Config) (moves : List Move) (id : TimerId) : Option Arming :=
  recount (Arming.note id) { kernel := .ofConfig config } moves none

/-- In every run that leaves time on the clock, the action of an expired timer either changes nothing
or lets the timer fire for the arming in force: an aborted or deleted timer is left alone, and so is
one that was started anew, as long as it is scheduled. What fires before its time is exactly a timer
whose latest arming found the heap full. -/
theorem run_fires_armed_timers {config : Config} (h : config.fault? = none) (moves : List Move)
    (hclock : Along Arming.ClockBounded { kernel := .ofConfig config } moves) (id : TimerId) :
    ∃ system, run { kernel := .ofConfig config } moves = .ok system ∧ system.kernel.config = config ∧
      ∀ i, system.deliveries[i]? = some (some (.fireTimer id)) →
        ∃ signals system', system.act i = .ok (signals, system') ∧
          DoneAsArmed system i id (armingAfter config moves id) signals system' := by
  have hstart : Arming.Fits id (Kernel.ofConfig config) none :=
    fun _ _ => TimerTable.get_ofSize config.maxAppTimers _ _
  obtain ⟨system, hrun, hwf, hconfig, hfits⟩ := @run_induct _ (Arming.note id) Arming.ClockBounded
    (fun system arming => system.kernel.config = config ∧ Arming.Fits id system.kernel arming)
    (fun hwf hallowed hinv hmoved =>
      ⟨hmoved.config_eq.trans hinv.1, Arming.Fits.move hwf hallowed hinv.2 hmoved⟩)
    moves _ none (ofConfig_wellFormed h) hclock ⟨rfl, hstart⟩
  exact ⟨system, hrun, hconfig, fun i hdelivery => act_doneAsArmed hwf hfits hdelivery⟩

/-- A timer is started anew between its expiry and its action. -/
def restart : List Move :=
  [.call (.allocateTask "task" {}), .call (.createTimer (.event ⟨1⟩ 1)),
    .call (.createTimer (.event ⟨1⟩ 2)), .call (.startTimer ⟨0⟩ 1 none), .advance 1,
    .call (.startTimer ⟨0⟩ 100 none)]

/-- The pending action leaves a timer alone that was started anew. -/
theorem restart_left_alone : small.fault? = none ∧
    Along Arming.ClockBounded { kernel := .ofConfig small } restart ∧
    ∃ system, run { kernel := .ofConfig small } restart = .ok system ∧
      system.deliveries[0]? = some (some (.fireTimer ⟨0⟩)) ∧
      system.act 0 = .ok ([], { system with deliveries := system.deliveries.set 0 none }) := by
  have hvalid : small.fault? = none := by decide
  have hclock : Along Arming.ClockBounded { kernel := .ofConfig small } restart := by decide +kernel
  obtain ⟨system, hrun, hconfig, hdone⟩ := run_fires_armed_timers hvalid restart hclock ⟨0⟩
  have hdelivery : system.deliveries[0]? = some (some (.fireTimer ⟨0⟩)) := by
    have : (run { kernel := .ofConfig small } restart).toOption.map (·.deliveries[0]?) =
        some (some (some (.fireTimer ⟨0⟩))) := by decide +kernel
    rw [hrun] at this
    exact Option.some.inj this
  obtain ⟨signals, system', hact, hdone⟩ := hdone 0 hdelivery
  have harming : armingAfter small restart ⟨0⟩ = some { delay := 100, period := none, dropped := false } := by
    decide +kernel
  have hearly := hdone.early_iff _ harming (by rw [hconfig]; decide)
  obtain ⟨rfl, rfl⟩ := hdone.left_alone fun hmem => Bool.noConfusion (hearly.1 hmem)
  exact ⟨hvalid, hclock, system, hrun, hdelivery, hact⟩

/-- The other timer takes the place on the heap before the timer is started anew. -/
def droppedRestart : List Move :=
  [.call (.allocateTask "task" {}), .call (.createTimer (.event ⟨1⟩ 1)),
    .call (.createTimer (.event ⟨1⟩ 2)), .call (.startTimer ⟨0⟩ 1 none), .advance 1,
    .call (.startTimer ⟨1⟩ 100 none), .call (.startTimer ⟨0⟩ 100 none)]

/-- The pending action lets the timer fire at once that was started anew for 100 ticks. -/
theorem droppedRestart_fires_early : small.fault? = none ∧
    Along Arming.ClockBounded { kernel := .ofConfig small } droppedRestart ∧
    ∃ system signals system', run { kernel := .ofConfig small } droppedRestart = .ok system ∧
      system.deliveries[0]? = some (some (.fireTimer ⟨0⟩)) ∧
      system.act 0 = .ok (signals, system') ∧ .report (.timerFired ⟨0⟩) ∈ signals ∧
      ∃ arming, armingAfter small droppedRestart ⟨0⟩ = some arming ∧
        arming.elapsed < small.span arming.delay := by
  have hvalid : small.fault? = none := by decide
  obtain ⟨system, hrun, -⟩ := run_wellFormed hvalid droppedRestart
  have hact : (run { kernel := .ofConfig small } droppedRestart >>= (act · 0)).toOption.map (·.1) =
      some [.report (.timerFired ⟨0⟩), .report (.eventsPosted ⟨1⟩ 1 1)] := by decide +kernel
  obtain ⟨⟨_, system'⟩, hact, rfl⟩ := exists_of_run hrun hact
  have hdelivery : (run { kernel := .ofConfig small } droppedRestart).toOption.map (·.deliveries[0]?) =
      some (some (some (.fireTimer ⟨0⟩))) := by decide +kernel
  rw [hrun] at hdelivery
  refine ⟨hvalid, by decide +kernel, system, _, system', hrun, Option.some.inj hdelivery, hact,
    List.mem_cons_self .., { delay := 100, period := none, dropped := true }, ?_, by decide⟩
  decide +kernel

end System

end Executive
