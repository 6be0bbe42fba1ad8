/-
The clock in every run. No scheduled object is due later than the longest delay from now
(`TimerHeap.InReach`): a delivery moves the clock towards the due ticks, and a rebase takes the same off
both, so that it does not matter how many deliveries are in progress or which of them rebases. Between
deliveries the clock is below its bound, and a start is then exact since two such bounds fit in a word
(`TimerHeap.Settled`). The counter of ticks has all that were delivered (`run_bounds_clock`).
-/
import Executive.Proofs.Conservation
import Executive.Proofs.Timekeeping

namespace Executive

open Kernel (NextDue)
open TimerHeap (Handled clockLimit)

namespace TimerHeap

variable {a b heap : TimerHeap} {object : Option ObjectId} {id : ObjectId} {delay : Nat}

/-! ## Due ticks ahead of the clock -/

/-- The clock has a value it can have, and no scheduled object is due later than the longest delay from
now. -/
structure InReach (heap : TimerHeap) : Prop where
  clock_le : heap.clock ≤ clockLimit
  wake_le : ∀ j, (heap.object j).slot ≠ 0 → (heap.object j).wake ≤ heap.clock + (heap.maxTick - 1)

theorem ofSize_inReach (objects capacity maxTick : Nat) : (ofSize objects capacity maxTick).InReach where
  clock_le := Nat.zero_le _
  wake_le j hj := by
    rw [object_ofSize] at hj
    exact absurd rfl hj

namespace InReach

/-- A change of one object leaves the others in reach. -/
theorem of_agrees (h : a.InReach) (hag : AgreesBut id a b)
    (hid : (b.object id).slot ≠ 0 → (b.object id).wake ≤ a.clock + (a.maxTick - 1)) : b.InReach := by
  constructor
  · rw [hag.clock]
    exact h.clock_le
  · intro j hj
    rw [hag.clock, hag.maxTick]
    by_cases hji : j = id
    · subst hji
      exact hid hj
    · have halike := hag.alike j hji
      rw [halike.wake]
      exact h.wake_le j fun h0 => hj (halike.scheduled.2 h0)

theorem removed (h : a.InReach) (hremove : Removed id a b) : b.InReach :=
  h.of_agrees hremove.toAgreesBut fun hj => absurd (by rw [hremove.object]) hj

theorem started {action : TimerAction} (h : a.InReach) (hmax : 2 ≤ a.maxTick)
    (hstart : Started id delay action a b) : b.InReach := by
  refine h.of_agrees hstart.toAgreesBut fun _ => ?_
  have hspan := span_le hmax delay
  rw [hstart.wake]
  exact Nat.le_trans (Nat.min_le_left ..) (Nat.add_le_add_left hspan _)

theorem handled (h : a.InReach) (hmax : 2 ≤ a.maxTick) (hhandled : Handled a object b) : b.InReach := by
  cases hhandled with
  | kept => exact h
  | started _ _ hstart => exact h.started hmax hstart
  | removed hremove => exact h.removed hremove
  | cut hstart hremove => exact (h.started hmax hstart).removed hremove

/-- Ticks bring the clock closer to the due ticks, or past them. -/
theorem advanceClock (h : a.InReach) (delta : Nat) : (a.advanceClock delta).InReach where
  clock_le := Nat.min_le_right ..
  wake_le j hj := by
    have hle : a.clock ≤ (a.advanceClock delta).clock := Nat.le_min.2 ⟨Nat.le_add_right .., h.clock_le⟩
    exact Nat.le_trans (h.wake_le j hj) (Nat.add_le_add_right hle _)

theorem rebased (h : a.InReach) (hrebase : Rebased a b) : b.InReach := by
  constructor
  · rw [hrebase.clock]
    exact Nat.zero_le _
  · intro j hj
    rw [hrebase.object] at hj ⊢
    split at hj
    · rename_i h0
      exact absurd h0 hj
    · rename_i h0
      have hwake := h.wake_le j h0
      rw [if_neg h0, hrebase.clock, hrebase.maxTick]
      show (a.object j).wake - a.clock ≤ 0 + (a.maxTick - 1)
      omega

theorem nextDue {s t : Section} {action : Option TimerAction} (h : s.kernel.heap.InReach)
    (hnext : NextDue s action t) : t.kernel.heap.InReach := by
  cases hnext with
  | popped hpop => exact h.removed hpop.toRemoved
  | idle => exact h
  | rebased _ _ hrebase => exact h.rebased hrebase

end InReach

/-- The clock is below its bound and the scheduled objects are ahead of it, by less than the bound. What
is started is due exactly after its delay, with the delay brought into the range from 1 to
`maxTick - 1`. -/
structure Settled (heap : TimerHeap) : Prop where
  clock_lt : heap.clock < heap.maxTick
  wake : ∀ j, (heap.object j).slot ≠ 0 →
    heap.clock < (heap.object j).wake ∧ (heap.object j).wake ≤ heap.clock + (heap.maxTick - 1)
  start : ∀ id delay action, id < heap.objects.size → ∃ answer after,
    heap.start id delay action = .ok (answer, after) ∧
      (after.object id).wake = heap.clock + heap.span delay ∧
      ∀ wake, answer = .armed wake → wake = heap.clock + heap.span delay

theorem InReach.settled (h : heap.InReach) (hwf : heap.WellFormed) (hmax : 2 ≤ heap.maxTick)
    (hlimit : heap.maxTick ≤ Config.maxTickLimit) (hidle : heap.Idle) (hclock : heap.clock < heap.maxTick) :
    heap.Settled where
  clock_lt := hclock
  wake j hj := ⟨hidle j hj, h.wake_le j hj⟩
  start id delay action hid := by
    obtain ⟨answer, after, hstart, -, hstarted, hanswer⟩ := start_spec hwf hid hmax delay action
    -- the bound of the clock is in the lower half of the words
    have hhalf : 2 * Config.maxTickLimit ≤ UInt64.size := by decide
    have hwake := wakeAfter_of_room hmax (by omega) delay
    refine ⟨answer, after, hstart, hstarted.wake.trans hwake, fun wake harmed => ?_⟩
    rw [harmed] at hanswer
    split at hanswer
    · cases hanswer
      exact hwake
    · cases hanswer

end TimerHeap

namespace System

variable {system system' : System} {signals : List Signal} {s t : Section} {elapsed : Nat}

/-! ## Ticks -/

/-- The ticks that a move delivers. -/
def Move.ticks : Move → Nat
  | .advance delta => delta
  | _ => 0

/-- The ticks that a run delivers. -/
def delivered (moves : List Move) : Nat := (moves.map Move.ticks).sum

theorem delivered_append (moves rest : List Move) :
    delivered (moves ++ rest) = delivered moves + delivered rest := by
  simp [delivered]

/-- The ticks delivered so far. -/
def noteTicks (_ : System) (move : Move) (_ : Answer) (_ : List Signal) (_ : System) (elapsed : Nat) : Nat :=
  elapsed + move.ticks

theorem recount_noteTicks {moves : List Move} (hwf : system.WellFormed) (elapsed : Nat) :
    recount noteTicks system moves elapsed = elapsed + delivered moves := by
  refine (recount_eq_foldl (f := fun elapsed move => elapsed + move.ticks) hwf elapsed).trans ?_
  induction moves generalizing elapsed with
  | nil => rfl
  | cons move rest ih =>
    rw [List.foldl_cons, ih, delivered, delivered, List.map_cons, List.sum_cons, Nat.add_assoc]

theorem call_ticks (system : System) :
    system.call .ticks = .ok (.returned (.ok (.count system.kernel.heap.ticks)), [], system) :=
  call_eq_of_ends (by simp [Kernel.perform, Kernel.ticks, Except.map])

/-! ## The clock between two moves -/

/-- Scheduled objects are in reach, and the counter has the ticks delivered so far. -/
structure Clocked (system : System) (elapsed : Nat) : Prop where
  reach : system.kernel.heap.InReach
  ticks : system.kernel.heap.ticks = min elapsed clockLimit

theorem ofConfig_clocked (config : Config) : Clocked { kernel := .ofConfig config } 0 where
  reach := TimerHeap.ofSize_inReach ..
  ticks := rfl

namespace Clocked

/-- A section outside the deliveries moves neither the clock nor the counter. -/
theorem handled (h : system.Clocked elapsed) (hwf : system.WellFormed) {object : Option ObjectId}
    (hhandled : Handled system.kernel.heap object t.kernel.heap) (hkernel : system'.kernel = t.kernel) :
    system'.Clocked elapsed where
  reach := by
    rw [hkernel]
    exact h.reach.handled hwf.kernel.maxTick_le hhandled
  ticks := by
    rw [hkernel, hhandled.ticks]
    exact h.ticks

theorem nextDue (hreach : s.kernel.heap.InReach) (hticks : s.kernel.heap.ticks = min elapsed clockLimit)
    {next : Option TimerAction} (hnext : NextDue s next t) (hkernel : system'.kernel = t.kernel) :
    system'.Clocked elapsed where
  reach := by
    rw [hkernel]
    exact hreach.nextDue hnext
  ticks := by
    rw [hkernel, hnext.ticks]
    exact hticks

/-- The counter saturates as the sum of the ticks does. -/
theorem ticks_advanceClock (h : system.Clocked elapsed) (delta : Nat) :
    (system.kernel.heap.advanceClock delta).ticks = min (elapsed + delta) clockLimit := by
  show min (system.kernel.heap.ticks + delta) clockLimit = _
  rw [h.ticks]
  omega

theorem move {move : Move} {answer : Answer} (h : system.Clocked elapsed) (hwf : system.WellFormed)
    (hmoved : Moved system move answer signals system') : system'.Clocked (elapsed + move.ticks) := by
  cases hmoved with
  | unready | waits | inactive | busy => exact ⟨h.reach, h.ticks⟩
  | blocked hcall => exact h.handled hwf (hcall.handled hwf.kernel) kernel_leave
  | returned hcall => exact h.handled hwf (hcall.handled hwf.kernel) kernel_leave
  | ended _ hlook => exact h.handled hwf hlook.handled kernel_leave
  | acted _ hdone => exact h.handled hwf (hdone.handled hwf.kernel) kernel_leave
  | began hnext => exact nextDue (h.reach.advanceClock _) (h.ticks_advanceClock _) hnext kernel_leave
  | passed hnext => exact nextDue (h.reach.advanceClock _) (h.ticks_advanceClock _) hnext kernel_leave
  | wentOn _ hnext => exact nextDue h.reach h.ticks hnext kernel_leave
  | delivered _ hnext => exact nextDue h.reach h.ticks hnext kernel_leave

end Clocked

theorem run_clocked {config : Config} (h : config.fault? = none) (moves : List Move) :
    ∃ system, run { kernel := .ofConfig config } moves = .ok system ∧ system.WellFormed ∧
      system.kernel.config = config ∧ system.Timed ∧ system.Clocked (delivered moves) := by
  have hwf := ofConfig_wellFormed h
  obtain ⟨system, hrun, hend, hconfig, htimed, hclocked⟩ := @run_induct Nat noteTicks (fun _ _ => True)
    (fun system elapsed => system.kernel.config = config ∧ system.Timed ∧ system.Clocked elapsed)
    (fun hwf _ hinv hmoved => ⟨hmoved.config_eq.trans hinv.1, hinv.2.1.move hwf hmoved,
      hinv.2.2.move hwf hmoved⟩) moves _ 0 hwf (along_of_forall (fun _ _ => trivial) moves _)
    ⟨rfl, ofConfig_timed h, ofConfig_clocked config⟩
  rw [recount_noteTicks hwf, Nat.zero_add] at hclocked
  exact ⟨system, hrun, hend, hconfig, htimed, hclocked⟩

/-- In every run of a valid configuration the heap is settled while no delivery is in progress. At any
point no object is due later than the longest delay from now or than the last value of the clock. The
counter never decreases, and it gives all ticks delivered so far, up to the largest word. -/
theorem run_bounds_clock {config : Config} (h : config.fault? = none) (moves : List Move) :
    ∃ system, run { kernel := .ofConfig config } moves = .ok system ∧
      system.kernel.heap.maxTick = config.maxTick ∧
      (system.deliveries = [] → system.kernel.heap.Settled) ∧
      (∀ object, (system.kernel.heap.object object).slot ≠ 0 → (system.kernel.heap.object object).wake ≤
        min (system.kernel.heap.clock + (config.maxTick - 1)) clockLimit) ∧
      system.call .ticks = .ok (.returned (.ok (.count (min clockLimit (delivered moves)))), [], system) ∧
      ∀ rest, ∃ last, system.run rest = .ok last ∧
        system.kernel.heap.ticks ≤ last.kernel.heap.ticks := by
  obtain ⟨system, hrun, hwf, hconfig, htimed, hclocked⟩ := run_clocked h moves
  have hmaxTick : system.kernel.heap.maxTick = config.maxTick := hwf.kernel.maxTick_eq.trans (by rw [hconfig])
  refine ⟨system, hrun, hmaxTick, fun hnone => ?_, fun object hslot => ?_, ?_, fun rest => ?_⟩
  · obtain ⟨hidle, hclock⟩ := htimed.quiet hnone
    refine hclocked.reach.settled hwf.kernel.heap hwf.kernel.maxTick_le ?_ hidle hclock
    rw [hmaxTick]
    exact Config.maxTick_le h
  · rw [← hmaxTick]
    exact Nat.le_min.2 ⟨hclocked.reach.wake_le object hslot, (htimed.sound object hslot).2⟩
  · rw [call_ticks, hclocked.ticks, Nat.min_comm]
  · obtain ⟨last, hlast, -, -, -, hticks⟩ := run_clocked h (moves ++ rest)
    rw [run_append hrun] at hlast
    refine ⟨last, hlast, ?_⟩
    rw [hclocked.ticks, hticks.ticks, delivered_append]
    omega

/-- A delivery of nearly all ticks there are still holds the action of a sleep when another one begins and
ends and sets the clock back; a timer is then started for as long as possible. -/
def overlappingMoves : List Move :=
  [.call (.allocateTask "task" {}), .call (.sleep ⟨1⟩ 9), .call (.createTimer (.event ⟨1⟩ 1)),
    .advance (2 ^ 64 - 2), .advance 7, .call (.startTimer ⟨0⟩ (2 ^ 64 - 1) none)]

/-- The first delivery is still in progress, the timer is one tick short of the bound away, and the
counter has saturated. -/
theorem overlappingMoves_bounds_clock : small.fault? = none ∧
    ∃ system, run { kernel := .ofConfig small } overlappingMoves = .ok system ∧
      system.deliveries = [some (.wakeTask ⟨1⟩)] ∧ system.kernel.heap.clock = 0 ∧
      system.kernel.heap.wakeOf 2 = .ok (small.maxTick - 1) ∧
      system.call .ticks = .ok (.returned (.ok (.count (2 ^ 64 - 1))), [], system) := by
  obtain ⟨system, hrun, -, -, -, hticks, -⟩ :=
    run_bounds_clock (show small.fault? = none by decide) overlappingMoves
  have hend : (run { kernel := .ofConfig small } overlappingMoves).toOption.map (fun system =>
      (system.deliveries, system.kernel.heap.clock, (system.kernel.heap.wakeOf 2).toOption)) =
      some ([some (.wakeTask ⟨1⟩)], 0, some (small.maxTick - 1)) := by decide +kernel
  rw [hrun] at hend
  obtain ⟨hdeliveries, hend⟩ := Prod.mk.inj (Option.some.inj hend)
  obtain ⟨hclock, hwake⟩ := Prod.mk.inj hend
  refine ⟨by decide, system, hrun, hdeliveries, hclock, ?_, hticks⟩
  cases hwakeOf : system.kernel.heap.wakeOf 2 with
  | error => rw [hwakeOf] at hwake; cases hwake
  | ok wake => rw [hwakeOf] at hwake; exact congrArg Except.ok (Option.some.inj hwake)

end System

end Executive
