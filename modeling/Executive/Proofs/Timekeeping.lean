/-
What holds of the timer heap between any two moves of a run: scheduled objects are pending, at due
ticks the clock can reach, a timer whose object is scheduled is running, and while no delivery is in
progress nothing is due and the clock is below its bound.
-/
import Executive.Proofs.Kernel.Objects
import Executive.Proofs.System

namespace Executive

open Kernel
open TimerHeap (Handled clockLimit)

theorem Kernel.WellFormed.maxTick_lt {kernel : Kernel} (h : kernel.WellFormed) :
    kernel.heap.maxTick < clockLimit := by
  have hle := Config.maxTick_le h.valid
  rw [h.maxTick_eq]
  refine Nat.lt_of_le_of_lt hle ?_
  decide

namespace System

variable {system system' : System} {signals : List Signal} {s t : Section}

/-- The timer heap keeps time between two moves. -/
structure Timed (system : System) : Prop where
  sound : system.kernel.heap.Sound
  live : ∀ id, Live id system.kernel
  quiet : system.deliveries = [] →
    system.kernel.heap.Idle ∧ system.kernel.heap.clock < system.kernel.heap.maxTick

theorem ofConfig_timed {config : Config} (h : config.fault? = none) :
    Timed { kernel := .ofConfig config } where
  sound := TimerHeap.ofSize_sound _ _ _
  live _ hscheduled :=
    absurd (congrArg TimerObject.slot (TimerHeap.object_ofSize _ _ _ _)) hscheduled
  quiet _ := by
    refine ⟨TimerHeap.WellFormed.idle_of_empty (TimerHeap.ofSize_wellFormed ..) rfl, ?_⟩
    exact Nat.lt_of_lt_of_le Nat.two_pos (Config.two_le_maxTick h)

namespace Timed

/-- A section that handles one object at most keeps time. -/
theorem handled (h : system.Timed) (hwf : system.WellFormed) {object : Option ObjectId}
    (hhandled : Handled system.kernel.heap object t.kernel.heap)
    (hlive : ∀ id, Live id system.kernel → Live id t.kernel) (hkernel : system'.kernel = t.kernel)
    (hdeliveries : system'.deliveries = [] → system.deliveries = []) : system'.Timed := by
  have hmax := hwf.kernel.maxTick_lt
  refine ⟨?_, ?_, fun hnone => ?_⟩
  · rw [hkernel]; exact h.sound.handled hhandled
  · rw [hkernel]; exact fun id => hlive id (h.live id)
  · obtain ⟨hidle, hclock⟩ := h.quiet (hdeliveries hnone)
    rw [hkernel]
    refine ⟨hidle.handled (by omega) hhandled, ?_⟩
    rw [hhandled.clock, hhandled.maxTick]
    exact hclock

/-- So does one that takes out the next due object or ends a delivery. -/
theorem nextDue {next : Option TimerAction} (hsound : s.kernel.heap.Sound)
    (hlive : ∀ id, Live id s.kernel) (hwf : s.kernel.WellFormed) (hnext : NextDue s next t)
    (hkernel : system'.kernel = t.kernel) (hdeliveries : system'.deliveries = [] → next = none) :
    system'.Timed := by
  refine ⟨?_, ?_, fun hnone => ?_⟩
  · rw [hkernel]; exact hnext.sound hsound
  · rw [hkernel]; exact fun id => hnext.live (hlive id)
  · rw [hdeliveries hnone] at hnext
    rw [hkernel]; exact hnext.quiet hwf

theorem move {move : Move} {answer : Answer} (h : system.Timed) (hwf : system.WellFormed)
    (hmoved : Moved system move answer signals system') : system'.Timed := by
  cases hmoved with
  | unready | waits | inactive | busy => exact ⟨h.sound, h.live, h.quiet⟩
  | blocked hcall =>
    refine h.handled hwf (hcall.handled hwf.kernel) (fun _ => hcall.live) kernel_leave ?_
    exact fun hnone => deliveries_leave.symm.trans hnone
  | returned hcall =>
    refine h.handled hwf (hcall.handled hwf.kernel) (fun _ => hcall.live) kernel_leave ?_
    exact fun hnone => deliveries_leave.symm.trans hnone
  | ended _ hlook =>
    refine h.handled hwf hlook.handled (fun _ => hlook.sameTimer.live) kernel_leave fun hnone => ?_
    rwa [deliveries_leave] at hnone
  | acted hdelivery hdone =>
    refine h.handled hwf (hdone.handled hwf.kernel) (fun _ => hdone.live) kernel_leave fun hnone => ?_
    rw [deliveries_leave, List.set_eq_nil_iff] at hnone
    exact hnone
  | began hnext =>
    exact nextDue h.sound h.live (hwf.kernel.advanceClock _) hnext kernel_leave nofun
  | passed hnext =>
    exact nextDue h.sound h.live (hwf.kernel.advanceClock _) hnext kernel_leave fun _ => rfl
  | @wentOn i action t hdelivery hnext =>
    refine nextDue h.sound h.live hwf.kernel hnext kernel_leave fun hnone => ?_
    rw [List.set_eq_nil_iff] at hnone
    rw [hnone] at hdelivery
    cases hdelivery
  | delivered _ hnext => exact nextDue h.sound h.live hwf.kernel hnext kernel_leave fun _ => rfl

end Timed

/-- The timer heap keeps time in every run of a valid configuration. -/
theorem run_timed {config : Config} (h : config.fault? = none) (moves : List Move) :
    ∃ system, run { kernel := .ofConfig config } moves = .ok system ∧ system.WellFormed ∧
      system.kernel.config = config ∧ system.Timed :=
  run_invariant h (ofConfig_timed h) (fun hwf _ htimed hmoved => htimed.move hwf hmoved) moves

end System

end Executive
