/-
No critical section breaks a rule: no entry beside a table is read or written, no count is taken from
a smaller one, and no number is brought into an empty range. That holds of every move that may follow
a run, and beyond that of every second look at an entry that is there and of every action an object
can have, whatever has become of the task, the queue or the timer since.
-/
import Executive.Proofs.System

namespace Executive.System

variable {system : System}

/-- No section that may come next breaks a rule. -/
structure Safe (system : System) : Prop where
  move : ∀ move, ∃ system', system.step move = .ok system'
  /-- A call that has waited at a gate for any time looks again. -/
  look : ∀ wait, system.kernel.hasGate wait.gate = true →
    ∃ result signals system', system.enter (Kernel.resume wait).run = .ok (result, signals, system')
  /-- The action that an object once had is done. -/
  action : ∀ object action, system.kernel.config.Serves object action →
    ∃ signals system', system.enter (Kernel.runAction action) = .ok ((), signals, system')

theorem WellFormed.safe (h : system.WellFormed) : system.Safe where
  move move := by
    obtain ⟨answer, signals, system', hobserve, -, -⟩ := observe_spec h move
    refine ⟨system', ?_⟩
    rw [step_eq, hobserve]
    rfl
  look wait hgate := by
    obtain ⟨result, t, henter, -⟩ :=
      enter_of_ends (Kernel.resume_spec (s := { kernel := system.kernel }) h.kernel hgate)
    exact ⟨result, t.signals, system.leave t, henter⟩
  action object action hserves := by
    obtain ⟨_, t, henter, -⟩ :=
      enter_of_ends (Kernel.runAction_spec (s := { kernel := system.kernel }) h.kernel hserves)
    exact ⟨t.signals, system.leave t, henter⟩

/-- A run of a valid configuration breaks no rule, and no section that may follow it does. -/
theorem run_safe {config : Config} (h : config.fault? = none) (moves : List Move) :
    ∃ system, run { kernel := .ofConfig config } moves = .ok system ∧
      system.kernel.config = config ∧ system.Safe := by
  obtain ⟨system, hrun, hwf, hconfig⟩ := run_wellFormed h moves
  exact ⟨system, hrun, hconfig, hwf.safe⟩

/-- A receiver is notified of the deletion of its queue, and a sleep ends by the release of its task;
a timer is deleted when its object has just expired. -/
def staleMoves : List Move :=
  [.call (.allocateTask "task" {}), .call (.createQueue "queue" { depth := 1 }),
    .call (.receive ⟨1⟩ .indefinite), .call (.sleep ⟨1⟩ 9), .call (.interruptTask ⟨1⟩),
    .call (.deleteQueue ⟨1⟩), .call (.freeTask ⟨1⟩), .call (.createTimer (.event ⟨1⟩ 1)),
    .call (.startTimer ⟨0⟩ 1 (some 5)), .advance (2 ^ 64 - 1), .call (.deleteTimer ⟨0⟩)]

/-- With both calls still to look and the action still to be done the system is safe. -/
theorem staleMoves_safe : small.fault? = none ∧
    ∃ system, run { kernel := .ofConfig small } staleMoves = .ok system ∧
      system.ready.map Call.wait = [.sleep ⟨1⟩, .message ⟨1⟩ 0] ∧
      system.deliveries = [some (.fireTimer ⟨0⟩)] ∧ system.Safe := by
  obtain ⟨system, hrun, -, hsafe⟩ := run_safe (show small.fault? = none by decide) staleMoves
  have hstale : (run { kernel := .ofConfig small } staleMoves).toOption.map (fun system =>
      (system.ready.map Call.wait, system.deliveries)) =
      some ([.sleep ⟨1⟩, .message ⟨1⟩ 0], [some (.fireTimer ⟨0⟩)]) := by decide +kernel
  rw [hrun] at hstale
  obtain ⟨hready, hdeliveries⟩ := Prod.mk.inj (Option.some.inj hstale)
  exact ⟨by decide, system, hrun, hready, hdeliveries, hsafe⟩

end Executive.System
