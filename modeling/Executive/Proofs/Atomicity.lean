/-
What errors leave behind. An operation that returns an error at once leaves the system as it was and
notifies nobody, with three exceptions (`Atomic`): a timer that has expired is idle after an abort, a post
whose bound task is not in use has posted its message all the same, and a call that begins to wait where
the blocked call has been told to give up is cut short in its place.
-/
import Executive.Proofs.Accounts
import Executive.Proofs.Kernel.Failures
import Executive.Proofs.Posting

namespace Executive

namespace System

open Kernel (CutShort Latched MessagePosted Performed Gives)

variable {system system' : System} {signals : List Signal} {t : Section} {id : QueueId}

/-! ## Calls that fail -/

theorem foldl_obey_of_silent (h : Silent signals) : signals.foldl obey system = system := by
  induction signals with
  | nil => rfl
  | cons signal rest ih =>
    cases signal with
    | report => exact ih fun gate hmem => h gate (List.mem_cons_of_mem _ hmem)
    | notify gate => exact absurd (List.mem_cons_self ..) (h gate)

/-- Where nobody is notified only the kernel changes. -/
theorem leave_of_silent (h : Silent t.signals) : system.leave t = { system with kernel := t.kernel } :=
  foldl_obey_of_silent h

/-- The system with another binding of one of its queues. -/
def rebind (system : System) (id : QueueId) (binding : Option Binding) : System :=
  { system with kernel := system.kernel.rebind id binding }

theorem WellFormed.rebind (h : system.WellFormed) {queue : Queue}
    (hget : system.kernel.queues.get id = .ok queue) (binding : Option Binding) :
    (system.rebind id binding).WellFormed :=
  h.leave (t := ⟨system.kernel.rebind id binding, []⟩) (h.kernel.rebind hget binding) rfl

theorem call_postMessage (h : system.WellFormed) (id : QueueId) (message : Message) (mode : PostMode) :
    ∃ r t, MessagePosted id message mode { kernel := system.kernel } r t ∧
      system.call (.postMessage id message mode) =
        .ok (.returned (r.map fun _ => .done), t.signals, system.leave t) := by
  obtain ⟨answer, _, _, hobserve, -, hmoved⟩ := call_spec h (.postMessage id message mode)
  cases hmoved with
  | blocked hparked => exact absurd hparked Gives.not_parked
  | returned hperformed =>
    obtain ⟨r, hposted, rfl⟩ := Gives.result hperformed
    exact ⟨r, _, hposted, call_of_observe hobserve⟩

/-- What operations that return an error at once leave behind, and when a post has posted its message. -/
structure Atomic (system : System) : Prop where
  /-- Most errors leave the system as it was. -/
  refused : ∀ operation error signals system',
    system.call operation = .ok (.returned (.error error), signals, system') →
    operation.leaves error = false → Silent signals ∧ system' = system
  /-- A timer that has fired is idle after an abort. -/
  expired : ∀ id signals system',
    system.call (.abortTimer id) = .ok (.returned (.error .timerExpired), signals, system') →
    Silent signals ∧ ∃ timer, system.kernel.timers.get id = .ok timer ∧ timer.phase = .fired ∧
      system' = { system with kernel := system.kernel.setTimer id (some { timer with phase := .idle }) }
  /-- A post whose bound task is not in use does what it does without the binding. -/
  unbound : ∀ id message mode task signals system',
    system.call (.postMessage id message mode) =
      .ok (.returned (.error (.invalidTask task)), signals, system') →
    ∃ queue after, system.kernel.queues.get id = .ok queue ∧
      (system.rebind id none).call (.postMessage id message mode) =
        .ok (.returned (.ok .done), signals, after) ∧
      system' = after.rebind id queue.binding
  /-- A call is cut short at once in the place of a blocked call that has been told to give up. -/
  cut : ∀ operation signals system',
    system.call operation = .ok (.returned (.error .interrupted), signals, system') →
    (∃ call ∈ system.calls, operation.awaits system.kernel = some call.wait.subject ∧
      system.kernel.Latched call.wait.subject) ∧
    Silent signals ∧ ∃ kernel, CutShort system.kernel operation kernel ∧ system' = { system with kernel }
  /-- A message is in its queue exactly after a post that has succeeded or could not tell the bound task;
  one that has succeeded has told it. -/
  posted : ∀ id message mode, ∃ result signals system',
    system.call (.postMessage id message mode) = .ok (.returned result, signals, system') ∧
      ((result = .ok .done ∨ ∃ task, result = .error (.invalidTask task)) ↔
        Enqueued id message mode system.kernel.queues.lists system'.kernel.queues.lists) ∧
      ∀ queue binding, system.kernel.queues.get id = .ok queue → queue.binding = some binding →
        result = .ok .done → ∃ task new, system.kernel.tasks.get binding.task = .ok task ∧
          system'.kernel.tasks.get binding.task = .ok new ∧
          new.posted = task.posted ||| binding.events ∧ new.postCount = task.postCount + 1

theorem Accounted.atomic (h : system.Accounted) (hwf : system.WellFormed) : system.Atomic where
  refused operation error signals system' hcall hleaves := by
    obtain ⟨t, hperformed, rfl, rfl⟩ := call_returned hwf hcall
    obtain ⟨hkernel, hsilent⟩ := Performed.refused hperformed hleaves
    refine ⟨hsilent silent_nil, ?_⟩
    rw [leave_of_silent (hsilent silent_nil), hkernel]
  expired id signals system' hcall := by
    obtain ⟨t, hperformed, rfl, rfl⟩ := call_returned hwf hcall
    obtain ⟨timer, hget, hphase, rfl⟩ := Performed.expired hperformed
    exact ⟨silent_nil, timer, hget, hphase, rfl⟩
  unbound id message mode task signals system' hcall := by
    obtain ⟨t, hperformed, rfl, rfl⟩ := call_returned hwf hcall
    obtain ⟨queue, hget, hunbound⟩ := MessagePosted.unbound (s := { kernel := system.kernel }) hwf.kernel
      (Gives.refused hperformed)
    obtain ⟨r, u, hposted, hafter⟩ := call_postMessage (hwf.rebind hget none) id message mode
    obtain ⟨rfl, rfl⟩ := hunbound r u hposted
    refine ⟨queue, _, hget, hafter, ?_⟩
    have hsame : (system.rebind id none).leave u = system.leave u := rfl
    rw [hsame, leave_eq, leave_eq]
    rfl
  cut operation signals system' hcall := by
    obtain ⟨t, hperformed, rfl, rfl⟩ := call_returned hwf hcall
    have hcut : Performed { kernel := system.kernel } operation (.error .interrupted) t := hperformed
    obtain ⟨subject, hawaits, hlatched⟩ := hcut.cut hwf.kernel
    obtain ⟨call, hcall, rfl⟩ := h.latched hlatched
    obtain ⟨hshort, hsilent⟩ := hcut.cutShort hwf.kernel
    refine ⟨⟨call, hcall, hawaits, hlatched⟩, hsilent silent_nil, t.kernel, hshort, ?_⟩
    exact leave_of_silent (hsilent silent_nil)
  posted id message mode := by
    obtain ⟨r, t, hposted, hcall⟩ := call_postMessage hwf id message mode
    refine ⟨_, _, _, hcall, ?_, fun queue binding hget hbinding hok => ?_⟩
    · rw [kernel_leave, ← hposted.enqueued_iff hwf.kernel]
      cases r with
      | error error => simp [Except.map]
      | ok => simp [Except.map]
    · cases r with
      | error => cases hok
      | ok =>
        obtain ⟨task, htask, hnew⟩ := hposted.task_received hget hbinding
        rw [kernel_leave]
        exact ⟨task, _, htask, hnew, Task.posted_received .., Task.postCount_received ..⟩

/-- In every state that a run reaches, an operation that returns an error at once has changed nothing and
notified nobody, but for the exceptions. -/
theorem run_atomic {config : Config} (h : config.fault? = none) (moves : List Move) :
    ∃ system, run { kernel := .ofConfig config } moves = .ok system ∧ system.Atomic := by
  obtain ⟨system, hrun, hwf, -, haccounted⟩ := run_invariant h (ofConfig_accounted config)
    (fun _ _ hinv hmoved => hinv.moved hmoved) moves
  exact ⟨system, hrun, haccounted.atomic hwf⟩

/-- A queue is created for a task that is not in use. -/
def orphanedQueue : List Move :=
  [.call (.createQueue "queue" { depth := 1, binding := some ⟨⟨1⟩, 1⟩ })]

/-- A post to the queue fails, and has posted its message. -/
theorem orphanedQueue_atomic : small.fault? = none ∧
    ∃ system signals system', run { kernel := .ofConfig small } orphanedQueue = .ok system ∧
      system.call (.postMessage ⟨1⟩ 7 .fifo) =
        .ok (.returned (.error (.invalidTask ⟨1⟩)), signals, system') ∧
      Enqueued ⟨1⟩ 7 .fifo system.kernel.queues.lists system'.kernel.queues.lists := by
  obtain ⟨system, hrun, hatomic⟩ := run_atomic (show small.fault? = none by decide) orphanedQueue
  obtain ⟨result, signals, system', hcall, henqueued, -⟩ := hatomic.posted ⟨1⟩ 7 .fifo
  have hfails : (run { kernel := .ofConfig small } orphanedQueue >>=
      (call · (.postMessage ⟨1⟩ 7 .fifo))).toOption.map (·.1) =
        some (.returned (.error (.invalidTask ⟨1⟩))) := by decide +kernel
  obtain ⟨_, hcall', hresult⟩ := exists_of_run hrun hfails
  cases hcall.symm.trans hcall'
  cases hresult
  exact ⟨by decide, system, signals, system', hrun, hcall, henqueued.1 (Or.inr ⟨_, rfl⟩)⟩

/-- The call that waits for an event of a task is told to give up. -/
def interruptedWait : List Move :=
  [.call (.allocateTask "task" {}), .call (.waitEvents ⟨1⟩ 1 .any .indefinite),
    .call (.interruptTask ⟨1⟩)]

/-- Another call that waits for events of the task gives up in its place, and has changed the entry. -/
theorem interruptedWait_changes : small.fault? = none ∧
    ∃ system signals system', run { kernel := .ofConfig small } interruptedWait = .ok system ∧
      system.call (.waitEvents ⟨1⟩ 2 .any .indefinite) =
        .ok (.returned (.error .interrupted), signals, system') ∧
      system'.kernel ≠ system.kernel := by
  obtain ⟨system, hrun, -⟩ := run_wellFormed (show small.fault? = none by decide) interruptedWait
  have hlatch : (run { kernel := .ofConfig small } interruptedWait).toOption.map
      (·.kernel.tasks[1]?.map Task.interrupted) = some (some true) := by decide +kernel
  have hfails : (run { kernel := .ofConfig small } interruptedWait >>=
      (call · (.waitEvents ⟨1⟩ 2 .any .indefinite))).toOption.map
        (fun p => (p.1, p.2.2.kernel.tasks[1]?.map Task.interrupted)) =
        some (.returned (.error .interrupted), some false) := by decide +kernel
  obtain ⟨⟨outcome, signals, system'⟩, hcall, hends⟩ := exists_of_run hrun hfails
  rw [hrun] at hlatch
  obtain ⟨rfl, hclear⟩ := Prod.mk.inj hends
  refine ⟨by decide, system, signals, system', hrun, hcall, fun hsame => ?_⟩
  rw [hsame] at hclear
  cases hclear.symm.trans (Option.some.inj hlatch)

end System

end Executive
