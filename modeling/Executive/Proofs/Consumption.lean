/-
What event waits return. In a run in which one call at a time waits for the events of a task, a wait
that returns at once takes events that meet its condition. A blocked wait takes its events later than
the post that met its condition, and does not look at the condition again. `Interference` keeps, beside
a run, what comes in between: events that others remove, and the allocation of the freed entry of the
task. A wait that keeps its promise finds its condition met, and one that does not was interfered with.
-/
import Executive.Proofs.Kernel.Words
import Executive.Proofs.System

namespace Executive

open Executive.Kernel Executive.System

/-- Whether a wait is for events of a task. -/
def Wait.isForEvents (id : TaskId) : Wait → Bool
  | .events task _ _ => task == id
  | _ => false

namespace System

/-- The calls that wait for events of a task. -/
def waiters (id : TaskId) (system : System) : List Call :=
  system.calls.filter (·.wait.isForEvents id)

/-- The task for whose events a move waits. -/
def awaited : Move → Option TaskId
  | .call (.waitEvents task ..) => some task
  | _ => none

/-- At most one call at a time waits for events of a task. -/
def SoleWaiter (system : System) (move : Move) : Prop := ∀ task ∈ awaited move, waiters task system = []

instance (system : System) (move : Move) : Decidable (SoleWaiter system move) :=
  inferInstanceAs (Decidable (∀ task ∈ awaited move, waiters task system = []))

/-- The event word of a task. -/
def word (system : System) (id : TaskId) : EventBits := (system.kernel.tasks[id.index]?.getD {}).posted

end System

/-- What has happened to the event word of a task since a post met the condition of its wait. -/
structure Interference where
  /-- The events that were removed. -/
  cleared : EventBits := 0
  /-- The entry of the task was given to a new task. -/
  renewed : Bool := false
  deriving DecidableEq, Repr

namespace Interference

variable {id : TaskId} {system system' : System} {signals : List Signal} {s t : Section}
  {x : Interference} {task task' : Task} {mask : EventBits} {condition : Condition}

/-- The interference after an operation. -/
def noteOperation (id : TaskId) (kernel : Kernel) (x : Interference) : Operation → Outcome → Interference
  | .waitEvents task .., .blocked _ => if task = id then {} else x
  | .clearEvents task bits, .returned (.ok _) =>
    if task = id ∧ kernel.tasks[id.index]?.any Task.waiting = false then
      { x with cleared := x.cleared ||| bits }
    else x
  | .allocateTask .., .returned (.ok (.task task)) =>
    if task = id then { x with renewed := true } else x
  | _, _ => x

/-- The interference after a move. -/
def note (id : TaskId) (system : System) (move : Move) (answer : Answer) (_ : List Signal) (_ : System)
    (x : Interference) : Interference :=
  match move, answer with
  | .call operation, .outcome outcome => noteOperation id system.kernel x operation outcome
  | _, _ => x

/-- Whether there was none that matters for a mask. -/
def Spares (x : Interference) (mask : EventBits) : Prop := x.renewed = false ∧ x.cleared &&& mask = 0

/-- The entry of a task fits a call that waits for its events: the wait goes on as it was entered, or
it has been ended and its condition is still met unless there was interference. -/
def Fits (x : Interference) (task : Task) (mask : EventBits) (condition : Condition) : Prop :=
  task.waiting = true ∧ task.mask = mask ∧ task.condition = condition ∨
  task.waiting = false ∧ (x.Spares mask → condition.isMet task.posted mask = true)

theorem Fits.undisturbed (h : x.Fits task mask condition) (hsame : task.Undisturbed task') :
    x.Fits task' mask condition := by
  obtain ⟨hmask, hcondition, hword, hwaiting⟩ := hsame
  rcases h with ⟨hw, hm, hc⟩ | ⟨hw, hmet⟩
  · rcases hwaiting with hkept | ⟨hended, hsatisfied⟩
    · exact Or.inl ⟨hkept.trans hw, hmask.trans hm, hcondition.trans hc⟩
    · unfold Task.isSatisfied at hsatisfied
      rw [hmask, hm, hcondition, hc] at hsatisfied
      exact Or.inr ⟨hended, fun _ => hsatisfied⟩
  · refine Or.inr ⟨?_, fun hspares => Condition.isMet_mono hword (hmet hspares)⟩
    rcases hwaiting with hkept | ⟨hended, -⟩
    · exact hkept.trans hw
    · exact hended

/-- Removed events are interference once the wait has been ended. -/
theorem Fits.cleared (h : x.Fits task mask condition) (bits : EventBits) :
    Fits (if task.waiting = false then { x with cleared := x.cleared ||| bits } else x)
      (task.clear bits) mask condition := by
  rcases h with ⟨hw, hm, hc⟩ | ⟨hw, hmet⟩
  · exact Or.inl ⟨hw, hm, hc⟩
  · rw [if_pos hw]
    refine Or.inr ⟨hw, fun hspares => ?_⟩
    obtain ⟨hold, hbits⟩ := EventBits.or_and_eq_zero hspares.2
    exact (Condition.isMet_clear hbits).trans (hmet ⟨hspares.1, hold⟩)

/-- The entry of task `id` fits a call that waits for its events. -/
def FitsAt (x : Interference) (id : TaskId) (kernel : Kernel) (mask : EventBits) (condition : Condition) :
    Prop :=
  ∃ task, kernel.tasks[id.index]? = some task ∧ x.Fits task mask condition

theorem FitsAt.undisturbed {a b : Kernel} (h : x.FitsAt id a mask condition) (hsame : Undisturbed id a b) :
    x.FitsAt id b mask condition := by
  obtain ⟨task, hentry, hfits⟩ := h
  obtain ⟨task', hentry', htask⟩ := hsame task hentry
  exact ⟨task', hentry', hfits.undisturbed htask⟩

theorem FitsAt.allocated {name : String} {attributes : Attributes} {r : Except Error TaskId}
    (h : x.FitsAt id s.kernel mask condition) (hp : TaskAllocated name attributes s r t) :
    (noteOperation id s.kernel x (.allocateTask name attributes) (.returned (r.map .task))).FitsAt id
      t.kernel mask condition := by
  cases hp with
  | refused => exact h
  | @allocated new old hpos hentry =>
    by_cases hnew : new = id
    · subst hnew
      refine ⟨_, getElem?_setTask hentry _, Or.inr ⟨rfl, fun hspares => ?_⟩⟩
      simp [noteOperation, Except.map, Spares] at hspares
    · simp only [noteOperation, Except.map, hnew, if_false]
      exact h.undisturbed (Undisturbed.setTask_ne hnew _ _)

theorem FitsAt.cleared {bits : EventBits} {r : Except Error Unit} (h : x.FitsAt id s.kernel mask condition)
    (hp : EventsCleared id bits s r t) :
    (noteOperation id s.kernel x (.clearEvents id bits) (.returned (r.map fun _ => .done))).FitsAt id
      t.kernel mask condition := by
  cases hp with
  | refused => exact h
  | @cleared task hget =>
    have hentry := (TaskTable.get_eq_ok.1 hget).2.1
    obtain ⟨found, hfound, hfits⟩ := h
    rw [hentry] at hfound
    cases hfound
    refine ⟨_, getElem?_setTask hentry _, ?_⟩
    simpa [noteOperation, Except.map, hentry] using hfits.cleared bits

/-- A call by another user keeps an entry fitting, with the interference that it is. -/
theorem FitsAt.returned {operation : Operation} {result : Except Error Value}
    (h : x.FitsAt id s.kernel mask condition) (hop : ∀ mask condition timeout,
      operation ≠ .waitEvents id mask condition timeout)
    (hp : Performed s operation (result.map .returned) t) :
    (noteOperation id s.kernel x operation (.returned result)).FitsAt id t.kernel mask condition := by
  cases operation with
  | allocateTask name attributes =>
    obtain ⟨r, hallocated, rfl⟩ := Gives.result hp
    exact h.allocated hallocated
  | clearEvents task bits =>
    by_cases htask : task = id
    · subst htask
      obtain ⟨r, hcleared, rfl⟩ := Gives.result hp
      exact h.cleared hcleared
    · have hnote : noteOperation id s.kernel x (.clearEvents task bits) (.returned result) = x := by
        cases result with
        | error => rfl
        | ok => exact if_neg fun heq => htask heq.1
      rw [hnote]
      exact h.undisturbed (hp.undisturbed htask)
  | waitEvents task mask condition timeout =>
    have htask : task ≠ id := by rintro rfl; exact hop _ _ _ rfl
    exact h.undisturbed (hp.undisturbed htask)
  | _ => exact h.undisturbed (hp.undisturbed fun hdisturbs => hdisturbs)

/-! ## The invariant of a run -/

/-- One call at most waits for events of task `id`, and the entry of the task fits it. -/
structure Guards (x : Interference) (id : TaskId) (system : System) : Prop where
  sole : (waiters id system).length ≤ 1
  fits : ∀ call ∈ waiters id system, ∀ mask condition, call.wait = .events id mask condition →
    x.FitsAt id system.kernel mask condition

theorem guards_of_none (h : waiters id system = []) : x.Guards id system := by
  refine ⟨by rw [h]; exact Nat.zero_le 1, fun call hcall => ?_⟩
  rw [h] at hcall
  exact absurd hcall List.not_mem_nil

theorem waiters_perm (id : TaskId) {system system' : System} (h : system'.calls.Perm system.calls) :
    (waiters id system').Perm (waiters id system) := h.filter _

theorem waiters_cons (id : TaskId) {call : Call} (h : system'.calls.Perm (call :: system.calls)) :
    (waiters id system').Perm
      (if call.wait.isForEvents id = true then call :: waiters id system else waiters id system) := by
  refine (h.filter _).trans ?_
  rw [List.filter_cons]
  exact .refl _

theorem Guards.kept {x' : Interference} (h : x.Guards id system)
    (hcalls : (waiters id system').Perm (waiters id system))
    (hfits : ∀ mask condition, x.FitsAt id system.kernel mask condition →
      x'.FitsAt id system'.kernel mask condition) : x'.Guards id system' :=
  ⟨hcalls.length_eq ▸ h.sole, fun call hcall mask condition hwait =>
    hfits mask condition (h.fits call (hcalls.mem_iff.1 hcall) mask condition hwait)⟩

theorem isForEvents_iff {wait : Wait} :
    wait.isForEvents id = true ↔ ∃ mask condition, wait = .events id mask condition := by
  cases wait with
  | events task mask condition =>
    simp only [Wait.isForEvents, beq_iff_eq]
    constructor
    · rintro rfl; exact ⟨mask, condition, rfl⟩
    · rintro ⟨_, _, heq⟩; cases heq; rfl
  | sleep | message => exact ⟨nofun, nofun⟩

/-- A call that parks for events of a task has entered what it waits for. -/
theorem fitsAt_of_parked {operation : Operation} {x : Interference}
    (h : Performed s operation (.ok (.parked (.events id mask condition))) t) :
    x.FitsAt id t.kernel mask condition ∧ ∃ timeout, operation = .waitEvents id mask condition timeout := by
  cases operation with
  | waitEvents task mask' condition' timeout =>
    cases Proceeds.parked h with
    | waits hget =>
      have hentry := (TaskTable.get_eq_ok.1 hget).2.1
      exact ⟨⟨_, getElem?_setTask hentry _, Or.inl ⟨rfl, rfl, rfl⟩⟩, timeout, rfl⟩
  | sleep => cases Proceeds.parked h
  | receive => cases Proceeds.parked h
  | _ => exact absurd h Gives.not_parked

theorem undisturbed_leave (h : Undisturbed id system.kernel t.kernel) :
    Undisturbed id system.kernel (system.leave t).kernel := by
  rw [kernel_leave]; exact h

theorem Guards.blocked {operation : Operation} {wait : Wait} (h : x.Guards id system)
    (hrule : id ∈ awaited (.call operation) → waiters id system = [])
    (hcall : Performed { kernel := system.kernel } operation (.ok (.parked wait)) t)
    (hkernel : system'.kernel = t.kernel) {number : Nat}
    (hcalls : system'.calls.Perm ({ number, wait } :: system.calls)) :
    (noteOperation id system.kernel x operation (.blocked number)).Guards id system' := by
  have hwaiters := waiters_cons id hcalls
  by_cases hfor : wait.isForEvents id = true
  · rw [if_pos hfor] at hwaiters
    obtain ⟨mask, condition, rfl⟩ := isForEvents_iff.1 hfor
    obtain ⟨hfits, timeout, rfl⟩ := fitsAt_of_parked hcall
    rw [hrule rfl] at hwaiters
    simp only [noteOperation, if_true]
    refine ⟨by rw [hwaiters.length_eq]; exact Nat.le_refl 1, fun call hmem mask' condition' hwait => ?_⟩
    rw [List.mem_singleton.1 (hwaiters.mem_iff.1 hmem)] at hwait
    cases hwait
    rw [hkernel]
    exact hfits
  · rw [if_neg hfor] at hwaiters
    -- a call that parks for something else does not disturb the task
    have hkept : noteOperation id system.kernel x operation (.blocked number) = x ∧
        ¬ Disturbs id operation := by
      cases operation with
      | waitEvents task =>
        have htask : task ≠ id := by
          rintro rfl
          cases Proceeds.parked hcall with
          | waits => exact hfor (beq_self_eq_true _)
        exact ⟨if_neg htask, htask⟩
      | sleep | receive => exact ⟨rfl, fun hdisturbs => hdisturbs⟩
      | _ => exact absurd hcall Gives.not_parked
    rw [hkept.1]
    refine h.kept hwaiters fun mask condition hfits => hfits.undisturbed ?_
    rw [hkernel]
    exact hcall.undisturbed hkept.2

theorem Guards.returned {operation : Operation} {result : Except Error Value} (h : x.Guards id system)
    (hrule : id ∈ awaited (.call operation) → waiters id system = [])
    (hcall : Performed { kernel := system.kernel } operation (result.map .returned) t) :
    (noteOperation id system.kernel x operation (.returned result)).Guards id (system.leave t) := by
  by_cases hop : ∃ mask condition timeout, operation = .waitEvents id mask condition timeout
  · -- the wait has returned at once, and no other one was allowed beside it
    obtain ⟨mask, condition, timeout, rfl⟩ := hop
    refine guards_of_none ?_
    have hnone := waiters_perm id (@calls_leave system t)
    rw [hrule rfl] at hnone
    exact hnone.eq_nil
  · refine h.kept (waiters_perm id calls_leave) fun mask condition hfits => ?_
    rw [kernel_leave]
    refine hfits.returned (s := { kernel := system.kernel }) (fun _ _ _ heq => ?_) hcall
    exact hop ⟨_, _, _, heq⟩

theorem Guards.ended {i : Nat} {call : Call} {r : Except Error (Progress Value)} (h : x.Guards id system)
    (hready : system.ready[i]? = some call)
    (hlook : Resumed { kernel := system.kernel } call.wait r t) :
    x.Guards id ({ system with ready := system.ready.eraseIdx i }.leave t) := by
  have hleft := waiters_perm id (@calls_leave { system with ready := system.ready.eraseIdx i } t)
  have hsplit := waiters_cons id (calls_unready hready)
  by_cases hfor : call.wait.isForEvents id = true
  · -- the one wait for the task has returned
    refine guards_of_none ?_
    rw [if_pos hfor] at hsplit
    have hlength := hsplit.length_eq
    have hsole := h.sole
    rw [List.length_cons] at hlength
    have hnone : waiters id { system with ready := system.ready.eraseIdx i } = [] :=
      List.length_eq_zero_iff.1 (by omega)
    rw [hnone] at hleft
    exact hleft.eq_nil
  · rw [if_neg hfor] at hsplit
    refine h.kept (hleft.trans hsplit.symm) fun mask condition hfits => hfits.undisturbed ?_
    rw [kernel_leave]
    refine Resumed.undisturbed (s := { kernel := system.kernel }) hlook fun mask condition hwait => ?_
    exact hfor (isForEvents_iff.2 ⟨mask, condition, hwait⟩)

/-- A move that leaves the calls and the entry of the task alone. -/
theorem Guards.undisturbed (h : x.Guards id system) (hcalls : system'.calls.Perm system.calls)
    (hsame : Undisturbed id system.kernel system'.kernel) : x.Guards id system' :=
  h.kept (waiters_perm id hcalls) fun _ _ hfits => hfits.undisturbed hsame

/-- It is enough that no other call waits for events of the task when one begins to. -/
theorem Guards.moved {move : Move} {answer : Answer} (h : x.Guards id system)
    (hrule : id ∈ awaited move → waiters id system = []) (hmoved : Moved system move answer signals system') :
    (note id system move answer signals system' x).Guards id system' := by
  cases hmoved with
  | blocked hcall =>
    refine h.blocked hrule hcall ?_ ?_
    · exact kernel_leave
    · exact (calls_park _).trans (calls_leave.cons _)
  | returned hcall => exact h.returned hrule hcall
  | unready => exact h
  | waits hready =>
    exact h.undisturbed ((calls_park _).trans (calls_unready hready).symm) (.refl _ _)
  | ended hready hlook => exact h.ended hready hlook
  | began hnext => exact h.undisturbed calls_leave (undisturbed_leave hnext.undisturbed)
  | passed hnext => exact h.undisturbed calls_leave (undisturbed_leave hnext.undisturbed)
  | acted _ hdone =>
    refine h.undisturbed calls_leave ?_
    rw [kernel_leave]
    exact hdone.undisturbed
  | inactive => exact h
  | wentOn _ hnext => exact h.undisturbed calls_leave (undisturbed_leave hnext.undisturbed)
  | delivered _ hnext => exact h.undisturbed calls_leave (undisturbed_leave hnext.undisturbed)
  | busy => exact h

theorem Guards.move {move : Move} {answer : Answer} (h : x.Guards id system)
    (hrule : SoleWaiter system move) (hmoved : Moved system move answer signals system') :
    (note id system move answer signals system' x).Guards id system' :=
  h.moved (hrule id) hmoved

end Interference

/-! ## Waits that return events -/

namespace System

variable {system system' : System} {signals : List Signal} {t : Section} {id : TaskId} {task : Task}
  {mask bits : EventBits} {condition : Condition} {x : Interference}

theorem word_eq (h : system.kernel.tasks[id.index]? = some task) : system.word id = task.posted := by
  unfold word
  rw [h]
  rfl

theorem word_leave (h : t.kernel.tasks[id.index]? = some task) : (system.leave t).word id = task.posted :=
  word_eq (by rw [kernel_leave]; exact h)

/-- A wait that returns events at once has found its condition met. -/
theorem call_exact (hwf : system.WellFormed) {timeout : Timeout}
    (hcall : system.call (.waitEvents id mask condition timeout) =
      .ok (.returned (.ok (.bits bits)), signals, system')) :
    condition.Exact mask (system.word id) bits (system'.word id) := by
  obtain ⟨t, hperformed, -, rfl⟩ := call_returned hwf hcall
  obtain ⟨taken, hvalue, hawaited⟩ := Proceeds.returned hperformed
  cases hvalue
  cases hawaited with
  | met hget hmet =>
    have hentry := (TaskTable.get_eq_ok.1 hget).2.1
    rw [word_eq hentry, word_leave (getElem?_setTask hentry _)]
    exact (Condition.Taken.exact_iff ⟨rfl, rfl⟩).2 hmet

/-- A blocked wait takes events when it returns, and if there was no interference they are what it
has waited for. -/
theorem resume_taken (hwf : system.WellFormed) (hguards : x.Guards id system) {i : Nat} {call : Call}
    (hwait : call.wait = .events id mask condition)
    (hresume : system.resume i = .ok (some (call, some (.ok (.bits bits))), signals, system')) :
    condition.Taken mask (system.word id) bits (system'.word id) ∧
      (x.Spares mask → condition.isMet (system.word id) mask = true) := by
  obtain ⟨answer, _, _, hobserve, -, hmoved⟩ := resume_spec hwf i
  cases hmoved with
  | unready => rw [resume_of_observe hobserve] at hresume; cases hresume
  | waits => rw [resume_of_observe hobserve] at hresume; cases hresume
  | ended hready hlook =>
    rw [resume_of_observe hobserve] at hresume
    cases hresume
    have hmem : call ∈ waiters id system := List.mem_filter.2
      ⟨List.mem_append_right _ (List.mem_of_getElem? hready),
        Interference.isForEvents_iff.2 ⟨mask, condition, hwait⟩⟩
    obtain ⟨task, hentry, hfits⟩ := hguards.fits call hmem mask condition hwait
    rw [hwait] at hlook
    obtain ⟨taken, hvalue, hresumed⟩ := Proceeds.returned hlook
    cases hvalue
    cases hresumed with
    | woken hfound hwaiting =>
      rw [hentry] at hfound
      cases hfound
      rw [word_eq hentry, word_leave (getElem?_setTask hentry _)]
      refine ⟨⟨rfl, rfl⟩, fun hspares => ?_⟩
      rcases hfits with ⟨hw, -⟩ | ⟨-, hmet⟩
      · rw [hwaiting] at hw; cases hw
      · exact hmet hspares

/-- The interference with the wait for events of a task at the end of a run. -/
def interferenceAfter (config : Config) (moves : List Move) (id : TaskId) : Interference :=
  recount (Interference.note id) { kernel := .ofConfig config } moves {}

/-- In every run in which one call at a time waits for the events of a task, a wait that returns events
at once returns what it promises. One that has been blocked does so exactly if its condition is met
when it takes the events, and that it is unless, since a post met it, events of the mask were removed
or the entry of the task was given to a new task. -/
theorem run_consumes_events {config : Config} (h : config.fault? = none) (moves : List Move)
    (hrule : Along SoleWaiter { kernel := .ofConfig config } moves) (id : TaskId) (mask : EventBits)
    (condition : Condition) :
    ∃ system, run { kernel := .ofConfig config } moves = .ok system ∧
      (∀ timeout bits signals system', system.call (.waitEvents id mask condition timeout) =
          .ok (.returned (.ok (.bits bits)), signals, system') →
        condition.Exact mask (system.word id) bits (system'.word id)) ∧
      ∀ i call bits signals system', call.wait = .events id mask condition →
        system.resume i = .ok (some (call, some (.ok (.bits bits))), signals, system') →
        condition.Taken mask (system.word id) bits (system'.word id) ∧
        (condition.Exact mask (system.word id) bits (system'.word id) ↔
          condition.isMet (system.word id) mask = true) ∧
        ((interferenceAfter config moves id).Spares mask →
          condition.isMet (system.word id) mask = true) := by
  obtain ⟨system, hrun, hwf, hend⟩ := @run_induct _ (Interference.note id) SoleWaiter
    (fun system x => x.Guards id system) (fun _ hallowed hguards hmoved => hguards.move hallowed hmoved)
    moves _ {} (ofConfig_wellFormed h) hrule (Interference.guards_of_none rfl)
  refine ⟨system, hrun, fun timeout bits signals system' hcall => call_exact hwf hcall, ?_⟩
  intro i call bits signals system' hwait hresume
  obtain ⟨htaken, hmet⟩ := resume_taken hwf hend hwait hresume
  exact ⟨htaken, htaken.exact_iff, hmet⟩

/-- Two posts come before a blocked wait looks again. -/
def wokenWait : List Move :=
  [.call (.allocateTask "task" {}), .call (.waitEvents ⟨1⟩ 3 .any .indefinite),
    .call (.postEvents ⟨1⟩ 1), .call (.postEvents ⟨1⟩ 6)]

/-- The wait takes what it has asked for, and leaves the rest. -/
theorem wokenWait_exact : small.fault? = none ∧ Along SoleWaiter { kernel := .ofConfig small } wokenWait ∧
    ∃ system signals system', run { kernel := .ofConfig small } wokenWait = .ok system ∧
      system.resume 0 = .ok (some ({ number := 0, wait := .events ⟨1⟩ 3 .any }, some (.ok (.bits 3))),
        signals, system') ∧
      Condition.any.Exact 3 (system.word ⟨1⟩) 3 (system'.word ⟨1⟩) := by
  have hvalid : small.fault? = none := by decide
  have hrule : Along SoleWaiter { kernel := .ofConfig small } wokenWait := by decide +kernel
  obtain ⟨system, hrun, -, htaken⟩ := run_consumes_events hvalid wokenWait hrule ⟨1⟩ 3 .any
  have hlook : (run { kernel := .ofConfig small } wokenWait >>= (resume · 0)).toOption.map (·.1) =
      some (some ({ number := 0, wait := .events ⟨1⟩ 3 .any }, some (.ok (.bits 3)))) := by rfl
  obtain ⟨⟨_, signals, system'⟩, hresume, rfl⟩ := exists_of_run hrun hlook
  have hspares : (interferenceAfter small wokenWait ⟨1⟩).Spares 3 :=
    ⟨by decide +kernel, by decide +kernel⟩
  obtain ⟨-, hexact, hmet⟩ := htaken 0 _ 3 signals system' rfl hresume
  exact ⟨hvalid, hrule, system, signals, system', hrun, hresume, hexact.2 (hmet hspares)⟩

/-- The event that ends a blocked wait is removed before the wait looks again. -/
def clearedWait : List Move :=
  [.call (.allocateTask "task" {}), .call (.waitEvents ⟨1⟩ 1 .any .indefinite),
    .call (.postEvents ⟨1⟩ 1), .call (.clearEvents ⟨1⟩ 1)]

/-- The wait returns without any of the events it has asked for. -/
theorem clearedWait_not_exact : small.fault? = none ∧
    Along SoleWaiter { kernel := .ofConfig small } clearedWait ∧
    ∃ system signals system', run { kernel := .ofConfig small } clearedWait = .ok system ∧
      system.resume 0 = .ok (some ({ number := 0, wait := .events ⟨1⟩ 1 .any }, some (.ok (.bits 0))),
        signals, system') ∧
      ¬ Condition.any.Exact 1 (system.word ⟨1⟩) 0 (system'.word ⟨1⟩) := by
  have hvalid : small.fault? = none := by decide
  obtain ⟨system, hrun, -⟩ := run_wellFormed hvalid clearedWait
  have hlook : (run { kernel := .ofConfig small } clearedWait >>= (resume · 0)).toOption.map (·.1) =
      some (some ({ number := 0, wait := .events ⟨1⟩ 1 .any }, some (.ok (.bits 0)))) := by rfl
  obtain ⟨⟨_, signals, system'⟩, hresume, rfl⟩ := exists_of_run hrun hlook
  refine ⟨hvalid, by decide +kernel, system, signals, system', hrun, hresume, fun hexact => ?_⟩
  exact (hexact.any rfl).2 rfl

end System

end Executive
