/-
What one move of a system does to an entry of the task table or of the queue table: it has nothing to
do with a wait there, or it is the call whose wait begins there, or a blocked call returns whose wait
was there. Invariants that relate the entries to the blocked calls are shown by cases on these.
-/
import Executive.Proofs.Kernel.Entries
import Executive.Proofs.System

namespace Executive.System

open Kernel (Performed Resumed)

variable {system system' : System} {signals : List Signal} {move : Move} {answer : Answer}

/-! ## What moves do -/

namespace Move

/-- The gate whose blocked call a move has told to give up. -/
def latches : Move → Answer → Option Gate
  | .call operation, .outcome (.returned result) => operation.latches (result.map .returned)
  | _, _ => none

/-- The task from whose event word a call that is made takes events at once. -/
def clears : Move → Answer → Option TaskId
  | .call operation, .outcome (.returned result) => operation.clears (result.map .returned)
  | _, _ => none

/-- The task that a move frees. -/
def frees : Move → Option TaskId
  | .call operation => operation.frees
  | _ => none

/-- Whether a move deletes a queue. -/
def Closes (id : QueueId) : Move → Prop
  | .call operation => operation.Closes id
  | _ => False

end Move

/-- What a move does to the entry of a task. -/
inductive TaskStep (system system' : System) (move : Move) (answer : Answer) (id : TaskId) :
    Task → Task → Prop
  /-- No wait begins or ends there. -/
  | affected {old new : Task}
    (hstays : ∀ call result, answer = .looked (some (call, some result)) → call.wait.gate ≠ .task id)
    (hchange : Task.Affected (move.clears answer = some id) (move.frees = some id)
      (move.latches answer == some (.task id)) old new) :
    TaskStep system system' move answer id old new
  /-- A wait begins there; if it parks, its call is among the blocked ones. -/
  | entered {operation : Operation} {r : Except Error (Progress Value)} {old new : Task}
    (hmove : move = .call operation) (hawaits : operation.awaits system.kernel = some (.task id, 0))
    (hparked : ∀ wait, r = .ok (.parked wait) → ∃ call ∈ system'.calls, call.wait = wait)
    (hchange : old.Entered id r new) : TaskStep system system' move answer id old new
  /-- A blocked call returns whose wait was there. -/
  | left {call : Call} {result : Except Error Value} {old new : Task}
    (hanswer : answer = .looked (some (call, some result))) (hchange : old.Left id call.wait result new) :
    TaskStep system system' move answer id old new

/-- What a move does to the entry of a queue. -/
inductive QueueStep (system system' : System) (move : Move) (answer : Answer) (id : QueueId) :
    Queue → Queue → Prop
  | affected {old new : Queue}
    (hstays : ∀ call result, answer = .looked (some (call, some result)) →
      call.wait ≠ .message id old.generation)
    (hchange : Queue.Affected system'.kernel (move.Closes id) (move.latches answer == some (.queue id))
      old new) :
    QueueStep system system' move answer id old new
  | entered {operation : Operation} {r : Except Error (Progress Value)} {old new : Queue}
    (hmove : move = .call operation)
    (hawaits : operation.awaits system.kernel = some (.queue id, old.generation))
    (hparked : ∀ wait, r = .ok (.parked wait) → ∃ call ∈ system'.calls, call.wait = wait)
    (hchange : old.Entered id r new) : QueueStep system system' move answer id old new
  | left {call : Call} {result : Except Error Value} {old new : Queue}
    (hanswer : answer = .looked (some (call, some result))) (hchange : old.Left id call.wait new) :
    QueueStep system system' move answer id old new

/-! ## What they do to entries -/

theorem latches_of_parked (operation : Operation) (wait : Wait) :
    operation.latches (.ok (.parked wait)) = none := by
  cases operation <;> rfl

theorem clears_of_parked (operation : Operation) (wait : Wait) :
    operation.clears (.ok (.parked wait)) = none := by
  cases operation <;> rfl

/-- What a move does to the entries of the tasks. -/
theorem Moved.tasks (hmoved : Moved system move answer signals system') :
    Each (fun i => TaskStep system system' move answer ⟨i⟩) system.kernel.tasks
      system'.kernel.tasks := by
  cases hmoved with
  | @blocked operation wait t hcall =>
    have hnew : ∃ call ∈ ({ system.leave t with callCount := system.callCount + 1 }.park
        { number := system.callCount, wait }).calls, call.wait = wait :=
      ⟨_, (calls_park _).mem_iff.2 (List.mem_cons_self ..), rfl⟩
    show Each _ _ (system.leave t).kernel.tasks
    rw [kernel_leave]
    refine hcall.tasks.mono ?_
    rintro i old new (hchange | ⟨hawaits, hchange⟩)
    · rw [latches_of_parked, clears_of_parked] at hchange
      exact .affected nofun (hchange.mono nofun id)
    · refine .entered rfl hawaits ?_ hchange
      rintro _ ⟨⟩
      exact hnew
  | @returned operation result t hcall =>
    rw [kernel_leave]
    refine hcall.tasks.mono ?_
    rintro i old new (hchange | ⟨hawaits, hchange⟩)
    · exact .affected nofun hchange
    · refine .entered rfl hawaits ?_ hchange
      intro wait hparked
      cases result <;> cases hparked
  | ended _ hlook =>
    rw [kernel_leave]
    refine hlook.tasks.mono ?_
    rintro i old new (⟨hgate, rfl⟩ | hchange)
    · refine .affected ?_ (.kept _)
      rintro _ _ ⟨⟩
      exact hgate
    · exact .left rfl hchange
  | unready | waits | inactive | busy =>
    exact .refl (fun _ task => .affected nofun (.kept task)) _
  | @began _ _ t hnext =>
    show Each _ _ (system.leave t).kernel.tasks
    rw [kernel_leave, hnext.tasks_eq]
    exact .refl (fun _ task => .affected nofun (.kept task)) _
  | passed hnext =>
    rw [kernel_leave, hnext.tasks_eq]
    exact .refl (fun _ task => .affected nofun (.kept task)) _
  | @wentOn _ _ t _ hnext | @delivered _ t _ hnext =>
    show Each _ _ (system.leave t).kernel.tasks
    rw [kernel_leave, hnext.tasks_eq]
    exact .refl (fun _ task => .affected nofun (.kept task)) _
  | acted _ hdone =>
    rw [kernel_leave]
    exact hdone.tasks.mono fun _ _ _ hchange => .affected nofun (hchange.mono nofun nofun)

/-- What a move does to the entries of the queues. -/
theorem Moved.queues (hmoved : Moved system move answer signals system') :
    Each (fun i => QueueStep system system' move answer ⟨i⟩) system.kernel.queues.queues
      system'.kernel.queues.queues := by
  cases hmoved with
  | @blocked operation wait t hcall =>
    have hnew : ∃ call ∈ ({ system.leave t with callCount := system.callCount + 1 }.park
        { number := system.callCount, wait }).calls, call.wait = wait :=
      ⟨_, (calls_park _).mem_iff.2 (List.mem_cons_self ..), rfl⟩
    have hkernel : ({ system.leave t with callCount := system.callCount + 1 }.park
      { number := system.callCount, wait }).kernel = t.kernel := kernel_leave
    rw [hkernel]
    refine hcall.queues.mono ?_
    rintro i old new (hchange | ⟨hawaits, hchange⟩)
    · rw [latches_of_parked, ← hkernel] at hchange
      exact .affected nofun hchange
    · refine .entered rfl hawaits ?_ hchange
      rintro _ ⟨⟩
      exact hnew
  | @returned operation result t hcall =>
    rw [kernel_leave]
    refine hcall.queues.mono ?_
    rintro i old new (hchange | ⟨hawaits, hchange⟩)
    · rw [← @kernel_leave system t] at hchange
      exact .affected nofun hchange
    · refine .entered rfl hawaits ?_ hchange
      intro wait hparked
      cases result <;> cases hparked
  | ended _ hlook =>
    rw [kernel_leave]
    refine hlook.queues.mono ?_
    rintro i old new (⟨hwait, rfl⟩ | hchange)
    · refine .affected ?_ (.kept _)
      rintro _ _ ⟨⟩
      exact hwait
    · exact .left rfl hchange
  | unready | waits | inactive | busy =>
    exact .refl (fun _ queue => .affected nofun (.kept queue)) _
  | @began _ _ t hnext =>
    show Each _ _ (system.leave t).kernel.queues.queues
    rw [kernel_leave, hnext.queues_eq]
    exact .refl (fun _ queue => .affected nofun (.kept queue)) _
  | passed hnext =>
    rw [kernel_leave, hnext.queues_eq]
    exact .refl (fun _ queue => .affected nofun (.kept queue)) _
  | @wentOn _ _ t _ hnext | @delivered _ t _ hnext =>
    show Each _ _ (system.leave t).kernel.queues.queues
    rw [kernel_leave, hnext.queues_eq]
    exact .refl (fun _ queue => .affected nofun (.kept queue)) _
  | @acted i _ t _ hdone =>
    have hkernel := @kernel_leave { system with deliveries := system.deliveries.set i none } t
    rw [hkernel]
    refine hdone.queues.mono fun _ _ _ hchange => .affected nofun ?_
    rw [← hkernel] at hchange
    exact hchange.mono nofun

/-- The system after a move is well formed. -/
theorem WellFormed.observe (h : system.WellFormed)
    (hobserve : system.observe move = .ok (answer, signals, system')) : system'.WellFormed := by
  obtain ⟨_, _, _, hsame, hwf, -⟩ := observe_spec h move
  cases hobserve.symm.trans hsame
  exact hwf

section Steps

variable (hmoved : Moved system move answer signals system') (hwf : system.WellFormed)
  (hwf' : system'.WellFormed)

include hmoved hwf hwf'

/-- The entry of a task is still there after a move. -/
theorem Moved.taskStep {id : TaskId} {old : Task} (hold : system.kernel.tasks[id.index]? = some old) :
    ∃ new, system'.kernel.tasks[id.index]? = some new ∧ TaskStep system system' move answer id old new := by
  have hsize : system'.kernel.tasks.size = system.kernel.tasks.size := by
    rw [hwf'.kernel.tasks_size, hwf.kernel.tasks_size, hmoved.config_eq]
  have hid : id.index < system'.kernel.tasks.size := hsize ▸ (Array.getElem?_eq_some_iff.1 hold).1
  have hnew := Array.getElem?_eq_getElem hid
  obtain ⟨found, hfound, hstep⟩ := hmoved.tasks id.index _ hnew
  cases hold.symm.trans hfound
  exact ⟨_, hnew, hstep⟩

/-- The entry of a queue is still there after a move. -/
theorem Moved.queueStep {id : QueueId} {old : Queue}
    (hold : system.kernel.queues.queues[id.index]? = some old) :
    ∃ new, system'.kernel.queues.queues[id.index]? = some new ∧
      QueueStep system system' move answer id old new := by
  have hsize : system'.kernel.queues.queues.size = system.kernel.queues.queues.size := by
    rw [hwf'.kernel.queues_size, hwf.kernel.queues_size, hmoved.config_eq]
  have hid : id.index < system'.kernel.queues.queues.size :=
    hsize ▸ (Array.getElem?_eq_some_iff.1 hold).1
  have hnew := Array.getElem?_eq_getElem hid
  obtain ⟨found, hfound, hstep⟩ := hmoved.queues id.index _ hnew
  cases hold.symm.trans hfound
  exact ⟨_, hnew, hstep⟩

end Steps

/-- A task in use stays in use until it is freed. -/
theorem TaskStep.busy {id : TaskId} {old new : Task} (h : TaskStep system system' move answer id old new)
    (hbusy : old.busy = true) (hfrees : move.frees ≠ some id) : new.busy = true := by
  cases h with
  | affected _ hchange =>
    generalize (move.latches answer == some (Gate.task id)) = latch at hchange
    cases hchange with
    | kept | cleared | latched => exact hbusy
    | received => rw [Task.busy_received]; exact hbusy
    | allocated => rfl
    | freed hfreed => exact absurd hfreed hfrees
  | entered _ _ _ hchange => cases hchange <;> exact hbusy
  | @left call _ _ _ _ hchange =>
    generalize call.wait = wait at hchange
    cases hchange <;> exact hbusy

/-- The event word of a task in use keeps its events, unless some are cleared or a wait takes them. -/
theorem TaskStep.word {id : TaskId} {old new : Task} (h : TaskStep system system' move answer id old new)
    (hbusy : old.busy = true) : old.posted &&& new.posted = old.posted ∨ move.clears answer = some id ∨
      ∃ call mask condition value, answer = .looked (some (call, some (.ok value))) ∧
        call.wait = .events id mask condition := by
  cases h with
  | affected _ hchange =>
    generalize (move.latches answer == some (Gate.task id)) = latch at hchange
    cases hchange with
    | kept | freed | latched => exact Or.inl (UInt32.and_self ..)
    | received => rw [Task.posted_received]; exact Or.inl (EventBits.and_or_self ..)
    | cleared hclears => exact Or.inr (Or.inl hclears)
    | allocated hvacant => rw [hvacant] at hbusy; cases hbusy
  | entered _ _ _ hchange => cases hchange <;> exact Or.inl (UInt32.and_self ..)
  | @left call _ _ _ hanswer hchange =>
    generalize hwait : call.wait = wait at hchange
    cases hchange with
    | sleep | cut => exact Or.inl (UInt32.and_self ..)
    | woken mask condition => exact Or.inr (Or.inr ⟨call, mask, condition, _, hanswer, hwait⟩)

/-- A queue in use stays what it is until it is deleted. -/
theorem QueueStep.busy {id : QueueId} {old new : Queue}
    (h : QueueStep system system' move answer id old new) (hbusy : old.busy = true)
    (hcloses : ¬ move.Closes id) :
    new.busy = true ∧ new.binding = old.binding ∧ new.generation = old.generation := by
  cases h with
  | affected _ hchange =>
    generalize (move.latches answer == some (Gate.queue id)) = latch at hchange
    cases hchange with
    | kept | extended | popped | latched => exact ⟨hbusy, rfl, rfl⟩
    | opened hvacant => rw [hvacant] at hbusy; cases hbusy
    | closed hclosed => exact absurd hclosed hcloses
  | entered _ _ _ hchange => cases hchange <;> exact ⟨hbusy, rfl, rfl⟩
  | @left call _ _ _ _ hchange =>
    generalize call.wait = wait at hchange
    cases hchange <;> exact ⟨hbusy, rfl, rfl⟩

/-- A queue gets more messages only by a post, with which its events are posted. -/
theorem QueueStep.count {id : QueueId} {old new : Queue}
    (h : QueueStep system system' move answer id old new) :
    new.count ≤ old.count ∨ system'.kernel.HasRung old.binding := by
  cases h with
  | affected _ hchange =>
    generalize (move.latches answer == some (Gate.queue id)) = latch at hchange
    cases hchange with
    | kept | latched => exact Or.inl (Nat.le_refl _)
    | extended _ _ hrung => exact Or.inr hrung
    | popped => exact Or.inl (Nat.sub_le ..)
    | opened | closed => exact Or.inl (Nat.zero_le _)
  | entered _ _ _ hchange => cases hchange <;> exact Or.inl (Nat.le_refl _)
  | @left call _ _ _ _ hchange =>
    generalize call.wait = wait at hchange
    cases hchange with
    | served => exact Or.inl (Nat.sub_le ..)
    | unserved | cut => exact Or.inl (Nat.le_refl _)

end Executive.System
