/-
What critical sections have to do with interrupts. A call is cut short only where it finds the latch of
what it begins to wait on (`Performed.cut`). A blocked call that looks again gives up exactly if the
latch is set and its wait has not ended (`Resumed.interrupted_iff`). A call that gives up takes nothing
(`GaveUp`). While a call is blocked on an entry, nothing but an interrupt sets the latch there.
-/
import Executive.Proofs.Kernel.Entries
import Executive.Proofs.Kernel.Watch

namespace Executive

/-! ## Entries under blocked calls -/

/-- What becomes of the entry of a task in use on which no wait begins or ends: its latch is set by an
interrupt only, and the event wait that is stored there stays the same and is ended only where it has
got what it waits for. -/
theorem Task.Affected.flags {clears frees : Prop} {latch : Bool} {task new : Task}
    (h : Affected clears frees latch task new) (hbusy : task.busy = true) :
    new.interrupted = (task.interrupted || latch) ∧ new.mask = task.mask ∧
      new.condition = task.condition ∧
      (new.waiting = task.waiting ∨ new.waiting = false ∧ new.isSatisfied = true) := by
  cases h with
  | kept | cleared | freed => exact ⟨(Bool.or_false _).symm, rfl, rfl, Or.inl rfl⟩
  | latched => exact ⟨(Bool.or_true _).symm, rfl, rfl, Or.inl rfl⟩
  | allocated hvacant => rw [hvacant] at hbusy; cases hbusy
  | received task bits =>
    rw [Task.received]
    split
    · rename_i hwoken
      exact ⟨(Bool.or_false _).symm, rfl, rfl, Or.inr ⟨rfl, (Bool.and_eq_true_iff.1 hwoken).2⟩⟩
    · exact ⟨(Bool.or_false _).symm, rfl, rfl, Or.inl rfl⟩

namespace Queue

variable {kernel : Kernel} {closes : Prop} {latch : Bool} {queue new : Queue}

/-- A receiver that waits at a queue goes on to wait, with the latch set by an interrupt only, unless a
message comes or the queue is deleted. -/
theorem Affected.flags (h : Affected kernel closes latch queue new) (hwaiting : queue.waiting = true)
    (hbusy : queue.busy = true) (hcount : queue.count = 0) :
    new.waiting = true ∧ new.interrupted = (queue.interrupted || latch) ∧
        new.generation = queue.generation ∧ new.count = 0 ∨
      new.waiting = false ∧ (new.generation ≠ queue.generation ∨ 0 < new.count) := by
  cases h with
  | kept => exact Or.inl ⟨hwaiting, (Bool.or_false _).symm, rfl, hcount⟩
  | latched => exact Or.inl ⟨hwaiting, (Bool.or_true _).symm, rfl, hcount⟩
  | extended => exact Or.inr ⟨rfl, Or.inr (Nat.succ_pos _)⟩
  | popped _ hsome => exact absurd hcount (Nat.ne_of_gt hsome)
  | opened hvacant => rw [hvacant] at hbusy; cases hbusy
  | closed =>
    refine Or.inr ⟨rfl, Or.inl fun hsame => ?_⟩
    have hone : (1 : UInt64) = 0 := by
      rw [← UInt64.add_right_inj queue.generation, UInt64.add_zero]
      exact hsame
    cases hone

/-- A receiver that has been served does not wait again by itself. -/
theorem Affected.waiting (h : Affected kernel closes latch queue new) (hwaiting : queue.waiting = false) :
    new.waiting = false := by
  cases h with
  | kept | popped | latched => exact hwaiting
  | extended | opened | closed => rfl

end Queue

namespace Kernel

variable {s t : Section} {operation : Operation} {wait : Wait}

/-! ## Calls that are cut short at once -/

/-- An operation that parks waits on what it awaits. -/
theorem Performed.awaits_eq (h : Performed s operation (.ok (.parked wait)) t) :
    operation.awaits s.kernel = some wait.subject := by
  cases operation with
  | sleep =>
    cases Proceeds.parked h with
    | waits hget => simp only [Operation.awaits, hget, Wait.subject]
  | waitEvents =>
    cases Proceeds.parked h with
    | waits hget hmet htimeout =>
      subst htimeout
      simp [Operation.awaits, hget, hmet, Wait.subject]
  | receive =>
    cases Proceeds.parked h with
    | waits hget hcount htimeout => simp [Operation.awaits, hget, hcount, htimeout, Wait.subject]
  | _ => exact absurd h Gives.not_parked

/-- The call that is blocked on a subject has been told to give up. -/
def Latched (kernel : Kernel) : Gate × UInt64 → Prop
  | (.task id, generation) => generation = 0 ∧ ∃ task, kernel.tasks[id.index]? = some task ∧
    task.interrupted = true
  | (.queue id, generation) => ∃ queue, kernel.queues.queues[id.index]? = some queue ∧
    queue.generation = generation ∧ queue.interrupted = true

/-- A post is refused for want of room, or because the queue is not in use. -/
theorem push_refused (hwf : s.kernel.WellFormed) {id : QueueId} {message : Message} {mode : PostMode}
    {error : Error} (h : (s.kernel.queues.push id message mode).run = .ok (.error error)) :
    error = .invalidQueue id ∨ error = .queueFull ∨ error = .noFreeMessage := by
  cases hget : s.kernel.queues.get id with
  | error =>
    rw [QueueTable.push_of_get_error hget] at h
    cases h
    exact Or.inl (QueueTable.get_eq_error hget)
  | ok queue =>
    rcases Nat.lt_or_ge queue.count queue.depth with hroom | hfull
    · obtain ⟨free, members, hholds⟩ := hwf.queues
      cases free with
      | nil =>
        rw [QueueTable.push_exhausted hholds hget hroom] at h
        cases h
        exact Or.inr (Or.inr rfl)
      | cons =>
        obtain ⟨_, _, hpush, -⟩ := @QueueTable.push_spec _ _ _ _ _ message mode _ hholds hget hroom
        rw [hpush] at h
        cases h
    · rw [QueueTable.push_full hget hfull] at h
      cases h
      exact Or.inr (Or.inl rfl)

/-- An operation that is cut short has found the latch of what it begins to wait on. -/
theorem Performed.cut (hwf : s.kernel.WellFormed) (h : Performed s operation (.error .interrupted) t) :
    ∃ subject, operation.awaits s.kernel = some subject ∧ s.kernel.Latched subject := by
  cases operation with
  | sleep id =>
    cases Proceeds.refused h with
    | refused hget => cases TaskTable.get_eq_error hget
    | @interrupted task _ _ hget hlatched =>
      refine ⟨(.task id, 0), ?_, rfl, task, (TaskTable.get_eq_ok.1 hget).2.1, hlatched⟩
      simp only [Operation.awaits, hget]
  | waitEvents id =>
    generalize hcut : Error.interrupted = error at h
    cases Proceeds.refused h with
    | refused hget => subst hcut; cases TaskTable.get_eq_error hget
    | unmet _ _ htimeout => split at hcut <;> cases hcut
    | @interrupted task hget hmet htimeout hlatched =>
      subst htimeout
      refine ⟨(.task id, 0), ?_, rfl, task, (TaskTable.get_eq_ok.1 hget).2.1, hlatched⟩
      simp [Operation.awaits, hget, hmet]
  | receive id =>
    cases Proceeds.refused h with
    | refused hget => cases QueueTable.get_eq_error hget
    | @interrupted queue hget hcount htimeout hlatched =>
      refine ⟨(.queue id, queue.generation), ?_, queue, (QueueTable.get_eq_ok.1 hget).2.1, rfl, hlatched⟩
      simp [Operation.awaits, hget, hcount, htimeout]
  -- the other operations have their own errors
  | allocateTask name =>
    cases Gives.refused h with
    | refused hallocate =>
      unfold TaskTable.allocate at hallocate
      cases hplace : Registry.place s.kernel.tasks name .noFreeTask with
      | ok => rw [hplace] at hallocate; cases hallocate
      | error =>
        rw [hplace] at hallocate
        cases hallocate
        rcases Registry.place_eq_error hplace with heq | heq | heq <;> cases heq
  | createQueue name =>
    cases Gives.refused h with
    | refused hcreate =>
      unfold QueueTable.create at hcreate
      cases hplace : Registry.place s.kernel.queues.queues name .noFreeQueue with
      | ok => rw [hplace] at hcreate; cases hcreate
      | error =>
        rw [hplace] at hcreate
        cases hcreate
        rcases Registry.place_eq_error hplace with heq | heq | heq <;> cases heq
  | createTimer =>
    cases Gives.refused h with
    | refused hcreate =>
      unfold TimerTable.create at hcreate
      split at hcreate <;> cases hcreate
  | postMessage =>
    cases Gives.refused h with
    | refused hpush =>
      rcases push_refused hwf hpush with heq | heq | heq <;> cases heq
    | pushed _ _ _ hbound =>
      obtain ⟨⟨_, heq⟩, -⟩ := hbound.refused_eq
      cases heq
  | postEvents | postFromDriver =>
    obtain ⟨heq, -⟩ := EventsPosted.refused_eq (Gives.refused h)
    cases heq
  | clearEvents | freeTask | interruptTask =>
    cases Gives.refused h with
    | refused hget => cases TaskTable.get_eq_error hget
  | deleteQueue | interruptReceiver =>
    cases Gives.refused h with
    | refused hget => cases QueueTable.get_eq_error hget
  | startTimer | abortTimer | deleteTimer =>
    cases Gives.refused h with
    | refused hget => cases TimerTable.get_eq_error hget
  | deleteAllQueues => cases (Gives.refused h).result
  | identifyTask =>
    obtain ⟨hanswer, -⟩ := Gives.refused h
    unfold TaskTable.find at hanswer
    split at hanswer <;> cases hanswer
  | identifyQueue =>
    obtain ⟨hanswer, -⟩ := Gives.refused h
    unfold QueueTable.find at hanswer
    split at hanswer <;> cases hanswer
  | taskAttributes id | postedEvents id =>
    obtain ⟨hanswer, -⟩ := Gives.refused h
    cases hget : s.kernel.tasks.get id with
    | ok => rw [hget] at hanswer; cases hanswer
    | error =>
      rw [hget] at hanswer
      cases hanswer
      cases TaskTable.get_eq_error hget
  | queueLength id =>
    obtain ⟨hanswer, -⟩ := Gives.refused h
    cases hget : s.kernel.queues.get id with
    | ok => rw [hget] at hanswer; cases hanswer
    | error =>
      rw [hget] at hanswer
      cases hanswer
      cases QueueTable.get_eq_error hget
  | timerState =>
    obtain ⟨hanswer, -⟩ := Gives.refused h
    unfold TimerTable.state at hanswer
    split at hanswer <;> cases hanswer
  | freeContainers | ticks | scheduledObjects | config | coreSnapshot | queueSnapshot | coreText
    | queueText =>
    obtain ⟨hanswer, -⟩ := Gives.refused h
    cases hanswer

/-! ## Blocked calls that give up -/

/-- A call that looks again gives up exactly if it has been told to and its wait has not ended. -/
theorem Resumed.interrupted_iff {r : Except Error (Progress Value)} (h : Resumed s wait r t) :
    r = .error .interrupted ↔
      (s.kernel.watch wait).interrupted = true ∧ (s.kernel.watch wait).ended = false := by
  cases wait with
  | sleep =>
    obtain ⟨_, h, rfl⟩ := h
    cases h with
    | woken hentry hpending => simp [watch, hentry, hpending, Except.map]
    | interrupted hentry hpending hlatched => simp [watch, hentry, hpending, hlatched, Except.map]
    | waits hentry hpending hclear => simp [watch, hentry, hpending, hclear, Except.map]
  | events =>
    obtain ⟨_, h, rfl⟩ := h
    cases h with
    | woken hentry hwaiting => simp [watch, hentry, hwaiting, Except.map]
    | interrupted hentry hwaiting hlatched => simp [watch, hentry, hwaiting, hlatched, Except.map]
    | waits hentry hwaiting hclear => simp [watch, hentry, hwaiting, hclear, Except.map]
  | message =>
    obtain ⟨_, h, rfl⟩ := h
    cases h with
    | lost hentry hlost => simp [watch, hentry, hlost, Except.map]
    | served hentry _ hwaiting | unserved hentry _ hwaiting =>
      simp [watch, hentry, hwaiting, Except.map]
    | interrupted hentry hkept hwaiting hlatched =>
      simp [watch, hentry, hkept, hwaiting, hlatched, Except.map]
    | waits hentry hkept hwaiting hclear =>
      simp [watch, hentry, hkept, hwaiting, hclear, Except.map]

/-- The flag of a wait and the latch at its entry are clear. -/
def Clear (kernel : Kernel) : Wait → Prop
  | .sleep id => ∃ task, kernel.tasks[id.index]? = some task ∧ task.sleeping = false ∧
    task.interrupted = false
  | .events id _ _ => ∃ task, kernel.tasks[id.index]? = some task ∧ task.waiting = false ∧
    task.interrupted = false
  | .message id _ => ∃ queue, kernel.queues.queues[id.index]? = some queue ∧ queue.waiting = false ∧
    queue.interrupted = false

/-- A change of an entry that keeps its event word keeps all event words. -/
theorem posted_setTask {kernel : Kernel} {id : TaskId} {task new : Task}
    (hentry : kernel.tasks[id.index]? = some task) (hsame : new.posted = task.posted) (i : Nat) :
    ((kernel.setTask id new).tasks[i]?.map Task.posted) = kernel.tasks[i]?.map Task.posted := by
  rw [tasks_setTask, Array.getElem?_setIfInBounds]
  split
  · rename_i heq
    rw [← heq, hentry, if_pos (Array.getElem?_eq_some_iff.1 hentry).1]
    exact congrArg some hsame
  · rfl

/-- What a call does to the kernel that gives a wait up: it takes no events and no message, and leaves
its flag and the latch clear. -/
structure GaveUp (wait : Wait) (a b : Kernel) : Prop where
  posted : ∀ i : Nat, b.tasks[i]?.map Task.posted = a.tasks[i]?.map Task.posted
  slot : ∀ id, b.queues.slot id = a.queues.slot id
  clear : b.Clear wait

section GaveUp

variable {a : Kernel} {task new : Task} {queue : Queue}

theorem gaveUp_sleep {id : TaskId} (heap : TimerHeap) (hentry : a.tasks[id.index]? = some task)
    (hposted : new.posted = task.posted) (hsleeping : new.sleeping = false)
    (hinterrupted : new.interrupted = false) :
    GaveUp (.sleep id) a ((a.setHeap heap).setTask id new) := by
  have hentry' : (a.setHeap heap).tasks[id.index]? = some task := hentry
  refine ⟨posted_setTask hentry' hposted, fun _ => rfl, ?_⟩
  exact ⟨_, getElem?_setTask hentry' _, hsleeping, hinterrupted⟩

theorem gaveUp_events {id : TaskId} {mask : EventBits} {condition : Condition}
    (hentry : a.tasks[id.index]? = some task) (hposted : new.posted = task.posted)
    (hwaiting : new.waiting = false) (hinterrupted : new.interrupted = false) :
    GaveUp (.events id mask condition) a (a.setTask id new) := by
  refine ⟨posted_setTask hentry hposted, fun _ => rfl, ?_⟩
  exact ⟨_, getElem?_setTask hentry _, hwaiting, hinterrupted⟩

theorem gaveUp_message {id : QueueId} {generation : UInt64}
    (hentry : a.queues.queues[id.index]? = some queue) : GaveUp (.message id generation) a
      (a.setQueue id { queue with interrupted := false, waiting := false }) := by
  refine ⟨fun _ => rfl, fun _ => QueueTable.slot_setQueue hentry rfl rfl rfl, ?_⟩
  exact ⟨_, getElem?_putQueue hentry _ a.queues.pool, rfl, rfl⟩

theorem Resumed.gaveUp (h : Resumed s wait (.error .interrupted) t) : GaveUp wait s.kernel t.kernel := by
  cases wait with
  | sleep =>
    cases Proceeds.refused h with
    | interrupted hentry => exact gaveUp_sleep _ hentry rfl rfl rfl
  | events =>
    cases Proceeds.refused h with
    | interrupted hentry => exact gaveUp_events hentry rfl rfl rfl
  | message =>
    cases Proceeds.refused h with
    | interrupted hentry => exact gaveUp_message hentry

end GaveUp

end Kernel

end Executive
