/-
What critical sections do to the names in use. Entries change while they are in use, and they fall
vacant, but their names stay (`KeepsNames`). Only the allocation of a task and the creation of a queue
bring in a name.
-/
import Executive.Proofs.Kernel.Entries

namespace Executive

theorem Task.name_received (task : Task) (bits : EventBits) : (task.received bits).name = task.name := by
  rw [received]; split <;> rfl

namespace Kernel

open Critical Registry

variable {a b c : Kernel} {s t : Section} {id : TaskId} {queueId : QueueId}

/-- The names in use in one kernel are in use in another, in the same entries. -/
structure KeepsNames (a b : Kernel) : Prop where
  tasks : Keeps a.tasks b.tasks
  queues : Keeps a.queues.queues b.queues.queues

namespace KeepsNames

theorem of_tables (htasks : b.tasks = a.tasks) (hqueues : b.queues = a.queues) : KeepsNames a b := by
  constructor
  · rw [htasks]; exact .refl _
  · rw [hqueues]; exact .refl _

theorem refl (a : Kernel) : KeepsNames a a := of_tables rfl rfl

theorem trans (h : KeepsNames a b) (k : KeepsNames b c) : KeepsNames a c :=
  ⟨h.tasks.trans k.tasks, h.queues.trans k.queues⟩

/-- The entry of a task changes. -/
theorem of_task {old new : Task} (hold : a.tasks[id.index]? = some old)
    (htasks : b.tasks = a.tasks.setIfInBounds id.index new) (hqueues : b.queues = a.queues)
    (hnew : new.busy = true → old.busy = true ∧ old.name = new.name) : KeepsNames a b := by
  constructor
  · rw [htasks]; exact .set hold hnew
  · rw [hqueues]; exact .refl _

/-- The entry of a queue changes. -/
theorem of_queue {old new : Queue} {pool : MessagePool}
    (hold : a.queues.queues[queueId.index]? = some old) (htasks : b.tasks = a.tasks)
    (hqueues : b.queues = a.queues.put queueId new pool)
    (hnew : new.busy = true → old.busy = true ∧ old.name = new.name) : KeepsNames a b := by
  constructor
  · rw [htasks]; exact .refl _
  · rw [hqueues]; exact .set hold hnew

end KeepsNames

/-! ## Operations on tasks -/

theorem EventsPosted.keepsNames {bits : EventBits} {r : Except Error Unit} (h : EventsPosted id bits s r t) :
    KeepsNames s.kernel t.kernel := by
  cases h with
  | refused => exact .refl _
  | posted hget =>
    refine .of_task (TaskTable.get_eq_ok.1 hget).2.1 rfl rfl fun hbusy => ?_
    rw [Task.busy_received] at hbusy
    exact ⟨hbusy, (Task.name_received ..).symm⟩

theorem EventsCleared.keepsNames {bits : EventBits} {r : Except Error Unit}
    (h : EventsCleared id bits s r t) : KeepsNames s.kernel t.kernel := by
  cases h with
  | refused => exact .refl _
  | cleared hget => exact .of_task (TaskTable.get_eq_ok.1 hget).2.1 rfl rfl fun hbusy => ⟨hbusy, rfl⟩

theorem EventsAwaited.keepsNames {mask : EventBits} {condition : Condition} {timeout : Timeout}
    {r : Except Error (Progress EventBits)} (h : EventsAwaited id mask condition timeout s r t) :
    KeepsNames s.kernel t.kernel := by
  cases h with
  | refused | unmet => exact .refl _
  | met hget | interrupted hget | waits hget =>
    exact .of_task (TaskTable.get_eq_ok.1 hget).2.1 rfl rfl fun hbusy => ⟨hbusy, rfl⟩

theorem EventsResumed.keepsNames {mask : EventBits} {condition : Condition}
    {r : Except Error (Progress EventBits)} (h : EventsResumed id mask condition s r t) :
    KeepsNames s.kernel t.kernel := by
  cases h with
  | woken hentry | interrupted hentry => exact .of_task hentry rfl rfl fun hbusy => ⟨hbusy, rfl⟩
  | waits => exact .refl _

theorem TaskFreed.keepsNames {r : Except Error Unit} (h : TaskFreed id s r t) :
    KeepsNames s.kernel t.kernel := by
  cases h with
  | refused => exact .refl _
  | freed hget =>
    exact .of_task (TaskTable.get_eq_ok.1 hget).2.1 rfl rfl nofun

theorem TaskInterrupted.keepsNames {r : Except Error Bool} (h : TaskInterrupted id s r t) :
    KeepsNames s.kernel t.kernel := by
  cases h with
  | refused | unblocked => exact .refl _
  | interrupted hget => exact .of_task (TaskTable.get_eq_ok.1 hget).2.1 rfl rfl fun hbusy => ⟨hbusy, rfl⟩

theorem Slept.keepsNames {ticks : Nat} {r : Except Error (Progress Unit)} (h : Slept id ticks s r t) :
    KeepsNames s.kernel t.kernel := by
  cases h with
  | refused => exact .refl _
  | interrupted hget | waits hget =>
    have hentry := (TaskTable.get_eq_ok.1 hget).2.1
    exact .of_task hentry rfl rfl fun hbusy => ⟨hbusy, rfl⟩

theorem SleepResumed.keepsNames {r : Except Error (Progress Unit)} (h : SleepResumed id s r t) :
    KeepsNames s.kernel t.kernel := by
  cases h with
  | woken hentry => exact .of_task hentry rfl rfl fun hbusy => ⟨hbusy, rfl⟩
  | interrupted hentry =>
    exact .of_task hentry rfl rfl fun hbusy => ⟨hbusy, rfl⟩
  | waits => exact .refl _

/-! ## Operations on queues -/

theorem QueueDeleted.keepsNames {r : Except Error Unit} (h : QueueDeleted queueId s r t) :
    KeepsNames s.kernel t.kernel := by
  cases h with
  | refused => exact .refl _
  | deleted hget => exact .of_queue (QueueTable.get_eq_ok.1 hget).2.1 rfl rfl nofun

theorem AllQueuesDeleted.keepsNames {r : Except Error Unit} (h : AllQueuesDeleted s r t) :
    KeepsNames s.kernel t.kernel := by
  refine ⟨by rw [h.kernel]; exact .refl _, fun i name hname => ?_⟩
  obtain ⟨new, hnew, hbusy, hsame⟩ := nameAt?_eq_some.1 hname
  rw [h.entry, Option.map_eq_some_iff] at hnew
  obtain ⟨old, hold, rfl⟩ := hnew
  split at hbusy
  · cases hbusy
  · rename_i hvacant
    exact absurd hbusy hvacant

theorem BoundPosted.keepsNames {binding : Option Binding} {r : Except Error Unit}
    (h : BoundPosted binding s r t) : KeepsNames s.kernel t.kernel := by
  cases binding with
  | none => rw [h.2]; exact .refl _
  | some binding => exact EventsPosted.keepsNames h

theorem MessagePosted.keepsNames {message : Message} {mode : PostMode} {r : Except Error Unit}
    (h : MessagePosted queueId message mode s r t) : KeepsNames s.kernel t.kernel := by
  cases h with
  | refused => exact .refl _
  | pushed hget _ _ hbound =>
    refine KeepsNames.trans ?_ hbound.keepsNames
    exact .of_queue (QueueTable.get_eq_ok.1 hget).2.1 rfl rfl fun hbusy => ⟨hbusy, rfl⟩

theorem MessageTaken.keepsNames {message : Option Message} (h : MessageTaken queueId s message t) :
    KeepsNames s.kernel t.kernel := by
  cases h with
  | empty => exact .refl _
  | taken hentry => exact .of_queue hentry rfl rfl fun hbusy => ⟨hbusy, rfl⟩

theorem Received.keepsNames {timeout : Timeout} {r : Except Error (Progress Message)}
    (h : Received queueId timeout s r t) : KeepsNames s.kernel t.kernel := by
  cases h with
  | refused | empty => exact .refl _
  | served _ htaken => exact htaken.keepsNames
  | interrupted hget | waits hget =>
    exact .of_queue (QueueTable.get_eq_ok.1 hget).2.1 rfl rfl fun hbusy => ⟨hbusy, rfl⟩

theorem ReceiveResumed.keepsNames {generation : UInt64} {r : Except Error (Progress Message)}
    (h : ReceiveResumed queueId generation s r t) : KeepsNames s.kernel t.kernel := by
  have htake {queue : Queue} {message : Option Message} {signals : List Signal}
      (hentry : s.kernel.queues.queues[queueId.index]? = some queue)
      (htaken : MessageTaken queueId
        ⟨s.kernel.setQueue queueId { queue with interrupted := false }, signals⟩ message t) :
      KeepsNames s.kernel t.kernel := by
    refine KeepsNames.trans ?_ htaken.keepsNames
    exact .of_queue hentry rfl rfl fun hbusy => ⟨hbusy, rfl⟩
  cases h with
  | lost => exact .of_tables rfl rfl
  | waits => exact .refl _
  | served hentry _ _ htaken => exact htake hentry htaken
  | unserved hentry _ _ htaken => exact htake hentry htaken
  | interrupted hentry => exact .of_queue hentry rfl rfl fun hbusy => ⟨hbusy, rfl⟩

theorem ReceiverInterrupted.keepsNames {r : Except Error Bool} (h : ReceiverInterrupted queueId s r t) :
    KeepsNames s.kernel t.kernel := by
  cases h with
  | refused | unblocked => exact .refl _
  | interrupted hget => exact .of_queue (QueueTable.get_eq_ok.1 hget).2.1 rfl rfl fun hbusy => ⟨hbusy, rfl⟩

/-! ## Timers -/

theorem ActedOn.keepsNames {target : TimerTarget} {r : Except Error Unit} (h : ActedOn target s r t) :
    KeepsNames s.kernel t.kernel := by
  cases target with
  | event => exact EventsPosted.keepsNames h
  | message => exact MessagePosted.keepsNames h

theorem TimerFired.keepsNames {timer : TimerId} {r : Except Error Unit} (h : TimerFired timer s r t) :
    KeepsNames s.kernel t.kernel := by
  cases h with
  | scheduled | inactive => exact .refl _
  | expired _ _ hact => exact ⟨hact.keepsNames.tasks, hact.keepsNames.queues⟩
  | rearmed _ _ _ hact => exact ⟨hact.keepsNames.tasks, hact.keepsNames.queues⟩

theorem ActionDone.keepsNames {action : TimerAction} (h : ActionDone s action t) :
    KeepsNames s.kernel t.kernel := by
  cases h with
  | woken => exact .refl _
  | fired hfired => exact hfired.keepsNames
  | failed hfired => exact KeepsNames.trans hfired.keepsNames (.of_tables rfl rfl)

theorem NextDue.keepsNames {action : Option TimerAction} (h : NextDue s action t) :
    KeepsNames s.kernel t.kernel :=
  .of_tables h.tasks_eq h.queues_eq

/-! ## Operations and second looks -/

/-- An operation that may bring in a name. -/
def Names : Operation → Prop
  | .allocateTask .. | .createQueue .. => True
  | _ => False

theorem Performed.keepsNames {operation : Operation} {r : Except Error (Progress Value)}
    (h : Performed s operation r t) (hop : ¬ Names operation) : KeepsNames s.kernel t.kernel := by
  cases operation with
  | identifyTask | taskAttributes | postedEvents | identifyQueue | queueLength | freeContainers
    | timerState | ticks | scheduledObjects | config | coreSnapshot | queueSnapshot | coreText
    | queueText =>
    obtain ⟨_, ⟨-, rfl⟩, -⟩ := h
    exact .refl _
  | allocateTask | createQueue => exact absurd trivial hop
  | freeTask => obtain ⟨_, h, -⟩ := h; exact h.keepsNames
  | interruptTask => obtain ⟨_, h, -⟩ := h; exact h.keepsNames
  | sleep => obtain ⟨_, h, -⟩ := h; exact h.keepsNames
  | postEvents => obtain ⟨_, h, -⟩ := h; exact h.keepsNames
  | postFromDriver => obtain ⟨_, h, -⟩ := h; exact h.keepsNames
  | clearEvents => obtain ⟨_, h, -⟩ := h; exact h.keepsNames
  | waitEvents => obtain ⟨_, h, -⟩ := h; exact h.keepsNames
  | deleteQueue => obtain ⟨_, h, -⟩ := h; exact h.keepsNames
  | deleteAllQueues => obtain ⟨_, h, -⟩ := h; exact h.keepsNames
  | postMessage => obtain ⟨_, h, -⟩ := h; exact h.keepsNames
  | receive => obtain ⟨_, h, -⟩ := h; exact h.keepsNames
  | interruptReceiver => obtain ⟨_, h, -⟩ := h; exact h.keepsNames
  | createTimer | startTimer | abortTimer | deleteTimer =>
    obtain ⟨_, h, -⟩ := h
    cases h with
    | _ => exact .of_tables rfl rfl

theorem Resumed.keepsNames {wait : Wait} {r : Except Error (Progress Value)} (h : Resumed s wait r t) :
    KeepsNames s.kernel t.kernel := by
  cases wait with
  | sleep => obtain ⟨_, h, -⟩ := h; exact h.keepsNames
  | events => obtain ⟨_, h, -⟩ := h; exact h.keepsNames
  | message => obtain ⟨_, h, -⟩ := h; exact h.keepsNames

end Kernel

end Executive
