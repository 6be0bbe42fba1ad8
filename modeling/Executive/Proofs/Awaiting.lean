/-
Posts do not look at who waits. `Kernel.awaiting` is a kernel in which a wait has been entered before, so
that its flag is set unless the wait is over. A post does in it what it does in the kernel without the
wait, with the same result, and the flag is then what it should be: whatever the post has brought about,
the wait is still the one that would have been entered (`Performed.awaiting`).
-/
import Executive.Proofs.Posting

namespace Executive

/-! ## Entries -/

namespace Task

variable {task : Task} {id : TaskId} {wait : Wait} {mask : EventBits} {condition : Condition}

/-- The entry of a task in which a wait for its events has been entered. -/
def awaitingEvents (task : Task) (mask : EventBits) (condition : Condition) : Task :=
  { task with mask, condition, waiting := !condition.isMet task.posted mask }

/-- The entry of a task in which a wait has been entered, if it is for its events. -/
def awaiting (task : Task) (id : TaskId) : Wait → Task
  | .events other mask condition => if other = id then task.awaitingEvents mask condition else task
  | .sleep _ | .message _ _ => task

@[simp] theorem busy_awaiting : (task.awaiting id wait).busy = task.busy := by
  cases wait with
  | events => simp only [awaiting]; split <;> rfl
  | sleep | message => rfl

/-- A post leaves a wait that it does not end. -/
theorem received_eq (task : Task) (bits : EventBits) : task.received bits =
    { task.post bits with waiting := task.waiting && !(task.post bits).isSatisfied } := by
  have hwaiting : (task.post bits).waiting = task.waiting := rfl
  unfold received isWokenBy
  rw [hwaiting]
  cases hw : task.waiting with
  | false => rw [Bool.false_and, if_neg Bool.false_ne_true, Bool.false_and, ← hw]; rfl
  | true =>
    cases (task.post bits).isSatisfied with
    | false => rw [Bool.and_false, if_neg Bool.false_ne_true, Bool.not_false, Bool.true_and, ← hw]; rfl
    | true => rfl

/-- A post ends the wait exactly if it meets its condition, for one that is met stays met. -/
theorem received_awaitingEvents (bits : EventBits) :
    (task.awaitingEvents mask condition).received bits =
      (task.received bits).awaitingEvents mask condition := by
  have hsub : task.posted &&& (task.posted ||| bits) = task.posted := EventBits.and_or_self ..
  have hflag : (!condition.isMet task.posted mask && !condition.isMet (task.posted ||| bits) mask) =
      !condition.isMet (task.posted ||| bits) mask := by
    cases hmet : condition.isMet task.posted mask with
    | false => rfl
    | true => rw [Condition.isMet_mono hsub hmet]; rfl
  rw [received_eq, received_eq]
  simp only [awaitingEvents, post, isSatisfied, hflag]

theorem received_awaiting (bits : EventBits) :
    (task.awaiting id wait).received bits = (task.received bits).awaiting id wait := by
  cases wait with
  | sleep | message => rfl
  | events =>
    simp only [awaiting]
    split
    · exact received_awaitingEvents bits
    · rfl

end Task

namespace Queue

variable {queue : Queue} {id : QueueId} {wait : Wait}

/-- The entry of a queue in which a wait has been entered, if it is for its messages. -/
def awaiting (queue : Queue) (id : QueueId) : Wait → Queue
  | .message other _ => if other = id then { queue with waiting := queue.count == 0 } else queue
  | .sleep _ | .events _ _ _ => queue

@[simp] theorem busy_awaiting : (queue.awaiting id wait).busy = queue.busy := by
  cases wait with
  | message => simp only [awaiting]; split <;> rfl
  | sleep | events => rfl

@[simp] theorem depth_awaiting : (queue.awaiting id wait).depth = queue.depth := by
  cases wait with
  | message => simp only [awaiting]; split <;> rfl
  | sleep | events => rfl

@[simp] theorem count_awaiting : (queue.awaiting id wait).count = queue.count := by
  cases wait with
  | message => simp only [awaiting]; split <;> rfl
  | sleep | events => rfl

@[simp] theorem chain_awaiting : (queue.awaiting id wait).chain = queue.chain := by
  cases wait with
  | message => simp only [awaiting]; split <;> rfl
  | sleep | events => rfl

@[simp] theorem binding_awaiting : (queue.awaiting id wait).binding = queue.binding := by
  cases wait with
  | message => simp only [awaiting]; split <;> rfl
  | sleep | events => rfl

/-- A message that has come ends the wait. -/
theorem extended_awaiting (chain : Chain) :
    Kernel.extended (queue.awaiting id wait) chain = (Kernel.extended queue chain).awaiting id wait := by
  cases wait with
  | message => simp only [awaiting]; split <;> rfl
  | sleep | events => rfl

end Queue

/-! ## Kernels -/

/-- A change of all entries of a table that changes only one. -/
theorem mapIdx_eq_setIfInBounds {α : Type} {entries : Array α} {f : Nat → α → α} {i : Nat} {entry : α}
    (hentry : entries[i]? = some entry) (hother : ∀ j other, j ≠ i → f j other = other) :
    entries.mapIdx f = entries.setIfInBounds i (f i entry) := by
  refine Array.ext_getElem? fun j => ?_
  rw [Array.getElem?_mapIdx, Array.getElem?_setIfInBounds]
  split
  · rename_i heq
    rw [← heq, hentry, if_pos (Array.getElem?_eq_some_iff.1 hentry).1]
    rfl
  · rename_i hne
    cases hj : entries[j]? with
    | none => rfl
    | some other => exact congrArg some (hother j other (Ne.symm hne))

theorem mapIdx_eq_self {α : Type} {entries : Array α} {f : Nat → α → α} (h : ∀ i entry, f i entry = entry) :
    entries.mapIdx f = entries := by
  refine Array.ext_getElem? fun i => ?_
  rw [Array.getElem?_mapIdx]
  cases entries[i]? with
  | none => rfl
  | some entry => exact congrArg some (h i entry)

namespace Kernel

variable {kernel : Kernel} {wait : Wait} {s s' t t' : Section}

/-- A kernel in which a wait has been entered. -/
def awaiting (kernel : Kernel) (wait : Wait) : Kernel :=
  { kernel with
    tasks := kernel.tasks.mapIdx fun i task => task.awaiting ⟨i⟩ wait
    queues := { kernel.queues with
      queues := kernel.queues.queues.mapIdx fun i queue => queue.awaiting ⟨i⟩ wait } }

theorem get_task_awaiting (kernel : Kernel) (wait : Wait) (id : TaskId) : (kernel.awaiting wait).tasks.get id =
    (kernel.tasks.get id).map (·.awaiting id wait) := by
  have hfound : Registry.get? (kernel.awaiting wait).tasks id.index = _ :=
    Registry.get?_mapIdx fun _ _ => Task.busy_awaiting
  unfold TaskTable.get
  rw [hfound]
  cases Registry.get? kernel.tasks id.index <;> rfl

theorem get_queue_awaiting (kernel : Kernel) (wait : Wait) (id : QueueId) : (kernel.awaiting wait).queues.get id =
    (kernel.queues.get id).map (·.awaiting id wait) := by
  have hfound : Registry.get? (kernel.awaiting wait).queues.queues id.index = _ :=
    Registry.get?_mapIdx fun _ _ => Queue.busy_awaiting
  unfold QueueTable.get
  rw [hfound]
  cases Registry.get? kernel.queues.queues id.index <;> rfl

theorem setTask_awaiting (id : TaskId) (task : Task) :
    (kernel.awaiting wait).setTask id (task.awaiting id wait) = (kernel.setTask id task).awaiting wait := by
  unfold awaiting setTask
  dsimp only
  rw [Array.mapIdx_setIfInBounds]

theorem putQueue_awaiting (id : QueueId) (queue : Queue) (pool : MessagePool) :
    (kernel.awaiting wait).putQueue id (queue.awaiting id wait) pool =
      (kernel.putQueue id queue pool).awaiting wait := by
  unfold awaiting putQueue setQueues QueueTable.put
  dsimp only
  rw [Array.mapIdx_setIfInBounds]

/-- A wait for events is entered in the entry of its task. -/
theorem awaiting_events {id : TaskId} {task : Task} (hentry : kernel.tasks[id.index]? = some task)
    (mask : EventBits) (condition : Condition) : kernel.awaiting (.events id mask condition) =
      kernel.setTask id (task.awaitingEvents mask condition) := by
  have hself : task.awaiting ⟨id.index⟩ (.events id mask condition) = task.awaitingEvents mask condition :=
    if_pos rfl
  have htasks : kernel.tasks.mapIdx (fun i task => task.awaiting ⟨i⟩ (.events id mask condition)) = _ :=
    mapIdx_eq_setIfInBounds hentry fun j other hne => if_neg (by rintro rfl; exact hne rfl)
  have hqueues : kernel.queues.queues.mapIdx
      (fun i queue => queue.awaiting ⟨i⟩ (.events id mask condition)) = _ := mapIdx_eq_self fun _ _ => rfl
  unfold awaiting setTask
  rw [htasks, hself, hqueues]

/-- One for a message is entered in the entry of its queue. -/
theorem awaiting_message {id : QueueId} {queue : Queue}
    (hentry : kernel.queues.queues[id.index]? = some queue) (generation : UInt64) :
    kernel.awaiting (.message id generation) =
      kernel.setQueue id { queue with waiting := queue.count == 0 } := by
  have hself : queue.awaiting ⟨id.index⟩ (.message id generation) =
      { queue with waiting := queue.count == 0 } := if_pos rfl
  have hqueues : kernel.queues.queues.mapIdx
      (fun i queue => queue.awaiting ⟨i⟩ (.message id generation)) = _ :=
    mapIdx_eq_setIfInBounds hentry fun j other hne => if_neg (by rintro rfl; exact hne rfl)
  have htasks : kernel.tasks.mapIdx (fun i task => task.awaiting ⟨i⟩ (.message id generation)) = _ :=
    mapIdx_eq_self fun _ _ => rfl
  unfold awaiting setQueue putQueue setQueues QueueTable.put
  rw [hqueues, hself, htasks]

theorem EventsPosted.awaiting {id : TaskId} {bits : EventBits} {r r' : Except Error Unit}
    (h : EventsPosted id bits s r t) (h' : EventsPosted id bits s' r' t')
    (hs : s'.kernel = s.kernel.awaiting wait) : r' = r ∧ t'.kernel = t.kernel.awaiting wait := by
  have hget := get_task_awaiting s.kernel wait id
  rw [← hs] at hget
  cases h with
  | refused hnone =>
    rw [hnone] at hget
    cases h' with
    | refused hnone' =>
      cases hnone'.symm.trans hget
      exact ⟨rfl, hs⟩
    | posted hsome' => cases hsome'.symm.trans hget
  | @posted task hsome =>
    rw [hsome] at hget
    cases h' with
    | refused hnone' => cases hnone'.symm.trans hget
    | posted hsome' =>
      cases hsome'.symm.trans hget
      refine ⟨rfl, ?_⟩
      dsimp only
      rw [hs, Task.received_awaiting, setTask_awaiting]

theorem BoundPosted.awaiting {binding : Option Binding} {r r' : Except Error Unit}
    (h : BoundPosted binding s r t) (h' : BoundPosted binding s' r' t')
    (hs : s'.kernel = s.kernel.awaiting wait) : r' = r ∧ t'.kernel = t.kernel.awaiting wait := by
  cases binding with
  | none =>
    obtain ⟨rfl, rfl⟩ := h
    obtain ⟨rfl, rfl⟩ := h'
    exact ⟨rfl, hs⟩
  | some binding => exact EventsPosted.awaiting h h' hs

theorem MessagePosted.awaiting {id : QueueId} {message : Message} {mode : PostMode}
    {r r' : Except Error Unit} (h : MessagePosted id message mode s r t)
    (h' : MessagePosted id message mode s' r' t') (hs : s'.kernel = s.kernel.awaiting wait) :
    r' = r ∧ t'.kernel = t.kernel.awaiting wait := by
  have hrefused {error : Error} (hpush : (s.kernel.queues.push id message mode).run = .ok (.error error))
      (hpush' : (s'.kernel.queues.push id message mode).run = .ok (.error error)) :
      r' = r ∧ t'.kernel = t.kernel.awaiting wait := by
    obtain ⟨rfl, rfl⟩ := h.of_refused hpush
    obtain ⟨rfl, rfl⟩ := h'.of_refused hpush'
    exact ⟨rfl, hs⟩
  have hget := get_queue_awaiting s.kernel wait id
  rw [← hs] at hget
  cases hqueue : s.kernel.queues.get id with
  | error error =>
    rw [hqueue] at hget
    exact hrefused (QueueTable.push_of_get_error hqueue) (QueueTable.push_of_get_error hget)
  | ok queue =>
    rw [hqueue] at hget
    have hpool : s'.kernel.queues.pool = s.kernel.queues.pool := by rw [hs]; rfl
    cases QueueTable.push_congr hqueue hget hpool Queue.depth_awaiting Queue.count_awaiting
      Queue.chain_awaiting message mode with
    | trapped hpush =>
      cases h with
      | refused hpush' | pushed _ _ hpush' => cases hpush'.symm.trans hpush
    | refused hpush hpush' => exact hrefused hpush hpush'
    | pushed hpush hpush' =>
      have hbound := h'.of_pushed hget hpush'
      rw [Queue.binding_awaiting] at hbound
      refine (h.of_pushed hqueue hpush).awaiting hbound ?_
      dsimp only
      rw [hs, Queue.extended_awaiting, putQueue_awaiting]

end Kernel

/-! ## Posts -/

/-- Whether an operation is a post, be it of events, by a driver or not, or of a message. -/
def Operation.isPost : Operation → Bool
  | .postEvents .. | .postFromDriver .. | .postMessage .. => true
  | _ => false

namespace Kernel

variable {operation : Operation} {wait : Wait} {s s' t t' : Section} {r r' : Except Error (Progress Value)}

/-- A post does the same whoever waits. -/
theorem Performed.awaiting (hpost : operation.isPost = true) (h : Performed s operation r t)
    (h' : Performed s' operation r' t') (hs : s'.kernel = s.kernel.awaiting wait) :
    r' = r ∧ t'.kernel = t.kernel.awaiting wait := by
  cases operation with
  | postEvents =>
    obtain ⟨_, hposted, rfl⟩ := h
    obtain ⟨_, hposted', rfl⟩ := h'
    obtain ⟨rfl, hkernel⟩ := hposted.awaiting hposted' hs
    exact ⟨rfl, hkernel⟩
  | postFromDriver =>
    obtain ⟨_, hposted, rfl⟩ := h
    obtain ⟨_, hposted', rfl⟩ := h'
    obtain ⟨rfl, hkernel⟩ := hposted.awaiting hposted' hs
    exact ⟨rfl, hkernel⟩
  | postMessage =>
    obtain ⟨_, hposted, rfl⟩ := h
    obtain ⟨_, hposted', rfl⟩ := h'
    obtain ⟨rfl, hkernel⟩ := hposted.awaiting hposted' hs
    exact ⟨rfl, hkernel⟩
  | _ => cases hpost

/-- A post does not wait. -/
theorem Performed.not_parked_of_post (hpost : operation.isPost = true) :
    ¬ Performed s operation (.ok (.parked wait)) t := by
  cases operation with
  | postEvents | postFromDriver | postMessage => exact Gives.not_parked
  | _ => cases hpost

end Kernel

end Executive
