/-
What one critical section does to an entry of the task table or of the queue table. Either it has
nothing to do with a wait there (`Affected`), or a wait begins there (`Entered`) or ends (`Left`).
Invariants of entries, and of the calls that are blocked at them, are shown by cases on these.
-/
import Executive.Proofs.Kernel.Traffic
import Executive.Proofs.Kernel.Words

namespace Executive

/-! ## Tables whose entries change -/

section Each

variable {α : Type} {R S : Nat → α → α → Prop} {a b : Array α}

/-- Every entry of a table comes from the one that was there before, as a relation says. -/
def Each (R : Nat → α → α → Prop) (a b : Array α) : Prop :=
  ∀ i new, b[i]? = some new → ∃ old, a[i]? = some old ∧ R i old new

theorem Each.refl (h : ∀ i x, R i x x) (a : Array α) : Each R a a := by
  intro i new hnew
  exact ⟨new, hnew, h i new⟩

/-- A table that stays has changed in the first of two ways if that includes no change. -/
theorem Each.refl_or (h : ∀ i x, R i x x) (a : Array α) :
    Each (fun i old new => R i old new ∨ S i old new) a a := by
  intro i new hnew
  exact ⟨new, hnew, Or.inl (h i new)⟩

theorem Each.mono (h : Each R a b) (himp : ∀ i old new, R i old new → S i old new) : Each S a b := by
  intro i new hnew
  obtain ⟨old, hold, hr⟩ := h i new hnew
  exact ⟨old, hold, himp i old new hr⟩

/-- One entry changes, and the others stay. -/
theorem Each.set {i : Nat} {old new : α} (hold : a[i]? = some old) (hnew : R i old new)
    (hkept : ∀ j x, j ≠ i → R j x x) : Each R a (a.setIfInBounds i new) := by
  intro j found hfound
  rw [Array.getElem?_setIfInBounds] at hfound
  by_cases hj : i = j
  · subst hj
    rw [if_pos rfl, if_pos (Array.getElem?_eq_some_iff.1 hold).1] at hfound
    cases hfound
    exact ⟨old, hold, hnew⟩
  · rw [if_neg hj] at hfound
    exact ⟨found, hfound, hkept j found (Ne.symm hj)⟩

end Each

/-! ## Entries of tasks -/

namespace Task

/-- What a section does to the entry of a task other than to begin or to end a wait there. It is said
from outside whether the section clears events and whether it frees the task, and the latch says
whether the call that is blocked there has been told to give up. -/
inductive Affected (clears frees : Prop) : (latch : Bool) → Task → Task → Prop
  | kept (task : Task) : Affected clears frees false task task
  | received (task : Task) (bits : EventBits) : Affected clears frees false task (task.received bits)
  | cleared (hclears : clears) (task : Task) (bits : EventBits) :
    Affected clears frees false task (task.clear bits)
  | allocated {task : Task} (hvacant : task.busy = false) (name : String) (attributes : Attributes) :
    Affected clears frees false task { busy := true, name, attributes }
  | freed (hfrees : frees) (task : Task) : Affected clears frees false task { task with busy := false }
  | latched {task : Task} (hblocked : task.isBlocked = true) :
    Affected clears frees true task { task with interrupted := true }

theorem Affected.mono {clears clears' frees frees' : Prop} {latch : Bool} {task new : Task}
    (h : Affected clears frees latch task new) (hclears : clears → clears') (hfrees : frees → frees') :
    Affected clears' frees' latch task new := by
  cases h with
  | kept => exact .kept _
  | received => exact .received ..
  | cleared h => exact .cleared (hclears h) ..
  | allocated hvacant => exact .allocated hvacant ..
  | freed h => exact .freed (hfrees h) _
  | latched hblocked => exact .latched hblocked

/-- What a wait that begins does to the entry of its task: it parks, unless a latch that it finds cuts
it short. -/
inductive Entered (id : TaskId) (task : Task) : Except Error (Progress Value) → Task → Prop
  | sleep (hclear : task.interrupted = false) :
    Entered id task (.ok (.parked (.sleep id))) { task with sleeping := true }
  | events {mask : EventBits} {condition : Condition}
    (hunmet : condition.isMet task.posted mask = false) (hclear : task.interrupted = false) :
    Entered id task (.ok (.parked (.events id mask condition)))
      { task with mask, condition, waiting := true }
  | sleepCut (hlatched : task.interrupted = true) :
    Entered id task (.error .interrupted) { task with interrupted := false, sleeping := false }
  | eventsCut (mask : EventBits) (condition : Condition) (hlatched : task.interrupted = true) :
    Entered id task (.error .interrupted)
      { task with mask, condition, waiting := false, interrupted := false }

/-- What a wait that ends does to the entry of its task. -/
inductive Left (id : TaskId) (task : Task) : Wait → Except Error Value → Task → Prop
  | sleep (result : Except Error Value) :
    Left id task (.sleep id) result { task with sleeping := false, interrupted := false }
  | woken (mask : EventBits) (condition : Condition) (hwaiting : task.waiting = false) :
    Left id task (.events id mask condition) (.ok (.bits (condition.consumed task.posted mask)))
      ({ task with interrupted := false }.clear (condition.consumed task.posted mask))
  | cut (mask : EventBits) (condition : Condition) :
    Left id task (.events id mask condition) (.error .interrupted)
      { task with interrupted := false, waiting := false }

end Task

/-! ## Entries of queues -/

/-- The events that go with a message have reached their task, if it is in use. -/
def Kernel.HasRung (kernel : Kernel) (binding : Option Binding) : Prop :=
  ∀ bound ∈ binding, ∀ task, kernel.tasks.get bound.task = .ok task →
    bound.events &&& task.posted = bound.events

namespace Queue

/-- What a section does to the entry of a queue other than to begin or to end a wait there. The kernel
is the one after the section, and it is said from outside whether the section deletes the queue. -/
inductive Affected (kernel : Kernel) (closes : Prop) : (latch : Bool) → Queue → Queue → Prop
  | kept (queue : Queue) : Affected kernel closes false queue queue
  | extended {queue : Queue} (chain : Chain) (hbusy : queue.busy = true)
    (hrung : kernel.HasRung queue.binding) :
    Affected kernel closes false queue (Kernel.extended queue chain)
  | popped {queue : Queue} (chain : Chain) (hcount : 0 < queue.count) :
    Affected kernel closes false queue { queue with chain, count := queue.count - 1 }
  | opened {queue : Queue} (hvacant : queue.busy = false) (name : String) (options : QueueOptions) :
    Affected kernel closes false queue (queue.opened name options)
  | closed (hcloses : closes) (queue : Queue) : Affected kernel closes false queue queue.closed
  | latched {queue : Queue} (hwaiting : queue.waiting = true) :
    Affected kernel closes true queue { queue with interrupted := true }

theorem Affected.mono {kernel : Kernel} {closes closes' : Prop} {latch : Bool} {queue new : Queue}
    (h : Affected kernel closes latch queue new) (hcloses : closes → closes') :
    Affected kernel closes' latch queue new := by
  cases h with
  | kept => exact .kept _
  | extended chain hbusy hrung => exact .extended chain hbusy hrung
  | popped chain hcount => exact .popped chain hcount
  | opened hvacant => exact .opened hvacant ..
  | closed h => exact .closed (hcloses h) _
  | latched hwaiting => exact .latched hwaiting

/-- What a wait that begins does to the entry of its queue. -/
inductive Entered (id : QueueId) (queue : Queue) : Except Error (Progress Value) → Queue → Prop
  | waits (hbusy : queue.busy = true) (hcount : queue.count = 0) (hclear : queue.interrupted = false) :
    Entered id queue (.ok (.parked (.message id queue.generation))) { queue with waiting := true }
  | cut (hlatched : queue.interrupted = true) :
    Entered id queue (.error .interrupted) { queue with interrupted := false, waiting := false }

/-- What a wait that ends does to the entry of its queue. -/
inductive Left (id : QueueId) (queue : Queue) : Wait → Queue → Prop
  | served (chain : Chain) (hwaiting : queue.waiting = false) (hcount : 0 < queue.count) :
    Left id queue (.message id queue.generation)
      { queue with interrupted := false, chain, count := queue.count - 1 }
  | unserved (hwaiting : queue.waiting = false) :
    Left id queue (.message id queue.generation) { queue with interrupted := false }
  | cut : Left id queue (.message id queue.generation)
      { queue with interrupted := false, waiting := false }

end Queue

/-! ## What operations wait on -/

namespace Operation

/-- What an operation waits on, if it does not return before. -/
def awaits (kernel : Kernel) : Operation → Option (Gate × UInt64)
  | .sleep id _ =>
    match kernel.tasks.get id with
    | .ok _ => some (.task id, 0)
    | .error _ => none
  | .waitEvents id mask condition .indefinite =>
    match kernel.tasks.get id with
    | .ok task => if condition.isMet task.posted mask = true then none else some (.task id, 0)
    | .error _ => none
  | .receive id timeout =>
    match kernel.queues.get id with
    | .ok queue =>
      if queue.count = 0 ∧ timeout ≠ .noBlock then some (.queue id, queue.generation) else none
    | .error _ => none
  | _ => none

/-- The task from whose event word an operation takes events. -/
def clears : Operation → Except Error (Progress Value) → Option TaskId
  | .clearEvents id _, .ok (.returned _) | .waitEvents id .., .ok (.returned _) => some id
  | _, _ => none

/-- The task that an operation frees. -/
def frees : Operation → Option TaskId
  | .freeTask id => some id
  | _ => none

/-- Whether an operation deletes a queue. -/
def Closes (id : QueueId) : Operation → Prop
  | .deleteQueue queue => queue = id
  | .deleteAllQueues => True
  | _ => False

/-- The gate whose blocked call has been told to give up. -/
def latches : Operation → Except Error (Progress Value) → Option Gate
  | .interruptTask id, .ok (.returned (.flag true)) => some (.task id)
  | .interruptReceiver id, .ok (.returned (.flag true)) => some (.queue id)
  | _, _ => none

end Operation

namespace Kernel

open Critical

variable {s t : Section} {id : TaskId} {queueId : QueueId}

/-! ## Sections and tasks -/

theorem EventsPosted.tasks {bits : EventBits} {r : Except Error Unit} (h : EventsPosted id bits s r t) :
    Each (fun _ => Task.Affected False False false) s.kernel.tasks t.kernel.tasks := by
  cases h with
  | refused => exact .refl (fun _ => .kept) _
  | posted hget => exact .set (TaskTable.get_eq_ok.1 hget).2.1 (.received ..) fun _ _ _ => .kept _

theorem EventsCleared.tasks {bits : EventBits} {r : Except Error Unit} (h : EventsCleared id bits s r t) :
    Each (fun i => Task.Affected
      ((Operation.clearEvents id bits).clears (r.map fun _ => .returned .done) = some ⟨i⟩) False false)
      s.kernel.tasks t.kernel.tasks := by
  cases h with
  | refused => exact .refl (fun _ => .kept) _
  | cleared hget => exact .set (TaskTable.get_eq_ok.1 hget).2.1 (.cleared rfl ..) fun _ _ _ => .kept _

theorem TaskAllocated.tasks {name : String} {attributes : Attributes} {r : Except Error TaskId}
    (h : TaskAllocated name attributes s r t) :
    Each (fun _ => Task.Affected False False false) s.kernel.tasks t.kernel.tasks := by
  cases h with
  | refused => exact .refl (fun _ => .kept) _
  | allocated _ hentry hvacant => exact .set hentry (.allocated hvacant ..) fun _ _ _ => .kept _

theorem TaskFreed.tasks {r : Except Error Unit} (h : TaskFreed id s r t) :
    Each (fun i => Task.Affected False (id = ⟨i⟩) false) s.kernel.tasks t.kernel.tasks := by
  cases h with
  | refused => exact .refl (fun _ => .kept) _
  | freed hget => exact .set (TaskTable.get_eq_ok.1 hget).2.1 (.freed rfl _) fun _ _ _ => .kept _

theorem BoundPosted.tasks {binding : Option Binding} {r : Except Error Unit} (h : BoundPosted binding s r t) :
    Each (fun _ => Task.Affected False False false) s.kernel.tasks t.kernel.tasks := by
  cases binding with
  | none => rw [h.2]; exact .refl (fun _ => .kept) _
  | some binding => exact EventsPosted.tasks h

theorem MessagePosted.tasks {message : Message} {mode : PostMode} {r : Except Error Unit}
    (h : MessagePosted queueId message mode s r t) :
    Each (fun _ => Task.Affected False False false) s.kernel.tasks t.kernel.tasks := by
  cases h with
  | refused => exact .refl (fun _ => .kept) _
  | pushed _ _ _ hbound => exact hbound.tasks

theorem ActedOn.tasks {target : TimerTarget} {r : Except Error Unit} (h : ActedOn target s r t) :
    Each (fun _ => Task.Affected False False false) s.kernel.tasks t.kernel.tasks := by
  cases target with
  | event => exact EventsPosted.tasks h
  | message => exact MessagePosted.tasks h

theorem TimerFired.tasks {timer : TimerId} {r : Except Error Unit} (h : TimerFired timer s r t) :
    Each (fun _ => Task.Affected False False false) s.kernel.tasks t.kernel.tasks := by
  cases h with
  | scheduled | inactive => exact .refl (fun _ => .kept) _
  | expired _ _ hact => exact hact.tasks
  | rearmed _ _ _ hact => exact hact.tasks

theorem ActionDone.tasks {action : TimerAction} (h : ActionDone s action t) :
    Each (fun _ => Task.Affected False False false) s.kernel.tasks t.kernel.tasks := by
  cases h with
  | woken => exact .refl (fun _ => .kept) _
  | fired hfired => exact hfired.tasks
  | failed hfired => exact hfired.tasks

theorem NextDue.tasks_eq {action : Option TimerAction} (h : NextDue s action t) :
    t.kernel.tasks = s.kernel.tasks := by
  cases h with
  | popped | idle | rebased => rfl

/-- An interrupt that finds a blocked call latches the task. -/
theorem TaskInterrupted.tasks {r : Except Error Bool} (h : TaskInterrupted id s r t) :
    Each (fun i => Task.Affected False False
      ((Operation.interruptTask id).latches (r.map fun b => .returned (.flag b)) == some (.task ⟨i⟩)))
      s.kernel.tasks t.kernel.tasks := by
  cases h with
  | refused | unblocked => exact .refl (fun _ => .kept) _
  | interrupted hget hblocked =>
    refine .set (TaskTable.get_eq_ok.1 hget).2.1 ?_ fun j task hj => ?_
    · show Task.Affected _ _ (some (Gate.task id) == some (Gate.task ⟨id.index⟩)) _ _
      rw [beq_self_eq_true]
      exact .latched hblocked
    · show Task.Affected _ _ (some (Gate.task id) == some (Gate.task ⟨j⟩)) _ _
      rw [beq_false_of_ne]
      · exact .kept task
      · rintro ⟨⟩
        exact hj rfl

theorem Slept.tasks {ticks : Nat} {r : Except Error (Progress Unit)} (h : Slept id ticks s r t) :
    Each (fun i old new => Task.Affected False False false old new ∨
      (Operation.sleep id ticks).awaits s.kernel = some (.task ⟨i⟩, 0) ∧
        old.Entered ⟨i⟩ (r.map (·.map fun _ => .done)) new) s.kernel.tasks t.kernel.tasks := by
  cases h with
  | refused => exact .refl_or (fun _ => .kept) _
  | interrupted hget hlatched =>
    refine .set (TaskTable.get_eq_ok.1 hget).2.1 (Or.inr ⟨?_, .sleepCut hlatched⟩)
      fun _ task _ => Or.inl (.kept task)
    simp only [Operation.awaits, hget]
  | waits hget hclear =>
    refine .set (TaskTable.get_eq_ok.1 hget).2.1 (Or.inr ⟨?_, .sleep hclear⟩)
      fun _ task _ => Or.inl (.kept task)
    simp only [Operation.awaits, hget]

theorem EventsAwaited.tasks {mask : EventBits} {condition : Condition} {timeout : Timeout}
    {r : Except Error (Progress EventBits)} (h : EventsAwaited id mask condition timeout s r t) :
    Each (fun i old new => Task.Affected
        ((Operation.waitEvents id mask condition timeout).clears (r.map (·.map .bits)) = some ⟨i⟩) False
        false old new ∨
      (Operation.waitEvents id mask condition timeout).awaits s.kernel = some (.task ⟨i⟩, 0) ∧
        old.Entered ⟨i⟩ (r.map (·.map .bits)) new) s.kernel.tasks t.kernel.tasks := by
  cases h with
  | refused | unmet => exact .refl_or (fun _ => .kept) _
  | met hget =>
    exact .set (TaskTable.get_eq_ok.1 hget).2.1 (Or.inl (.cleared rfl ..)) fun _ task _ => Or.inl (.kept task)
  | interrupted hget hmet htimeout hlatched =>
    subst htimeout
    refine .set (TaskTable.get_eq_ok.1 hget).2.1 (Or.inr ⟨?_, .eventsCut mask condition hlatched⟩)
      fun _ task _ => Or.inl (.kept task)
    simp [Operation.awaits, hget, hmet]
  | waits hget hmet htimeout hclear =>
    subst htimeout
    refine .set (TaskTable.get_eq_ok.1 hget).2.1 (Or.inr ⟨?_, .events hmet hclear⟩)
      fun _ task _ => Or.inl (.kept task)
    simp [Operation.awaits, hget, hmet]

/-- What an operation does to the entries of the tasks. -/
theorem Performed.tasks {operation : Operation} {r : Except Error (Progress Value)}
    (h : Performed s operation r t) :
    Each (fun i old new => Task.Affected (operation.clears r = some ⟨i⟩) (operation.frees = some ⟨i⟩)
        (operation.latches r == some (.task ⟨i⟩)) old new ∨
      operation.awaits s.kernel = some (.task ⟨i⟩, 0) ∧ old.Entered ⟨i⟩ r new)
      s.kernel.tasks t.kernel.tasks := by
  cases operation with
  | identifyTask | taskAttributes | postedEvents | identifyQueue | queueLength | freeContainers
    | timerState | ticks | scheduledObjects | config | coreSnapshot | queueSnapshot | coreText
    | queueText =>
    obtain ⟨_, ⟨-, rfl⟩, -⟩ := h
    exact .refl_or (fun _ => .kept) _
  | allocateTask => obtain ⟨_, h, -⟩ := h; exact h.tasks.mono fun _ _ _ h => Or.inl (h.mono nofun nofun)
  | freeTask => obtain ⟨_, h, -⟩ := h; exact h.tasks.mono fun _ _ _ h => Or.inl (h.mono nofun (congrArg some))
  | interruptTask => obtain ⟨_, h, rfl⟩ := h; exact h.tasks.mono fun _ _ _ h => Or.inl (h.mono nofun nofun)
  | sleep => obtain ⟨_, h, rfl⟩ := h; exact h.tasks.mono fun _ _ _ => Or.imp_left fun h => h.mono nofun nofun
  | postEvents => obtain ⟨_, h, -⟩ := h; exact h.tasks.mono fun _ _ _ h => Or.inl (h.mono nofun nofun)
  | postFromDriver => obtain ⟨_, h, -⟩ := h; exact h.tasks.mono fun _ _ _ h => Or.inl (h.mono nofun nofun)
  | clearEvents => obtain ⟨_, h, rfl⟩ := h; exact h.tasks.mono fun _ _ _ h => Or.inl (h.mono id nofun)
  | waitEvents => obtain ⟨_, h, rfl⟩ := h; exact h.tasks.mono fun _ _ _ => Or.imp_left fun h => h.mono id nofun
  | postMessage => obtain ⟨_, h, -⟩ := h; exact h.tasks.mono fun _ _ _ h => Or.inl (h.mono nofun nofun)
  | deleteAllQueues => obtain ⟨_, h, -⟩ := h; rw [h.kernel]; exact .refl_or (fun _ => .kept) _
  | receive => obtain ⟨_, h, -⟩ := h; rw [h.tasks_eq]; exact .refl_or (fun _ => .kept) _
  | interruptReceiver =>
    obtain ⟨_, h, rfl⟩ := h
    cases h with
    | refused | unblocked | interrupted => exact .refl_or (fun _ => .kept) _
  | createQueue | deleteQueue | createTimer | startTimer | abortTimer | deleteTimer =>
    obtain ⟨_, h, -⟩ := h
    cases h with
    | _ => exact .refl_or (fun _ => .kept) _

/-- What the return of a blocked call does to the entries of the tasks. -/
theorem Resumed.tasks {wait : Wait} {result : Except Error Value}
    (h : Resumed s wait (result.map .returned) t) :
    Each (fun i old new => wait.gate ≠ .task ⟨i⟩ ∧ old = new ∨ old.Left ⟨i⟩ wait result new)
      s.kernel.tasks t.kernel.tasks := by
  have hother {id : TaskId} (j : Nat) (task : Task) (hj : j ≠ id.index) :
      Gate.task id ≠ .task ⟨j⟩ ∧ task = task := by
    refine ⟨?_, rfl⟩
    rintro ⟨⟩
    exact hj rfl
  cases wait with
  | sleep =>
    obtain ⟨r, hended, rfl⟩ := Proceeds.result h
    generalize hr : r.map Progress.returned = parked at hended
    cases hended with
    | woken hentry | interrupted hentry =>
      exact .set hentry (Or.inr (.sleep _)) fun j task hj => Or.inl (hother j task hj)
    | waits => cases r <;> cases hr
  | events =>
    obtain ⟨r, hended, rfl⟩ := Proceeds.result h
    generalize hr : r.map Progress.returned = parked at hended
    cases hended with
    | woken hentry hwaiting =>
      cases r <;> cases hr
      exact .set hentry (Or.inr (.woken _ _ hwaiting)) fun j task hj => Or.inl (hother j task hj)
    | interrupted hentry =>
      cases r <;> cases hr
      exact .set hentry (Or.inr (.cut _ _)) fun j task hj => Or.inl (hother j task hj)
    | waits => cases r <;> cases hr
  | message =>
    obtain ⟨_, h, -⟩ := h
    rw [h.tasks_eq]
    exact .refl_or (fun _ _ => ⟨nofun, rfl⟩) _

/-! ## Sections and queues -/

theorem HasRung.of_posted {binding : Option Binding} {r : Except Error Unit} (h : BoundPosted binding s r t) :
    t.kernel.HasRung binding := by
  rintro bound hbound task hget
  cases hbound
  cases h with
  | refused hrefused => rw [hrefused] at hget; cases hget
  | posted hposted =>
    obtain ⟨-, hentry, -⟩ := TaskTable.get_eq_ok.1 hposted
    obtain ⟨-, hentry', -⟩ := TaskTable.get_eq_ok.1 hget
    rw [getElem?_setTask hentry] at hentry'
    cases hentry'
    rw [Task.posted_received, UInt32.or_comm]
    exact EventBits.and_or_self ..

/-- A post that goes through leaves its message and the events that go with it. -/
theorem MessagePosted.queues {message : Message} {mode : PostMode} {r : Except Error Unit}
    (h : MessagePosted queueId message mode s r t) :
    Each (fun _ => Queue.Affected t.kernel False false) s.kernel.queues.queues t.kernel.queues.queues := by
  cases h with
  | refused => exact .refl (fun _ => .kept) _
  | pushed hget _ _ hbound =>
    obtain ⟨-, hentry, hbusy⟩ := QueueTable.get_eq_ok.1 hget
    rw [hbound.queues_eq]
    exact .set hentry (.extended _ hbusy (.of_posted hbound)) fun _ _ _ => .kept _

theorem ActedOn.queues {target : TimerTarget} {r : Except Error Unit} (h : ActedOn target s r t) :
    Each (fun _ => Queue.Affected t.kernel False false) s.kernel.queues.queues t.kernel.queues.queues := by
  cases target with
  | event => rw [EventsPosted.queues_eq h]; exact .refl (fun _ => .kept) _
  | message => exact MessagePosted.queues h

theorem TimerFired.queues {timer : TimerId} {r : Except Error Unit} (h : TimerFired timer s r t) :
    Each (fun _ => Queue.Affected t.kernel False false) s.kernel.queues.queues t.kernel.queues.queues := by
  cases h with
  | scheduled | inactive => exact .refl (fun _ => .kept) _
  | expired _ _ hact => exact hact.queues
  | rearmed _ _ _ hact => exact hact.queues

theorem ActionDone.queues {action : TimerAction} (h : ActionDone s action t) :
    Each (fun _ => Queue.Affected t.kernel False false) s.kernel.queues.queues t.kernel.queues.queues := by
  cases h with
  | woken => exact .refl (fun _ => .kept) _
  | fired hfired => exact hfired.queues
  | failed hfired => exact hfired.queues

theorem QueueCreated.queues {name : String} {options : QueueOptions} {r : Except Error QueueId}
    (h : QueueCreated name options s r t) :
    Each (fun _ => Queue.Affected t.kernel False false) s.kernel.queues.queues t.kernel.queues.queues := by
  cases h with
  | refused => exact .refl (fun _ => .kept) _
  | created _ hentry hvacant => exact .set hentry (.opened hvacant ..) fun _ _ _ => .kept _

theorem QueueDeleted.queues {r : Except Error Unit} (h : QueueDeleted queueId s r t) :
    Each (fun i => Queue.Affected t.kernel (queueId = ⟨i⟩) false) s.kernel.queues.queues
      t.kernel.queues.queues := by
  cases h with
  | refused => exact .refl (fun _ => .kept) _
  | deleted hget => exact .set (QueueTable.get_eq_ok.1 hget).2.1 (.closed rfl _) fun _ _ _ => .kept _

theorem AllQueuesDeleted.queues {r : Except Error Unit} (h : AllQueuesDeleted s r t) :
    Each (fun _ => Queue.Affected t.kernel True false) s.kernel.queues.queues t.kernel.queues.queues := by
  intro i new hnew
  rw [h.entry, Option.map_eq_some_iff] at hnew
  obtain ⟨old, hold, rfl⟩ := hnew
  refine ⟨old, hold, ?_⟩
  split
  · exact .closed trivial old
  · exact .kept old

/-- An interrupt that finds a waiting receiver latches the queue. -/
theorem ReceiverInterrupted.queues {r : Except Error Bool} (h : ReceiverInterrupted queueId s r t) :
    Each (fun i => Queue.Affected t.kernel False ((Operation.interruptReceiver queueId).latches
      (r.map fun b => .returned (.flag b)) == some (.queue ⟨i⟩)))
      s.kernel.queues.queues t.kernel.queues.queues := by
  cases h with
  | refused | unblocked => exact .refl (fun _ => .kept) _
  | interrupted hget hwaiting =>
    refine .set (QueueTable.get_eq_ok.1 hget).2.1 ?_ fun j queue hj => ?_
    · show Queue.Affected _ _ (some (Gate.queue queueId) == some (Gate.queue ⟨queueId.index⟩)) _ _
      rw [beq_self_eq_true]
      exact .latched hwaiting
    · show Queue.Affected _ _ (some (Gate.queue queueId) == some (Gate.queue ⟨j⟩)) _ _
      rw [beq_false_of_ne]
      · exact .kept queue
      · rintro ⟨⟩
        exact hj rfl

theorem Received.queues {timeout : Timeout} {r : Except Error (Progress Message)}
    (h : Received queueId timeout s r t) :
    Each (fun i old new => Queue.Affected t.kernel False false old new ∨
      (Operation.receive queueId timeout).awaits s.kernel = some (.queue ⟨i⟩, old.generation) ∧
        old.Entered ⟨i⟩ (r.map (·.map .message)) new) s.kernel.queues.queues t.kernel.queues.queues := by
  have hawaits {queue : Queue} (hget : s.kernel.queues.get queueId = .ok queue) (hcount : queue.count = 0)
      (htimeout : timeout ≠ .noBlock) : (Operation.receive queueId timeout).awaits s.kernel =
        some (.queue ⟨queueId.index⟩, queue.generation) := by
    simp [Operation.awaits, hget, hcount, htimeout]
  cases h with
  | refused | empty => exact .refl_or (fun _ => .kept) _
  | served _ htaken =>
    cases htaken with
    | taken hentry hcount => exact .set hentry (Or.inl (.popped _ hcount)) fun _ _ _ => Or.inl (.kept _)
  | interrupted hget hcount htimeout hlatched =>
    exact .set (QueueTable.get_eq_ok.1 hget).2.1 (Or.inr ⟨hawaits hget hcount htimeout, .cut hlatched⟩)
      fun _ _ _ => Or.inl (.kept _)
  | waits hget hcount htimeout hclear =>
    obtain ⟨-, hentry, hbusy⟩ := QueueTable.get_eq_ok.1 hget
    exact .set hentry (Or.inr ⟨hawaits hget hcount htimeout, .waits hbusy hcount hclear⟩)
      fun _ _ _ => Or.inl (.kept _)

/-- What an operation does to the entries of the queues. -/
theorem Performed.queues {operation : Operation} {r : Except Error (Progress Value)}
    (h : Performed s operation r t) :
    Each (fun i old new => Queue.Affected t.kernel (operation.Closes ⟨i⟩)
        (operation.latches r == some (.queue ⟨i⟩)) old new ∨
      operation.awaits s.kernel = some (.queue ⟨i⟩, old.generation) ∧ old.Entered ⟨i⟩ r new)
      s.kernel.queues.queues t.kernel.queues.queues := by
  cases operation with
  | identifyTask | taskAttributes | postedEvents | identifyQueue | queueLength | freeContainers
    | timerState | ticks | scheduledObjects | config | coreSnapshot | queueSnapshot | coreText
    | queueText =>
    obtain ⟨_, ⟨-, rfl⟩, -⟩ := h
    exact .refl_or (fun _ => .kept) _
  | createQueue => obtain ⟨_, h, -⟩ := h; exact h.queues.mono fun _ _ _ h => Or.inl (h.mono nofun)
  | deleteQueue => obtain ⟨_, h, -⟩ := h; exact h.queues.mono fun _ _ _ h => Or.inl (h.mono id)
  | deleteAllQueues => obtain ⟨_, h, -⟩ := h; exact h.queues.mono fun _ _ _ h => Or.inl (h.mono id)
  | postMessage => obtain ⟨_, h, -⟩ := h; exact h.queues.mono fun _ _ _ h => Or.inl (h.mono nofun)
  | receive => obtain ⟨_, h, rfl⟩ := h; exact h.queues.mono fun _ _ _ => Or.imp_left fun h => h.mono nofun
  | interruptReceiver => obtain ⟨_, h, rfl⟩ := h; exact h.queues.mono fun _ _ _ h => Or.inl (h.mono nofun)
  | postEvents | postFromDriver =>
    obtain ⟨_, h, -⟩ := h
    rw [h.queues_eq]
    exact .refl_or (fun _ => .kept) _
  | interruptTask =>
    obtain ⟨_, h, rfl⟩ := h
    cases h with
    | refused | unblocked | interrupted => exact .refl_or (fun _ => .kept) _
  | allocateTask | freeTask | sleep | clearEvents | waitEvents | createTimer | startTimer | abortTimer
    | deleteTimer =>
    obtain ⟨_, h, -⟩ := h
    cases h with
    | _ => exact .refl_or (fun _ => .kept) _

/-- What the return of a blocked call does to the entries of the queues. -/
theorem Resumed.queues {wait : Wait} {result : Except Error Value}
    (h : Resumed s wait (result.map .returned) t) :
    Each (fun i old new => wait ≠ .message ⟨i⟩ old.generation ∧ old = new ∨ old.Left ⟨i⟩ wait new)
      s.kernel.queues.queues t.kernel.queues.queues := by
  have hother {id : QueueId} {generation : UInt64} (j : Nat) (queue : Queue) (hj : j ≠ id.index) :
      Wait.message id generation ≠ .message ⟨j⟩ queue.generation ∧ queue = queue := by
    refine ⟨?_, rfl⟩
    rintro ⟨⟩
    exact hj rfl
  cases wait with
  | sleep | events =>
    obtain ⟨_, h, -⟩ := h
    rw [h.queues_eq]
    exact .refl_or (fun _ _ => ⟨nofun, rfl⟩) _
  | message id generation =>
    obtain ⟨r, hended, rfl⟩ := Proceeds.result h
    generalize hr : r.map Progress.returned = parked at hended
    cases hended with
    | waits => cases r <;> cases hr
    | lost hentry hlost =>
      intro j queue hqueue
      refine ⟨queue, hqueue, Or.inl ⟨?_, rfl⟩⟩
      rintro ⟨⟩
      cases hentry.symm.trans hqueue
      exact hlost rfl
    | interrupted hentry hkept =>
      subst hkept
      exact .set hentry (Or.inr .cut) fun j queue hj => Or.inl (hother j queue hj)
    | @served queue _ _ hentry hkept hwaiting htaken =>
      subst hkept
      have hentry' := getElem?_putQueue hentry { queue with interrupted := false } s.kernel.queues.pool
      cases htaken with
      | taken hfound hcount =>
        cases hentry'.symm.trans hfound
        simp only [queues_putQueue, queues_setQueue, QueueTable.put, QueueTable.setQueue,
          Array.setIfInBounds_setIfInBounds]
        exact .set hentry (Or.inr (.served _ hwaiting hcount)) fun j queue hj => Or.inl (hother j queue hj)
    | unserved hentry hkept hwaiting htaken =>
      subst hkept
      cases htaken with
      | empty => exact .set hentry (Or.inr (.unserved hwaiting)) fun j queue hj => Or.inl (hother j queue hj)

end Kernel

end Executive
