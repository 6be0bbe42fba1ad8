/-
What a blocked call finds when it looks again, and what critical sections do to it. A call parks
again unless its wait has ended or it is to give up (`Watch.isOver`). A section that brings about one
or the other notifies the gate of the call (`Spares`), whatever it does; the exceptions are a section
that begins or ends another wait at the same entry, one that frees the task, and one that takes out
the object of a sleep, whose action is still to come.
-/
import Executive.Proofs.Kernel.Frames

namespace Executive

/-- What a blocked call finds at the entry it waits at. -/
structure Watch where
  /-- The entry is not given to anyone else. -/
  held : Bool
  /-- What the call waits for has come, or its queue is gone. -/
  ended : Bool
  /-- The call is to give up. -/
  interrupted : Bool
  deriving DecidableEq, Repr

/-- Whether a call that finds this does not park again. -/
def Watch.isOver (watch : Watch) : Bool := watch.ended || watch.interrupted

/-- What a call is blocked on: a task, or the queue that is in an entry at some generation. -/
def Wait.subject : Wait → Gate × UInt64
  | .message queue generation => (.queue queue, generation)
  | .sleep task | .events task _ _ => (.task task, 0)

theorem Wait.subject_of_task {wait : Wait} {id : TaskId} (h : wait.gate = .task id) :
    wait.subject = (.task id, 0) := by
  cases wait with
  | sleep | events => cases h; rfl
  | message => cases h

theorem Wait.subject_fst (wait : Wait) : wait.subject.1 = wait.gate := by
  cases wait <;> rfl

namespace Kernel

open Critical

variable {a : Kernel} {s t u : Section} {wait : Wait} {id : TaskId} {queueId : QueueId}

/-- What a blocked call finds. A vacant queue has no receiver, so that its entry counts as held. -/
def watch (kernel : Kernel) : Wait → Watch
  | .sleep id =>
    let task := kernel.tasks[id.index]?.getD {}
    ⟨task.busy, !(kernel.heap.object (sleepObject id)).pending, task.interrupted⟩
  | .events id _ _ =>
    let task := kernel.tasks[id.index]?.getD {}
    ⟨task.busy, !task.waiting, task.interrupted⟩
  | .message id generation =>
    let queue := kernel.queues.queues[id.index]?.getD {}
    ⟨queue.busy || !queue.waiting, queue.generation != generation || !queue.waiting,
      queue.interrupted⟩

/-! ## Changes that a blocked call does not see -/

theorem watch_setTask {old new : Task} (hold : a.tasks[id.index]? = some old)
    (hbusy : new.busy = old.busy) (hwaiting : new.waiting = old.waiting)
    (hinterrupted : new.interrupted = old.interrupted) :
    (a.setTask id new).watch wait = a.watch wait := by
  cases wait with
  | sleep other | events other =>
    simp only [watch, tasks_setTask, heap_setTask, Array.getElem?_setIfInBounds]
    by_cases heq : id.index = other.index
    · rw [← heq, hold, if_pos rfl, if_pos (Array.getElem?_eq_some_iff.1 hold).1]
      simp [hbusy, hwaiting, hinterrupted]
    · rw [if_neg heq]
  | message => rfl

theorem watch_setTask_ne (hne : wait.gate ≠ .task id) (task : Task) :
    (a.setTask id task).watch wait = a.watch wait := by
  cases wait with
  | sleep other | events other =>
    have hindex : id.index ≠ other.index := fun heq => hne (by
      cases id; cases other; cases heq; rfl)
    simp only [watch, tasks_setTask, heap_setTask, Array.getElem?_setIfInBounds, if_neg hindex]
  | message => rfl

theorem watch_setHeap {heap : TimerHeap} (hpending : ∀ id, wait = .sleep id →
      (heap.object (sleepObject id)).pending = (a.heap.object (sleepObject id)).pending) :
    (a.setHeap heap).watch wait = a.watch wait := by
  cases wait with
  | sleep id => simp only [watch, tasks_setHeap, heap_setHeap, hpending id rfl]
  | events | message => rfl

@[simp] theorem watch_setTimer (timer : TimerId) (entry : Option Timer) :
    (a.setTimer timer entry).watch wait = a.watch wait := by
  cases wait with
  | sleep | events | message => rfl

theorem watch_putQueue {old new : Queue} {pool : MessagePool}
    (hold : a.queues.queues[queueId.index]? = some old) (hbusy : new.busy = old.busy)
    (hwaiting : new.waiting = old.waiting) (hinterrupted : new.interrupted = old.interrupted)
    (hgeneration : new.generation = old.generation) :
    (a.putQueue queueId new pool).watch wait = a.watch wait := by
  cases wait with
  | sleep | events => rfl
  | message other =>
    simp only [watch, queues_putQueue, QueueTable.put, Array.getElem?_setIfInBounds]
    by_cases heq : queueId.index = other.index
    · rw [← heq, hold, if_pos rfl, if_pos (Array.getElem?_eq_some_iff.1 hold).1]
      simp [hbusy, hwaiting, hinterrupted, hgeneration]
    · rw [if_neg heq]

theorem watch_putQueue_ne (hne : wait.gate ≠ .queue queueId) (queue : Queue) (pool : MessagePool) :
    (a.putQueue queueId queue pool).watch wait = a.watch wait := by
  cases wait with
  | sleep | events => rfl
  | message other =>
    have hindex : queueId.index ≠ other.index := fun heq => hne (by
      cases queueId; cases other; cases heq; rfl)
    simp only [watch, queues_putQueue, QueueTable.put, Array.getElem?_setIfInBounds, if_neg hindex]

/-! ## Entries that stay held -/

theorem held_setTask {old new : Task} (hold : a.tasks[id.index]? = some old)
    (hbusy : new.busy = old.busy) :
    ((a.setTask id new).watch wait).held = (a.watch wait).held := by
  cases wait with
  | sleep other | events other =>
    simp only [watch, tasks_setTask, Array.getElem?_setIfInBounds]
    by_cases heq : id.index = other.index
    · rw [← heq, hold, if_pos rfl, if_pos (Array.getElem?_eq_some_iff.1 hold).1]
      simp [hbusy]
    · rw [if_neg heq]
  | message => rfl

theorem held_setHeap (heap : TimerHeap) :
    ((a.setHeap heap).watch wait).held = (a.watch wait).held := by
  cases wait with
  | sleep | events | message => rfl

theorem held_putQueue {queue : Queue} {pool : MessagePool}
    (hbusy : queue.waiting = true → queue.busy = true) (h : (a.watch wait).held = true) :
    ((a.putQueue queueId queue pool).watch wait).held = true := by
  cases wait with
  | sleep | events => exact h
  | message other =>
    simp only [watch, queues_putQueue, QueueTable.put, Array.getElem?_setIfInBounds]
    by_cases heq : queueId.index = other.index
    · rw [if_pos heq]
      split
      · cases hw : queue.waiting with
        | false => simp [hw]
        | true => simp [hbusy hw]
      · rfl
    · rw [if_neg heq]
      exact h

/-! ## Waits that are over -/

theorem isOver_of_interrupted {task : Task} (hgate : wait.gate = .task id)
    (hentry : a.tasks[id.index]? = some task) (h : task.interrupted = true) :
    (a.watch wait).isOver = true := by
  cases wait with
  | sleep | events => cases hgate; simp [watch, Watch.isOver, hentry, h]
  | message => cases hgate

theorem isOver_of_queue {queue : Queue} (hgate : wait.gate = .queue queueId)
    (hentry : a.queues.queues[queueId.index]? = some queue)
    (h : queue.waiting = false ∨ queue.interrupted = true ∨
      wait.subject ≠ (.queue queueId, queue.generation)) : (a.watch wait).isOver = true := by
  cases wait with
  | sleep | events => cases hgate
  | message other generation =>
    cases hgate
    rcases h with hw | hi | hsubject
    · simp [watch, Watch.isOver, hentry, hw]
    · simp [watch, Watch.isOver, hentry, hi]
    · have hne : queue.generation ≠ generation := by
        rintro rfl; exact hsubject rfl
      simp [watch, Watch.isOver, hentry, hne]

/-- The entry of a task is held while the task is in use. -/
theorem held_of_task {task : Task} (hgate : wait.gate = .task id)
    (hentry : a.tasks[id.index]? = some task) : (a.watch wait).held = task.busy := by
  cases wait with
  | sleep | events => cases hgate; simp [watch, hentry]
  | message => cases hgate

/-! ## Sections that spare a wait -/

/-- A section that begins in `s` and ends in `t` takes the entry of a wait from no one, and if the
wait was not over then it is not over now, or its gate has been notified. -/
structure Spares (wait : Wait) (s t : Section) : Prop where
  held : (s.kernel.watch wait).held = true → (t.kernel.watch wait).held = true
  resting : (s.kernel.watch wait).held = true → (s.kernel.watch wait).isOver = false →
    .notify wait.gate ∈ t.signals ∨ (t.kernel.watch wait).isOver = false

namespace Spares

theorem of_eq (h : t.kernel.watch wait = s.kernel.watch wait) : Spares wait s t := by
  constructor
  · rw [h]; exact id
  · rw [h]; exact fun _ hrests => Or.inr hrests

theorem of_over (hheld : (s.kernel.watch wait).held = true → (t.kernel.watch wait).held = true)
    (hover : (s.kernel.watch wait).isOver = true) : Spares wait s t := by
  refine ⟨hheld, fun _ hrests => ?_⟩
  rw [hover] at hrests; cases hrests

theorem of_notify (hheld : (s.kernel.watch wait).held = true → (t.kernel.watch wait).held = true)
    (hsignal : .notify wait.gate ∈ t.signals) : Spares wait s t :=
  ⟨hheld, fun _ _ => Or.inl hsignal⟩

theorem refl (wait : Wait) (s : Section) : Spares wait s s := of_eq rfl

theorem trans (h : Spares wait s t) (k : Spares wait t u) (hgiven : t.signals <+: u.signals) :
    Spares wait s u := by
  refine ⟨fun hheld => k.held (h.held hheld), fun hheld hrests => ?_⟩
  rcases h.resting hheld hrests with hsignal | hrests'
  · exact Or.inl (hgiven.subset hsignal)
  · exact k.resting (h.held hheld) hrests'

end Spares

/-! ## Tasks -/

theorem EventsPosted.spares {bits : EventBits} {r : Except Error Unit}
    (h : EventsPosted id bits s r t) (wait : Wait) : Spares wait s t := by
  cases h with
  | refused => exact .refl ..
  | @posted task hget =>
    have hentry := (TaskTable.get_eq_ok.1 hget).2.1
    cases hwoken : task.isWokenBy bits with
    | false =>
      refine .of_eq (watch_setTask hentry ?_ ?_ ?_)
      · simp [Task.received, hwoken, Task.post]
      · simp [Task.received, hwoken, Task.post]
      · simp [Task.received, hwoken, Task.post]
    | true =>
      by_cases hgate : wait.gate = .task id
      · refine .of_notify (fun hheld => ?_) (by simp [postSignals, hwoken, hgate])
        exact (held_setTask hentry (by simp [Task.received, hwoken, Task.post])).trans hheld
      · exact .of_eq (watch_setTask_ne hgate _)

theorem EventsCleared.spares {bits : EventBits} {r : Except Error Unit}
    (h : EventsCleared id bits s r t) (wait : Wait) : Spares wait s t := by
  cases h with
  | refused => exact .refl ..
  | cleared hget => exact .of_eq (watch_setTask (TaskTable.get_eq_ok.1 hget).2.1 rfl rfl rfl)

/-- Another call at the entry of the task may only wait itself once this one does not. -/
theorem EventsAwaited.spares {mask : EventBits} {condition : Condition} {timeout : Timeout}
    {r : Except Error (Progress EventBits)} (h : EventsAwaited id mask condition timeout s r t)
    (hpark : ∀ other, r = .ok (.parked other) → other.subject ≠ wait.subject) :
    Spares wait s t := by
  by_cases hgate : wait.gate = .task id
  · cases h with
    | refused | unmet => exact .refl ..
    | met hget => exact .of_eq (watch_setTask (TaskTable.get_eq_ok.1 hget).2.1 rfl rfl rfl)
    | interrupted hget _ _ hinterrupted =>
      have hentry := (TaskTable.get_eq_ok.1 hget).2.1
      refine .of_over (fun hheld => (held_setTask hentry ?_).trans hheld)
        (isOver_of_interrupted hgate hentry hinterrupted)
      rfl
    | waits => exact absurd (Wait.subject_of_task hgate).symm (hpark _ rfl)
  · cases h with
    | refused | unmet => exact .refl ..
    | met | interrupted | waits => exact .of_eq (watch_setTask_ne hgate _)

theorem EventsResumed.spares {mask : EventBits} {condition : Condition}
    {r : Except Error (Progress EventBits)} (h : EventsResumed id mask condition s r t)
    (hgate : wait.gate ≠ .task id) : Spares wait s t := by
  cases h with
  | woken | interrupted => exact .of_eq (watch_setTask_ne hgate _)
  | waits => exact .refl ..

theorem TaskAllocated.spares {name : String} {attributes : Attributes} {r : Except Error TaskId}
    (h : TaskAllocated name attributes s r t) (wait : Wait) : Spares wait s t := by
  cases h with
  | refused => exact .refl ..
  | @allocated new old hpos hentry hvacant =>
    by_cases hgate : wait.gate = .task new
    · have hfree : (s.kernel.watch wait).held = false :=
        (held_of_task hgate hentry).trans hvacant
      constructor
      · rw [hfree]; exact nofun
      · rw [hfree]; exact nofun
    · exact .of_eq (watch_setTask_ne hgate _)

/-- What happens to the object of another task does not matter to a sleep. -/
theorem pending_of_agrees {heap : TimerHeap} (hgate : wait.gate ≠ .task id)
    (h : TimerHeap.AgreesBut (sleepObject id) a.heap heap) : ∀ other, wait = .sleep other →
      (heap.object (sleepObject other)).pending = (a.heap.object (sleepObject other)).pending := by
  rintro other rfl
  refine (h.alike _ fun heq => hgate ?_).pending
  cases id; cases other; cases heq; rfl

/-- The object of an application timer is not that of a sleep. -/
theorem pending_of_timer {heap : TimerHeap} {timer : TimerId} (hgate : a.hasGate wait.gate = true)
    (h : TimerHeap.AgreesBut (a.timerObject timer) a.heap heap) : ∀ other, wait = .sleep other →
      (heap.object (sleepObject other)).pending = (a.heap.object (sleepObject other)).pending := by
  rintro other rfl
  have hentry := Array.getElem?_eq_getElem (of_decide_eq_true hgate)
  exact (h.alike _ (timerObject_ne_sleepObject timer hentry).symm).pending

theorem TaskFreed.spares {r : Except Error Unit} (h : TaskFreed id s r t)
    (hgate : wait.gate ≠ .task id) : Spares wait s t := by
  cases h with
  | refused => exact .refl ..
  | freed _ hremove =>
    refine .of_eq ((watch_setTask_ne hgate _).trans (watch_setHeap ?_))
    exact pending_of_agrees hgate hremove.toAgreesBut

theorem Slept.spares {ticks : Nat} {r : Except Error (Progress Unit)} (h : Slept id ticks s r t)
    (hpark : ∀ other, r = .ok (.parked other) → other.subject ≠ wait.subject) :
    Spares wait s t := by
  by_cases hgate : wait.gate = .task id
  · cases h with
    | refused => exact .refl ..
    | @interrupted task armed heap hget hinterrupted =>
      have hentry := (TaskTable.get_eq_ok.1 hget).2.1
      have hentry' : (s.kernel.setHeap heap).tasks[id.index]? = some task := hentry
      refine .of_over (fun hheld => ?_) (isOver_of_interrupted hgate hentry hinterrupted)
      refine (held_setTask hentry' ?_).trans ((held_setHeap heap).trans hheld)
      rfl
    | waits => exact absurd (Wait.subject_of_task hgate).symm (hpark _ rfl)
  · cases h with
    | refused => exact .refl ..
    | interrupted _ _ hstart hremove =>
      refine .of_eq ((watch_setTask_ne hgate _).trans (watch_setHeap ?_))
      exact pending_of_agrees hgate (hstart.toAgreesBut.trans hremove.toAgreesBut)
    | waits _ _ hstart =>
      refine .of_eq ((watch_setTask_ne hgate _).trans (watch_setHeap ?_))
      exact pending_of_agrees hgate hstart.toAgreesBut

theorem SleepResumed.spares {r : Except Error (Progress Unit)} (h : SleepResumed id s r t)
    (hgate : wait.gate ≠ .task id) : Spares wait s t := by
  cases h with
  | woken => exact .of_eq (watch_setTask_ne hgate _)
  | interrupted _ _ _ hremove =>
    refine .of_eq ((watch_setTask_ne hgate _).trans (watch_setHeap ?_))
    exact pending_of_agrees hgate hremove.toAgreesBut
  | waits => exact .refl ..

theorem TaskInterrupted.spares {r : Except Error Bool} (h : TaskInterrupted id s r t) (wait : Wait) :
    Spares wait s t := by
  cases h with
  | refused | unblocked => exact .refl ..
  | interrupted hget =>
    have hentry := (TaskTable.get_eq_ok.1 hget).2.1
    by_cases hgate : wait.gate = .task id
    · refine .of_notify (fun hheld => (held_setTask hentry ?_).trans hheld) (by simp [hgate])
      rfl
    · exact .of_eq (watch_setTask_ne hgate _)

/-! ## Queues -/

theorem BoundPosted.spares {binding : Option Binding} {r : Except Error Unit}
    (h : BoundPosted binding s r t) (wait : Wait) : Spares wait s t := by
  cases binding with
  | none => rw [h.2]; exact .refl ..
  | some binding => exact EventsPosted.spares h wait

/-- Whatever ends the wait of a receiver notifies it, if there is one. -/
theorem spares_putQueue {old new : Queue} {pool : MessagePool} {signals : List Signal}
    (hentry : s.kernel.queues.queues[queueId.index]? = some old)
    (hnew : new.waiting = true → new.busy = true)
    (hsignals : old.waiting = true → .notify (.queue queueId) ∈ signals) (wait : Wait) :
    Spares wait s ⟨s.kernel.putQueue queueId new pool, signals⟩ := by
  by_cases hgate : wait.gate = .queue queueId
  · cases hw : old.waiting with
    | false => exact .of_over (held_putQueue hnew) (isOver_of_queue hgate hentry (Or.inl hw))
    | true => exact .of_notify (held_putQueue hnew) (hgate ▸ hsignals hw)
  · exact .of_eq (watch_putQueue_ne hgate _ _)

theorem MessagePosted.spares {message : Message} {mode : PostMode} {r : Except Error Unit}
    (h : MessagePosted queueId message mode s r t) (wait : Wait) : Spares wait s t := by
  cases h with
  | refused => exact .refl ..
  | pushed hget _ _ hbound =>
    have hentry := (QueueTable.get_eq_ok.1 hget).2.1
    refine (spares_putQueue hentry ?_ ?_ wait).trans (hbound.spares wait) hbound.signals_prefix
    · intro hw; cases hw
    · intro hw; simp [receiverSignals, hw]

theorem QueueCreated.spares {name : String} {options : QueueOptions} {r : Except Error QueueId}
    (h : QueueCreated name options s r t) (wait : Wait) : Spares wait s t := by
  cases h with
  | refused => exact .refl ..
  | @created new old hpos hentry hvacant =>
    by_cases hgate : wait.gate = .queue new
    · refine ⟨held_putQueue fun _ => rfl, fun hheld hrests => ?_⟩
      -- a wait at a vacant entry that is held has ended
      have hw : old.waiting = false := by
        cases wait with
        | sleep | events => cases hgate
        | message => cases hgate; simpa [watch, hentry, hvacant] using hheld
      rw [isOver_of_queue hgate hentry (Or.inl hw)] at hrests
      cases hrests
    · exact .of_eq (watch_putQueue_ne hgate _ _)

theorem QueueDeleted.spares {r : Except Error Unit} (h : QueueDeleted queueId s r t) (wait : Wait) :
    Spares wait s t := by
  cases h with
  | refused => exact .refl ..
  | deleted hget =>
    refine spares_putQueue (QueueTable.get_eq_ok.1 hget).2.1 ?_ ?_ wait
    · intro hw; cases hw
    · intro hw; simp [deleteSignals, receiverSignals, hw]

theorem AllQueuesDeleted.spares {r : Except Error Unit} (h : AllQueuesDeleted s r t)
    (hwf : s.kernel.WellFormed) (wait : Wait) : Spares wait s t := by
  obtain ⟨free, members, hholds⟩ := hwf.queues
  have hqueues : t.kernel.watch wait = (s.kernel.setQueues t.kernel.queues).watch wait := by
    rw [← h.kernel]
  cases wait with
  | sleep | events => exact .of_eq hqueues
  | message id generation =>
    cases hentry : s.kernel.queues.queues[id.index]? with
    | none => exact .of_eq (by simp [watch, h.entry, hentry])
    | some queue =>
      cases hbusy : queue.busy with
      | false => exact .of_eq (by simp [watch, h.entry, hentry, hbusy])
      | true =>
        refine ⟨fun _ => by simp [watch, h.entry, hentry, hbusy, Queue.closed], fun _ hrests => ?_⟩
        -- the entry is among those that are closed, and its receiver is notified with it
        have hw : queue.waiting = true := by
          rw [← Bool.not_eq_false]
          intro hw
          rw [isOver_of_queue rfl hentry (Or.inl hw)] at hrests
          cases hrests
        have hlive : id ∈ s.kernel.queues.live := (QueueTable.mem_live hholds).2
          ⟨queue, QueueTable.get_eq_ok.2 ⟨hholds.index_pos hentry hbusy, hentry, hbusy⟩⟩
        refine Or.inl ?_
        rw [h.signals]
        refine List.mem_append_left _ (List.mem_append_right _ (List.mem_flatMap.2 ⟨id, hlive, ?_⟩))
        simp [hentry, receiverSignals, hw, Wait.gate]

theorem MessageTaken.spares {message : Option Message} (h : MessageTaken queueId s message t)
    (wait : Wait) : Spares wait s t := by
  cases h with
  | empty => exact .refl ..
  | taken hentry => exact .of_eq (watch_putQueue hentry rfl rfl rfl rfl)

theorem Received.spares {timeout : Timeout} {r : Except Error (Progress Message)}
    (h : Received queueId timeout s r t)
    (hpark : ∀ other, r = .ok (.parked other) → other.subject ≠ wait.subject) :
    Spares wait s t := by
  cases h with
  | refused | empty => exact .refl ..
  | served _ htaken => exact htaken.spares wait
  | interrupted hget _ _ hinterrupted =>
    have hentry := (QueueTable.get_eq_ok.1 hget).2.1
    by_cases hgate : wait.gate = .queue queueId
    · refine .of_over (held_putQueue ?_)
        (isOver_of_queue hgate hentry (Or.inr (Or.inl hinterrupted)))
      intro hw; cases hw
    · exact .of_eq (watch_putQueue_ne hgate _ _)
  | waits hget =>
    obtain ⟨-, hentry, hbusy⟩ := QueueTable.get_eq_ok.1 hget
    by_cases hgate : wait.gate = .queue queueId
    · refine .of_over (held_putQueue fun _ => hbusy) (isOver_of_queue hgate hentry ?_)
      exact Or.inr (Or.inr (hpark _ rfl).symm)
    · exact .of_eq (watch_putQueue_ne hgate _ _)

/-- A receiver that looks again changes the flags of the queue it waited for and of no other. -/
theorem ReceiveResumed.spares {generation : UInt64} {r : Except Error (Progress Message)}
    (h : ReceiveResumed queueId generation s r t)
    (hsubject : wait.subject ≠ (.queue queueId, generation)) : Spares wait s t := by
  have hset {queue new : Queue} {signals : List Signal}
      (hentry : s.kernel.queues.queues[queueId.index]? = some queue)
      (hkept : queue.generation = generation) (hbusy : new.busy = queue.busy)
      (hwaiting : new.waiting = queue.waiting ∨ new.waiting = false) :
      Spares wait s ⟨s.kernel.setQueue queueId new, signals⟩ := by
    by_cases hgate : wait.gate = .queue queueId
    · refine .of_over (fun hheld => ?_) (isOver_of_queue hgate hentry (Or.inr (Or.inr (hkept ▸ hsubject))))
      cases wait with
      | sleep | events => cases hgate
      | message =>
        cases hgate
        have hput : (s.kernel.setQueue queueId new).queues.queues[queueId.index]? = some new :=
          getElem?_putQueue hentry new s.kernel.queues.pool
        simp only [watch, hentry, hput, Option.getD_some, hbusy] at hheld ⊢
        rcases hwaiting with hw | hw
        · rw [hw]; exact hheld
        · simp [hw]
    · exact .of_eq (watch_putQueue_ne hgate _ _)
  have htake {queue : Queue} {message : Option Message}
      (hentry : s.kernel.queues.queues[queueId.index]? = some queue)
      (hkept : queue.generation = generation)
      (htaken : MessageTaken queueId
        ⟨s.kernel.setQueue queueId { queue with interrupted := false }, s.signals⟩ message t) :
      Spares wait s t := by
    refine Spares.trans (hset hentry hkept ?_ (Or.inl ?_)) (htaken.spares wait) ?_
    · rfl
    · rfl
    cases htaken with
    | empty | taken => exact List.prefix_rfl
  cases h with
  | lost => exact .of_eq rfl
  | served hentry hkept _ htaken => exact htake hentry hkept htaken
  | unserved hentry hkept _ htaken => exact htake hentry hkept htaken
  | interrupted hentry hkept => exact hset hentry hkept rfl (Or.inr rfl)
  | waits => exact .refl ..

theorem ReceiverInterrupted.spares {r : Except Error Bool} (h : ReceiverInterrupted queueId s r t)
    (wait : Wait) : Spares wait s t := by
  cases h with
  | refused | unblocked => exact .refl ..
  | interrupted hget =>
    obtain ⟨-, hentry, hbusy⟩ := QueueTable.get_eq_ok.1 hget
    refine spares_putQueue hentry ?_ ?_ wait
    · exact fun _ => hbusy
    · intro; simp

/-! ## Timers -/

section Timers

variable {timer : TimerId}

theorem TimerCreated.spares {target : TimerTarget} {r : Except Error TimerId}
    (h : TimerCreated target s r t) (wait : Wait) : Spares wait s t := by
  cases h with
  | refused => exact .refl ..
  | created => exact .of_eq (watch_setTimer ..)

theorem ActedOn.spares {target : TimerTarget} {r : Except Error Unit} (h : ActedOn target s r t)
    (wait : Wait) : Spares wait s t := by
  cases target with
  | event => exact EventsPosted.spares h wait
  | message => exact MessagePosted.spares h wait

variable (hgate : s.kernel.hasGate wait.gate = true)

include hgate

theorem TimerStarted.spares {delay : Nat} {reload : Option Nat} {r : Except Error Unit}
    (h : TimerStarted timer delay reload s r t) : Spares wait s t := by
  cases h with
  | refused => exact .refl ..
  | started _ hstart =>
    refine .of_eq ((watch_setTimer ..).trans (watch_setHeap ?_))
    exact pending_of_timer hgate hstart.toAgreesBut

theorem TimerAborted.spares {r : Except Error Unit} (h : TimerAborted timer s r t) :
    Spares wait s t := by
  cases h with
  | refused => exact .refl ..
  | stopped _ _ hremove =>
    refine .of_eq ((watch_setTimer ..).trans (watch_setHeap ?_))
    exact pending_of_timer hgate hremove.toAgreesBut
  | expired | idle => exact .of_eq (watch_setTimer ..)

theorem TimerDeleted.spares {r : Except Error Unit} (h : TimerDeleted timer s r t) :
    Spares wait s t := by
  cases h with
  | refused => exact .refl ..
  | deleted _ hremove =>
    refine .of_eq ((watch_setTimer ..).trans (watch_setHeap ?_))
    exact pending_of_timer hgate hremove.toAgreesBut

theorem TimerFired.spares {r : Except Error Unit} (h : TimerFired timer s r t) :
    Spares wait s t := by
  cases h with
  | scheduled | inactive => exact .refl ..
  | expired _ _ hact =>
    refine .trans (.of_eq ?_) (hact.spares wait) hact.signals_prefix
    exact watch_setTimer ..
  | rearmed _ _ hstart hact =>
    refine .trans (.of_eq ?_) (hact.spares wait) hact.signals_prefix
    exact watch_setHeap (pending_of_timer hgate hstart.toAgreesBut)

theorem ActionDone.spares {action : TimerAction} (h : ActionDone s action t) : Spares wait s t := by
  cases h with
  | woken => exact .of_eq rfl
  | fired hfired => exact hfired.spares hgate
  | failed hfired =>
    exact (hfired.spares hgate).trans (.of_eq rfl) (List.prefix_append ..)

/-- Taking out a due object ends a sleep only if its action is in hand. -/
theorem NextDue.spares {action : Option TimerAction} (hwf : s.kernel.WellFormed)
    (h : NextDue s action t) (hother : ∀ id, wait = .sleep id → action ≠ some (.wakeTask id)) :
    Spares wait s t := by
  cases h with
  | @popped object action heap hpop =>
    refine .of_eq (watch_setHeap ?_)
    rintro id rfl
    refine (hpop.alike _ ?_).pending
    -- the object of a task has no action but to wake that task
    rintro rfl
    have hserves := hwf.serves _ _ hpop.armed
    have hlt : id.index < s.kernel.tasks.size := of_decide_eq_true hgate
    rw [hwf.tasks_size] at hlt
    cases action with
    | wakeTask task =>
      obtain ⟨-, heq⟩ := hserves
      refine hother id rfl ?_
      cases id; cases task; cases heq; rfl
    | fireTimer timer =>
      obtain ⟨-, heq⟩ := hserves
      exact absurd heq (Nat.ne_of_lt (Nat.lt_add_right _ hlt))
  | idle => exact .refl ..
  | rebased _ _ hrebase =>
    refine .of_eq (watch_setHeap fun id _ => ?_)
    rw [hrebase.object]
    split
    · rfl
    · rfl

end Timers

theorem NextDue.held {action : Option TimerAction} (h : NextDue s action t) (wait : Wait) :
    (t.kernel.watch wait).held = (s.kernel.watch wait).held := by
  cases h with
  | popped | rebased => exact held_setHeap _
  | idle => rfl

/-! ## Operations and second looks -/

/-- An operation spares every wait, unless it frees the task or begins another wait at the entry. -/
theorem Performed.spares {operation : Operation} {r : Except Error (Progress Value)}
    (hwf : s.kernel.WellFormed) (hgate : s.kernel.hasGate wait.gate = true)
    (h : Performed s operation r t) (hfree : ∀ id, operation = .freeTask id → wait.gate ≠ .task id)
    (hpark : ∀ other, r = .ok (.parked other) → other.subject ≠ wait.subject) :
    Spares wait s t := by
  cases operation with
  | identifyTask | taskAttributes | postedEvents | identifyQueue | queueLength | freeContainers
    | timerState | ticks | scheduledObjects | config | coreSnapshot | queueSnapshot | coreText
    | queueText =>
    obtain ⟨_, ⟨-, rfl⟩, -⟩ := h
    exact .refl ..
  | allocateTask => obtain ⟨_, h, -⟩ := h; exact h.spares wait
  | freeTask task => obtain ⟨_, h, -⟩ := h; exact h.spares (hfree task rfl)
  | interruptTask => obtain ⟨_, h, -⟩ := h; exact h.spares wait
  | sleep =>
    obtain ⟨_, h, rfl⟩ := h
    exact h.spares fun other heq => hpark other (by rw [heq]; rfl)
  | postEvents => obtain ⟨_, h, -⟩ := h; exact h.spares wait
  | postFromDriver =>
    obtain ⟨_, h, -⟩ := h
    have hreported := h.spares wait
    exact ⟨hreported.held, hreported.resting⟩
  | clearEvents => obtain ⟨_, h, -⟩ := h; exact h.spares wait
  | waitEvents =>
    obtain ⟨_, h, rfl⟩ := h
    exact h.spares fun other heq => hpark other (by rw [heq]; rfl)
  | createQueue => obtain ⟨_, h, -⟩ := h; exact h.spares wait
  | deleteQueue => obtain ⟨_, h, -⟩ := h; exact h.spares wait
  | deleteAllQueues => obtain ⟨_, h, -⟩ := h; exact h.spares hwf wait
  | postMessage => obtain ⟨_, h, -⟩ := h; exact h.spares wait
  | receive =>
    obtain ⟨_, h, rfl⟩ := h
    exact h.spares fun other heq => hpark other (by rw [heq]; rfl)
  | interruptReceiver => obtain ⟨_, h, -⟩ := h; exact h.spares wait
  | createTimer => obtain ⟨_, h, -⟩ := h; exact h.spares wait
  | startTimer => obtain ⟨_, h, -⟩ := h; exact h.spares hgate
  | abortTimer => obtain ⟨_, h, -⟩ := h; exact h.spares hgate
  | deleteTimer => obtain ⟨_, h, -⟩ := h; exact h.spares hgate

/-- A call that looks again spares the waits for anything else. -/
theorem Resumed.spares {other : Wait} {r : Except Error (Progress Value)} (h : Resumed s other r t)
    (hne : wait.subject ≠ other.subject) : Spares wait s t := by
  cases other with
  | sleep =>
    obtain ⟨_, h, -⟩ := h
    exact h.spares fun hgate => hne (Wait.subject_of_task hgate)
  | events =>
    obtain ⟨_, h, -⟩ := h
    exact h.spares fun hgate => hne (Wait.subject_of_task hgate)
  | message => obtain ⟨_, h, -⟩ := h; exact h.spares hne

/-- A call parks at an entry that is held, and its wait is not over. -/
theorem Performed.rests {operation : Operation} (h : Performed s operation (.ok (.parked wait)) t) :
    (t.kernel.watch wait).held = true ∧ (t.kernel.watch wait).isOver = false := by
  cases operation with
  | sleep =>
    cases Proceeds.parked h with
    | @waits task heap hget hinterrupted hstart =>
      obtain ⟨-, hentry, hbusy⟩ := TaskTable.get_eq_ok.1 hget
      have hput := getElem?_setTask (show (s.kernel.setHeap heap).tasks[_]? = some task from hentry)
        { task with sleeping := true }
      simp only [watch, Watch.isOver, hput, heap_setTask, heap_setHeap, hstart.pending]
      exact ⟨hbusy, by simpa using hinterrupted⟩
  | waitEvents =>
    cases Proceeds.parked h with
    | @waits task hget _ _ hinterrupted =>
      obtain ⟨-, hentry, hbusy⟩ := TaskTable.get_eq_ok.1 hget
      have hput := getElem?_setTask hentry
      simp only [watch, Watch.isOver, hput]
      exact ⟨hbusy, by simpa using hinterrupted⟩
  | receive =>
    cases Proceeds.parked h with
    | @waits queue hget _ _ hinterrupted =>
      obtain ⟨-, hentry, hbusy⟩ := QueueTable.get_eq_ok.1 hget
      have hput := getElem?_putQueue hentry { queue with waiting := true } s.kernel.queues.pool
      simp only [watch, Watch.isOver, setQueue, hput]
      simp [hbusy, hinterrupted]
  | _ => exact absurd h Gives.not_parked

/-- A call that looks again parks, with nothing changed, as long as its wait is not over. -/
theorem Resumed.parks {r : Except Error (Progress Value)} (h : Resumed s wait r t)
    (hrests : (s.kernel.watch wait).isOver = false) : r = .ok (.parked wait) ∧ t = s := by
  cases wait with
  | sleep =>
    obtain ⟨_, h, rfl⟩ := h
    cases h with
    | woken hentry hpending => simp [watch, Watch.isOver, hpending] at hrests
    | interrupted hentry _ hinterrupted => simp [watch, Watch.isOver, hentry, hinterrupted] at hrests
    | waits => exact ⟨rfl, rfl⟩
  | events =>
    obtain ⟨_, h, rfl⟩ := h
    cases h with
    | woken hentry hwaiting => simp [watch, Watch.isOver, hentry, hwaiting] at hrests
    | interrupted hentry _ hinterrupted => simp [watch, Watch.isOver, hentry, hinterrupted] at hrests
    | waits => exact ⟨rfl, rfl⟩
  | message =>
    obtain ⟨_, h, rfl⟩ := h
    cases h with
    | lost hentry hlost => simp [watch, Watch.isOver, hentry, hlost] at hrests
    | served hentry _ hwaiting | unserved hentry _ hwaiting =>
      simp [watch, Watch.isOver, hentry, hwaiting] at hrests
    | interrupted hentry _ _ hinterrupted =>
      simp [watch, Watch.isOver, hentry, hinterrupted] at hrests
    | waits => exact ⟨rfl, rfl⟩

/-- It parks only then. -/
theorem Resumed.rests {other : Wait} (h : Resumed s wait (.ok (.parked other)) t) :
    (s.kernel.watch wait).isOver = false := by
  cases wait with
  | sleep =>
    cases Proceeds.parked h with
    | waits hentry hpending hinterrupted => simp [watch, Watch.isOver, hentry, hpending, hinterrupted]
  | events =>
    cases Proceeds.parked h with
    | waits hentry hwaiting hinterrupted => simp [watch, Watch.isOver, hentry, hwaiting, hinterrupted]
  | message =>
    cases Proceeds.parked h with
    | waits hentry hkept hwaiting hinterrupted =>
      simp [watch, Watch.isOver, hentry, hkept, hwaiting, hinterrupted]

end Kernel

end Executive
