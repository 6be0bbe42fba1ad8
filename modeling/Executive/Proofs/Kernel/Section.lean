/-
Total correctness of critical sections. `Ends action s Q` says that `action`, begun in the section
`s`, breaks no rule and ends with a result and a section of which `Q` holds. The lemmas tagged `simp`
take an action apart into its steps, so that what is left to show is about tables only.
-/
import Executive.Kernel.Critical
import Executive.Proofs.Queue

namespace Executive

/-! ## Changing one entry of a table -/

namespace Kernel

/-- A kernel with the entry of a task replaced. -/
def setTask (kernel : Kernel) (id : TaskId) (task : Task) : Kernel :=
  { kernel with tasks := kernel.tasks.setIfInBounds id.index task }

/-- A kernel with the queue table replaced. -/
def setQueues (kernel : Kernel) (queues : QueueTable) : Kernel := { kernel with queues }

/-- A kernel with the entry of a queue and the pool of containers replaced. -/
def putQueue (kernel : Kernel) (id : QueueId) (queue : Queue) (pool : MessagePool) : Kernel :=
  kernel.setQueues (kernel.queues.put id queue pool)

/-- A kernel with the entry of a queue replaced. -/
def setQueue (kernel : Kernel) (id : QueueId) (queue : Queue) : Kernel :=
  kernel.putQueue id queue kernel.queues.pool

/-- A kernel with the entry of a timer replaced. -/
def setTimer (kernel : Kernel) (id : TimerId) (entry : Option Timer) : Kernel :=
  { kernel with timers := kernel.timers.setIfInBounds id.index entry }

/-- A kernel with the timer heap replaced. -/
def setHeap (kernel : Kernel) (heap : TimerHeap) : Kernel := { kernel with heap }

variable (kernel : Kernel) {heap : TimerHeap} {id : TaskId} {task : Task} {queueId : QueueId} {queue : Queue}
  {table : QueueTable} {pool : MessagePool} {timerId : TimerId} {entry : Option Timer}

@[simp] theorem config_setTask : (kernel.setTask id task).config = kernel.config := rfl
@[simp] theorem queues_setTask : (kernel.setTask id task).queues = kernel.queues := rfl
@[simp] theorem timers_setTask : (kernel.setTask id task).timers = kernel.timers := rfl
@[simp] theorem heap_setTask : (kernel.setTask id task).heap = kernel.heap := rfl

@[simp] theorem tasks_setTask :
    (kernel.setTask id task).tasks = kernel.tasks.setIfInBounds id.index task := rfl

@[simp] theorem setTask_setTask (other : Task) :
    (kernel.setTask id task).setTask id other = kernel.setTask id other := by
  simp [setTask]

variable {kernel} in
theorem getElem?_setTask {old : Task} (h : kernel.tasks[id.index]? = some old) (task : Task) :
    (kernel.setTask id task).tasks[id.index]? = some task := by
  rw [tasks_setTask, Array.getElem?_setIfInBounds, if_pos rfl, if_pos (Array.getElem?_eq_some_iff.1 h).1]

@[simp] theorem config_setQueues : (kernel.setQueues table).config = kernel.config := rfl
@[simp] theorem tasks_setQueues : (kernel.setQueues table).tasks = kernel.tasks := rfl
@[simp] theorem queues_setQueues : (kernel.setQueues table).queues = table := rfl
@[simp] theorem timers_setQueues : (kernel.setQueues table).timers = kernel.timers := rfl
@[simp] theorem heap_setQueues : (kernel.setQueues table).heap = kernel.heap := rfl

@[simp] theorem config_putQueue : (kernel.putQueue queueId queue pool).config = kernel.config := rfl
@[simp] theorem tasks_putQueue : (kernel.putQueue queueId queue pool).tasks = kernel.tasks := rfl
@[simp] theorem timers_putQueue : (kernel.putQueue queueId queue pool).timers = kernel.timers := rfl
@[simp] theorem heap_putQueue : (kernel.putQueue queueId queue pool).heap = kernel.heap := rfl

@[simp] theorem queues_putQueue :
    (kernel.putQueue queueId queue pool).queues = kernel.queues.put queueId queue pool := rfl

@[simp] theorem config_setQueue : (kernel.setQueue queueId queue).config = kernel.config := rfl
@[simp] theorem tasks_setQueue : (kernel.setQueue queueId queue).tasks = kernel.tasks := rfl
@[simp] theorem timers_setQueue : (kernel.setQueue queueId queue).timers = kernel.timers := rfl
@[simp] theorem heap_setQueue : (kernel.setQueue queueId queue).heap = kernel.heap := rfl

@[simp] theorem queues_setQueue :
    (kernel.setQueue queueId queue).queues = kernel.queues.setQueue queueId queue := rfl

theorem setQueues_put :
    kernel.setQueues (kernel.queues.put queueId queue pool) = kernel.putQueue queueId queue pool := rfl

/-- Of two changes of one entry the latter counts. -/
@[simp] theorem setQueue_putQueue (other : Queue) :
    (kernel.putQueue queueId queue pool).setQueue queueId other = kernel.putQueue queueId other pool := by
  simp [setQueue, putQueue, setQueues, QueueTable.put]

@[simp] theorem setQueue_setQueue (other : Queue) :
    (kernel.setQueue queueId queue).setQueue queueId other = kernel.setQueue queueId other := by
  simp [setQueue, putQueue, setQueues, QueueTable.put]

variable {kernel} in
theorem getElem?_putQueue {old : Queue} (h : kernel.queues.queues[queueId.index]? = some old)
    (queue : Queue) (pool : MessagePool) :
    (kernel.putQueue queueId queue pool).queues.queues[queueId.index]? = some queue := by
  rw [queues_putQueue, QueueTable.put, Array.getElem?_setIfInBounds, if_pos rfl,
    if_pos (Array.getElem?_eq_some_iff.1 h).1]

@[simp] theorem config_setTimer : (kernel.setTimer timerId entry).config = kernel.config := rfl
@[simp] theorem tasks_setTimer : (kernel.setTimer timerId entry).tasks = kernel.tasks := rfl
@[simp] theorem queues_setTimer : (kernel.setTimer timerId entry).queues = kernel.queues := rfl
@[simp] theorem heap_setTimer : (kernel.setTimer timerId entry).heap = kernel.heap := rfl

@[simp] theorem timers_setTimer :
    (kernel.setTimer timerId entry).timers = kernel.timers.setIfInBounds timerId.index entry := rfl

@[simp] theorem config_setHeap : (kernel.setHeap heap).config = kernel.config := rfl
@[simp] theorem tasks_setHeap : (kernel.setHeap heap).tasks = kernel.tasks := rfl
@[simp] theorem queues_setHeap : (kernel.setHeap heap).queues = kernel.queues := rfl
@[simp] theorem timers_setHeap : (kernel.setHeap heap).timers = kernel.timers := rfl
@[simp] theorem heap_setHeap : (kernel.setHeap heap).heap = heap := rfl

@[simp] theorem setHeap_setTask :
    (kernel.setTask id task).setHeap heap = (kernel.setHeap heap).setTask id task := rfl

@[simp] theorem setHeap_setTimer :
    (kernel.setTimer timerId entry).setHeap heap = (kernel.setHeap heap).setTimer timerId entry := rfl

@[simp] theorem setHeap_setHeap (other : TimerHeap) :
    (kernel.setHeap heap).setHeap other = kernel.setHeap other := rfl

end Kernel

/-! ## Ends of computations -/

variable {α β : Type} {s : Section}

/-- A computation ends as `Q` says. -/
def Critical.Ends (action : Critical α) (s : Section) (Q : α → Section → Prop) : Prop :=
  ∃ a t, action.run s = .ok (a, t) ∧ Q a t

/-- A computation that may refuse ends as `Q` says, with a result or with an error. -/
def Service.Ends (action : Service α) (s : Section) (Q : Except Error α → Section → Prop) : Prop :=
  Critical.Ends action.run s Q

namespace Critical

variable {action : Critical α} {P Q : α → Section → Prop}

theorem Ends.mono (h : action.Ends s P) (himp : ∀ a t, P a t → Q a t) : action.Ends s Q := by
  obtain ⟨a, t, hrun, hp⟩ := h
  exact ⟨a, t, hrun, himp a t hp⟩

/-- A computation has one end only. -/
theorem Ends.of_run {a : α} {t : Section} (h : action.Ends s Q) (hrun : action.run s = .ok (a, t)) :
    Q a t := by
  obtain ⟨a', t', hrun', hq⟩ := h
  rw [hrun] at hrun'
  cases hrun'
  exact hq

theorem ends_of_run {a : α} {t : Section} (hrun : action.run s = .ok (a, t)) :
    action.Ends s Q ↔ Q a t :=
  ⟨fun h => h.of_run hrun, fun h => ⟨a, t, hrun, h⟩⟩

theorem hasGate_task {kernel : Kernel} {id : TaskId} {task : Task}
    (h : kernel.tasks[id.index]? = some task) : kernel.hasGate (.task id) = true :=
  decide_eq_true (Array.getElem?_eq_some_iff.1 h).1

theorem hasGate_queue {kernel : Kernel} {id : QueueId} {queue : Queue}
    (h : kernel.queues.queues[id.index]? = some queue) : kernel.hasGate (.queue id) = true :=
  decide_eq_true (Array.getElem?_eq_some_iff.1 h).1

/-! ## The steps of a critical section -/

@[simp] theorem ends_pure (a : α) : (pure a : Critical α).Ends s Q ↔ Q a s := ends_of_run rfl

@[simp] theorem ends_bind (f : α → Critical β) {Q : β → Section → Prop} :
    (action >>= f).Ends s Q ↔ action.Ends s fun a t => (f a).Ends t Q := by
  have hrun : (action >>= f).run s = action.run s >>= fun p => (f p.1).run p.2 := rfl
  unfold Ends
  rw [hrun]
  constructor
  · rintro ⟨b, u, h, hq⟩
    cases h₁ : action.run s with
    | error trap => rw [h₁] at h; cases h
    | ok p => rw [h₁] at h; exact ⟨p.1, p.2, rfl, b, u, h, hq⟩
  · rintro ⟨a, t, h₁, b, u, h, hq⟩
    rw [h₁]; exact ⟨b, u, h, hq⟩

@[simp] theorem ends_map (f : α → β) {Q : β → Section → Prop} :
    (f <$> action).Ends s Q ↔ action.Ends s fun a t => Q (f a) t := by
  have hmap : f <$> action = action >>= fun a => pure (f a) := rfl
  simp only [hmap, ends_bind, ends_pure]

@[simp] theorem ends_liftM (x : Checked α) :
    (liftM x : Critical α).Ends s Q ↔ ∃ a, x = .ok a ∧ Q a s := by
  cases x with
  | error trap =>
    constructor
    · rintro ⟨_, _, h, -⟩; cases h
    · rintro ⟨_, h, -⟩; cases h
  | ok a =>
    refine (ends_of_run rfl).trans ?_
    constructor
    · intro h; exact ⟨a, rfl, h⟩
    · rintro ⟨b, hb, h⟩; cases hb; exact h

section Tables

variable {Q : Unit → Section → Prop}

@[simp] theorem ends_kernel {Q : Kernel → Section → Prop} :
    kernel.Ends s Q ↔ Q s.kernel s := ends_of_run rfl

@[simp] theorem ends_setTasks (tasks : TaskTable) :
    (setTasks tasks).Ends s Q ↔ Q () ⟨{ s.kernel with tasks }, s.signals⟩ := ends_of_run rfl

@[simp] theorem ends_setQueues (queues : QueueTable) :
    (setQueues queues).Ends s Q ↔ Q () ⟨s.kernel.setQueues queues, s.signals⟩ := ends_of_run rfl

@[simp] theorem ends_setTimers (timers : TimerTable) :
    (setTimers timers).Ends s Q ↔ Q () ⟨{ s.kernel with timers }, s.signals⟩ := ends_of_run rfl

@[simp] theorem ends_setHeap (heap : TimerHeap) :
    (setHeap heap).Ends s Q ↔ Q () ⟨s.kernel.setHeap heap, s.signals⟩ := ends_of_run rfl

@[simp] theorem ends_signal (given : Signal) :
    (signal given).Ends s Q ↔ Q () ⟨s.kernel, s.signals ++ [given]⟩ := ends_of_run rfl

@[simp] theorem ends_report (record : Record) :
    (report record).Ends s Q ↔ Q () ⟨s.kernel, s.signals ++ [.report record]⟩ := ends_of_run rfl

/-- Only a gate that is there can be notified. -/
@[simp] theorem ends_notify (gate : Gate) :
    (notify gate).Ends s Q ↔
      s.kernel.hasGate gate = true ∧ Q () ⟨s.kernel, s.signals ++ [.notify gate]⟩ := by
  unfold notify
  rw [ends_bind, ends_kernel]
  split
  · rename_i h
    rw [ends_signal]
    constructor
    · intro hq; exact ⟨h, hq⟩
    · rintro ⟨-, hq⟩; exact hq
  · rename_i h
    rw [ends_liftM]
    constructor
    · rintro ⟨_, he, -⟩; cases he
    · rintro ⟨hgate, -⟩; exact absurd hgate h

@[simp] theorem ends_taskEntry (id : TaskId) {Q : Task → Section → Prop} :
    (taskEntry id).Ends s Q ↔ ∃ task, s.kernel.tasks[id.index]? = some task ∧ Q task s := by
  simp only [taskEntry, ends_bind, ends_kernel, ends_liftM, Checked.read_eq_ok]

@[simp] theorem ends_queueEntry (id : QueueId) {Q : Queue → Section → Prop} :
    (queueEntry id).Ends s Q ↔
      ∃ queue, s.kernel.queues.queues[id.index]? = some queue ∧ Q queue s := by
  simp only [queueEntry, ends_bind, ends_kernel, ends_liftM, Checked.read_eq_ok]

@[simp] theorem ends_updateTask (id : TaskId) (change : Task → Task) :
    (updateTask id change).Ends s Q ↔ ∃ task, s.kernel.tasks[id.index]? = some task ∧
      Q () ⟨s.kernel.setTask id (change task), s.signals⟩ := by
  simp only [updateTask, ends_bind, ends_kernel, ends_liftM, ends_setTasks, Checked.update_eq_ok]
  constructor
  · rintro ⟨_, ⟨task, h, rfl⟩, hq⟩; exact ⟨task, h, hq⟩
  · rintro ⟨task, h, hq⟩; exact ⟨_, ⟨task, h, rfl⟩, hq⟩

@[simp] theorem ends_updateQueue (id : QueueId) (change : Queue → Queue) :
    (updateQueue id change).Ends s Q ↔ ∃ queue, s.kernel.queues.queues[id.index]? = some queue ∧
      Q () ⟨s.kernel.setQueue id (change queue), s.signals⟩ := by
  simp only [updateQueue, ends_bind, ends_kernel, ends_liftM, ends_setQueues, Checked.update_eq_ok]
  constructor
  · rintro ⟨_, ⟨queue, h, rfl⟩, hq⟩; exact ⟨queue, h, hq⟩
  · rintro ⟨queue, h, hq⟩; exact ⟨_, ⟨queue, h, rfl⟩, hq⟩

@[simp] theorem ends_setTimer (id : TimerId) (entry : Option Timer) :
    (setTimer id entry).Ends s Q ↔ id.index < s.kernel.timers.size ∧
      Q () ⟨s.kernel.setTimer id entry, s.signals⟩ := by
  simp only [setTimer, ends_bind, ends_kernel, ends_liftM, ends_setTimers, Checked.write_eq_ok]
  constructor
  · rintro ⟨_, ⟨h, rfl⟩, hq⟩; exact ⟨h, hq⟩
  · rintro ⟨h, hq⟩; exact ⟨_, ⟨h, rfl⟩, hq⟩

end Tables

end Critical

namespace Service

variable {action : Service α} {P Q : Except Error α → Section → Prop}

theorem Ends.mono (h : action.Ends s P) (himp : ∀ r t, P r t → Q r t) : action.Ends s Q :=
  Critical.Ends.mono h himp

@[simp] theorem ends_pure (a : α) : (pure a : Service α).Ends s Q ↔ Q (.ok a) s :=
  Critical.ends_of_run rfl

@[simp] theorem ends_throw (error : Error) : (throw error : Service α).Ends s Q ↔ Q (.error error) s :=
  Critical.ends_of_run rfl

/-- A service goes on with a result, and an error ends it. -/
@[simp] theorem ends_bind (f : α → Service β) {Q : Except Error β → Section → Prop} :
    (action >>= f).Ends s Q ↔ action.Ends s fun r t =>
      match r with
      | .ok a => (f a).Ends t Q
      | .error error => Q (.error error) t := by
  refine (Critical.ends_bind _).trans ?_
  refine exists_congr fun r => exists_congr fun t => and_congr_right fun _ => ?_
  cases r with
  | ok a => exact Iff.rfl
  | error error => exact Critical.ends_of_run rfl

@[simp] theorem ends_map (f : α → β) {Q : Except Error β → Section → Prop} :
    (f <$> action).Ends s Q ↔ action.Ends s fun r t =>
      match r with
      | .ok a => Q (.ok (f a)) t
      | .error error => Q (.error error) t := by
  rw [map_eq_pure_bind, ends_bind]
  refine exists_congr fun r => exists_congr fun t => and_congr_right fun _ => ?_
  cases r with
  | ok a => exact ends_pure _
  | error error => exact Iff.rfl

@[simp] theorem ends_lift (x : Critical α) :
    (liftM x : Service α).Ends s Q ↔ x.Ends s fun a t => Q (.ok a) t := by
  have hlift : (liftM x : Service α).run = x >>= fun a => pure (Except.ok a) := rfl
  unfold Service.Ends
  rw [hlift, Critical.ends_bind]
  simp only [Critical.ends_pure]

@[simp] theorem ends_result (x : Except Error α) : (liftM x : Service α).Ends s Q ↔ Q x s := by
  cases x with
  | error e => exact Critical.ends_of_run rfl
  | ok a => exact Critical.ends_of_run rfl

@[simp] theorem ends_checked (x : Checked α) :
    (liftM x : Service α).Ends s Q ↔ ∃ a, x = .ok a ∧ Q (.ok a) s :=
  (ends_lift (liftM x)).trans (Critical.ends_liftM x)

/-- Whether something is reported first makes no difference to what comes after. -/
theorem ends_report_if (c : Prop) [Decidable c] (record : Record) (rest : Service α) :
    (if c then (do liftM (Critical.report record); rest) else rest).Ends s Q ↔
      rest.Ends ⟨s.kernel, s.signals ++ if c then [.report record] else []⟩ Q := by
  by_cases hc : c
  · rw [if_pos hc, if_pos hc, ends_bind, ends_lift, Critical.ends_report]
  · rw [if_neg hc, if_neg hc, List.append_nil]

end Service

end Executive
