/-
What the operations on event words do. Each has one specification, which says how it ends in terms
of what it found: a service on a task that is not in use refuses and leaves the section as it was.
-/
import Executive.Kernel.Events
import Executive.Proofs.Kernel.WellFormed

namespace Executive

namespace Task

/-- Whether a post of events ends the blocked wait of a task. -/
def isWokenBy (task : Task) (bits : EventBits) : Bool :=
  (task.post bits).waiting && (task.post bits).isSatisfied

/-- A task after a post of events. -/
def received (task : Task) (bits : EventBits) : Task :=
  if task.isWokenBy bits then { task.post bits with waiting := false } else task.post bits

@[simp] theorem posted_received (task : Task) (bits : EventBits) :
    (task.received bits).posted = task.posted ||| bits := by
  rw [received]; split <;> rfl

@[simp] theorem postCount_received (task : Task) (bits : EventBits) :
    (task.received bits).postCount = task.postCount + 1 := by
  rw [received]; split <;> rfl

@[simp] theorem busy_received (task : Task) (bits : EventBits) : (task.received bits).busy = task.busy := by
  rw [received]; split <;> rfl

end Task

namespace Kernel

open Critical

variable {s : Section} {id : TaskId} {task : Task} {bits mask : EventBits} {condition : Condition}

/-- The signals of a post of events. -/
def postSignals (id : TaskId) (bits : EventBits) (task : Task) : List Signal :=
  .report (.eventsPosted id bits (task.post bits).posted) ::
    if task.isWokenBy bits then [.notify (.task id)] else []

/-- How a post of events to a task ends. -/
inductive EventsPosted (id : TaskId) (bits : EventBits) (s : Section) :
    Except Error Unit → Section → Prop
  | refused {error : Error} (hget : s.kernel.tasks.get id = .error error) :
    EventsPosted id bits s (.error error) s
  | posted {task : Task} (hget : s.kernel.tasks.get id = .ok task) :
    EventsPosted id bits s (.ok ())
      ⟨s.kernel.setTask id (task.received bits), s.signals ++ postSignals id bits task⟩

theorem postEvents_spec (id : TaskId) (bits : EventBits) :
    (postEvents id bits).Ends s (EventsPosted id bits s) := by
  cases hget : s.kernel.tasks.get id with
  | error error =>
    simp only [postEvents, Service.ends_bind, Service.ends_lift, Service.ends_result, ends_kernel, hget]
    exact .refused hget
  | ok task =>
    have hposted := @EventsPosted.posted id bits s task hget
    obtain ⟨-, hentry, -⟩ := TaskTable.get_eq_ok.1 hget
    have hgate := hasGate_task (getElem?_setTask hentry { task.post bits with waiting := false })
    have hwoken : ((task.post bits).waiting && (task.post bits).isSatisfied) = task.isWokenBy bits := rfl
    simp only [postEvents, Service.ends_bind, Service.ends_lift, Service.ends_result, ends_kernel,
      ends_report, hget, hwoken]
    cases hw : task.isWokenBy bits with
    | false => simpa [hentry, hw, Task.received, postSignals] using hposted
    | true => simpa [hentry, hw, hgate, Task.received, postSignals] using hposted

/-- A post of events is refused with the task it was for, and has done nothing. -/
theorem EventsPosted.refused_eq {t : Section} {error : Error} (h : EventsPosted id bits s (.error error) t) :
    error = .invalidTask id ∧ t = s := by
  cases h with
  | refused hget => exact ⟨TaskTable.get_eq_error hget, rfl⟩

theorem postFromDriver_spec (id : TaskId) (bits : EventBits) :
    (postFromDriver id bits).Ends s
      (EventsPosted id bits ⟨s.kernel, s.signals ++ [.report (.driverPost id)]⟩) := by
  simp only [postFromDriver, Service.ends_bind, Service.ends_lift, ends_report]
  exact postEvents_spec id bits

theorem takeEvents_spec (hentry : s.kernel.tasks[id.index]? = some task) :
    (takeEvents id mask condition).Ends s fun taken t => taken = condition.consumed task.posted mask ∧
      t = ⟨s.kernel.setTask id (task.clear taken), s.signals⟩ := by
  simp [takeEvents, hentry]

/-- How a blocked event wait that looks again ends for the time being. -/
inductive EventsResumed (id : TaskId) (mask : EventBits) (condition : Condition) (s : Section) :
    Except Error (Progress EventBits) → Section → Prop
  | woken {task : Task} (hentry : s.kernel.tasks[id.index]? = some task) (hwaiting : task.waiting = false) :
    EventsResumed id mask condition s (.ok (.returned (condition.consumed task.posted mask)))
      ⟨s.kernel.setTask id
        ({ task with interrupted := false }.clear (condition.consumed task.posted mask)), s.signals⟩
  | interrupted {task : Task} (hentry : s.kernel.tasks[id.index]? = some task)
    (hwaiting : task.waiting = true) (hinterrupted : task.interrupted = true) :
    EventsResumed id mask condition s (.error .interrupted)
      ⟨s.kernel.setTask id { task with interrupted := false, waiting := false },
        s.signals ++ [.report (.eventWaitInterrupted id)]⟩
  | waits {task : Task} (hentry : s.kernel.tasks[id.index]? = some task)
    (hwaiting : task.waiting = true) (hinterrupted : task.interrupted = false) :
    EventsResumed id mask condition s (.ok (.parked (.events id mask condition))) s

theorem resumeEvents_spec (hentry : s.kernel.tasks[id.index]? = some task) :
    (resumeEvents id mask condition).Ends s (EventsResumed id mask condition s) := by
  unfold resumeEvents
  simp only [Service.ends_bind, Service.ends_lift, ends_taskEntry, hentry, Option.some.injEq,
    exists_eq_left']
  cases hw : task.waiting with
  | false =>
    have hentry' := getElem?_setTask hentry { task with interrupted := false }
    simp only [Bool.not_false, reduceIte, Service.ends_bind, Service.ends_lift, ends_updateTask,
      hentry, Option.some.injEq, exists_eq_left']
    refine Critical.Ends.mono (takeEvents_spec hentry') ?_
    rintro taken _ ⟨rfl, rfl⟩
    rw [setTask_setTask]
    have hwoken : EventsResumed id mask condition s _ _ := .woken hentry hw
    exact (Service.ends_pure _).2 hwoken
  | true =>
    cases hi : task.interrupted with
    | false => exact (Service.ends_pure _).2 (.waits hentry hw hi)
    | true =>
      simp only [Bool.not_true, Bool.false_eq_true, reduceIte, Service.ends_bind, Service.ends_lift,
        ends_updateTask, ends_report, hentry, Option.some.injEq, exists_eq_left', Service.ends_throw]
      exact .interrupted hentry hw hi

/-- How an event wait ends for the time being. -/
inductive EventsAwaited (id : TaskId) (mask : EventBits) (condition : Condition) (timeout : Timeout)
    (s : Section) : Except Error (Progress EventBits) → Section → Prop
  | refused {error : Error} (hget : s.kernel.tasks.get id = .error error) :
    EventsAwaited id mask condition timeout s (.error error) s
  | met {task : Task} (hget : s.kernel.tasks.get id = .ok task)
    (hmet : condition.isMet task.posted mask = true) :
    EventsAwaited id mask condition timeout s
      (.ok (.returned (condition.consumed task.posted mask)))
      ⟨s.kernel.setTask id (task.clear (condition.consumed task.posted mask)), s.signals⟩
  | unmet {task : Task} (hget : s.kernel.tasks.get id = .ok task)
    (hmet : condition.isMet task.posted mask = false) (htimeout : timeout ≠ .indefinite) :
    EventsAwaited id mask condition timeout s
      (.error (if timeout = .noBlock then .noEventYet else .timedEventWait)) s
  | interrupted {task : Task} (hget : s.kernel.tasks.get id = .ok task)
    (hmet : condition.isMet task.posted mask = false) (htimeout : timeout = .indefinite)
    (hinterrupted : task.interrupted = true) :
    EventsAwaited id mask condition timeout s (.error .interrupted)
      ⟨s.kernel.setTask id { task with mask, condition, waiting := false, interrupted := false },
        s.signals ++ [.report (.eventWait id mask condition), .report (.eventWaitInterrupted id)]⟩
  | waits {task : Task} (hget : s.kernel.tasks.get id = .ok task)
    (hmet : condition.isMet task.posted mask = false) (htimeout : timeout = .indefinite)
    (hinterrupted : task.interrupted = false) :
    EventsAwaited id mask condition timeout s (.ok (.parked (.events id mask condition)))
      ⟨s.kernel.setTask id { task with mask, condition, waiting := true },
        s.signals ++ [.report (.eventWait id mask condition)]⟩

theorem waitEvents_spec (id : TaskId) (mask : EventBits) (condition : Condition) (timeout : Timeout) :
    (waitEvents id mask condition timeout).Ends s (EventsAwaited id mask condition timeout s) := by
  cases hget : s.kernel.tasks.get id with
  | error error => simpa [waitEvents, hget] using EventsAwaited.refused hget
  | ok task =>
    obtain ⟨-, hentry, -⟩ := TaskTable.get_eq_ok.1 hget
    unfold waitEvents
    simp only [Service.ends_bind, Service.ends_lift, Service.ends_result, ends_kernel, hget]
    cases hmet : condition.isMet task.posted mask with
    | true =>
      simp only [reduceIte, Service.ends_bind, Service.ends_lift]
      refine Critical.Ends.mono (takeEvents_spec hentry) ?_
      rintro taken _ ⟨rfl, rfl⟩
      exact (Service.ends_pure _).2 (.met hget hmet)
    | false =>
      cases timeout with
      | noBlock => exact (Service.ends_throw _).2 (.unmet hget hmet (by simp))
      | ticks count => exact (Service.ends_throw _).2 (.unmet hget hmet (by simp))
      | indefinite =>
        have hentry' := getElem?_setTask hentry { task with mask, condition, waiting := true }
        simp only [Bool.false_eq_true, reduceIte, Service.ends_bind, Service.ends_lift,
          ends_updateTask, ends_report, hentry, Option.some.injEq, exists_eq_left']
        refine Service.Ends.mono (resumeEvents_spec hentry') fun r t h => ?_
        -- the wait that looks is the one that has just been entered
        have hfound {found : Task} (h : (s.kernel.setTask id
            { task with mask, condition, waiting := true }).tasks[id.index]? = some found) :
            found = { task with mask, condition, waiting := true } := Option.some.inj (h.symm.trans hentry')
        cases h with
        | woken h hw => rw [hfound h] at hw; cases hw
        | interrupted h hw hi =>
          rw [hfound h] at hi ⊢
          simpa using EventsAwaited.interrupted hget hmet rfl hi
        | waits h hw hi =>
          rw [hfound h] at hi
          exact .waits hget hmet rfl hi

/-- How the removal of events from an event word ends. -/
inductive EventsCleared (id : TaskId) (bits : EventBits) (s : Section) :
    Except Error Unit → Section → Prop
  | refused {error : Error} (hget : s.kernel.tasks.get id = .error error) :
    EventsCleared id bits s (.error error) s
  | cleared {task : Task} (hget : s.kernel.tasks.get id = .ok task) :
    EventsCleared id bits s (.ok ()) ⟨s.kernel.setTask id (task.clear bits), s.signals⟩

theorem clearEvents_spec (id : TaskId) (bits : EventBits) :
    (clearEvents id bits).Ends s (EventsCleared id bits s) := by
  cases hget : s.kernel.tasks.get id with
  | error error => simpa [clearEvents, hget] using EventsCleared.refused hget
  | ok task =>
    obtain ⟨-, hentry, -⟩ := TaskTable.get_eq_ok.1 hget
    simpa [clearEvents, hget, hentry] using EventsCleared.cleared hget

theorem postedEvents_spec (id : TaskId) :
    (postedEvents id).Ends s fun r t => r = (s.kernel.tasks.get id).map Task.posted ∧ t = s := by
  cases hget : s.kernel.tasks.get id with
  | error error => simp [postedEvents, hget, Except.map]
  | ok task => simp [postedEvents, hget, Except.map]

/-! ## Consistency is kept -/

section WellFormed

variable {t : Section} (h : s.kernel.WellFormed)

include h

theorem EventsPosted.wellFormed {r : Except Error Unit} (hp : EventsPosted id bits s r t) :
    t.kernel.WellFormed := by
  cases hp with
  | refused => exact h
  | posted => exact h.setTask ..

theorem EventsCleared.wellFormed {r : Except Error Unit} (hp : EventsCleared id bits s r t) :
    t.kernel.WellFormed := by
  cases hp with
  | refused => exact h
  | cleared => exact h.setTask ..

theorem EventsAwaited.wellFormed {timeout : Timeout} {r : Except Error (Progress EventBits)}
    (hp : EventsAwaited id mask condition timeout s r t) : t.kernel.WellFormed := by
  cases hp with
  | refused | unmet => exact h
  | met | interrupted | waits => exact h.setTask ..

theorem EventsResumed.wellFormed {r : Except Error (Progress EventBits)}
    (hp : EventsResumed id mask condition s r t) : t.kernel.WellFormed := by
  cases hp with
  | woken | interrupted => exact h.setTask ..
  | waits => exact h

end WellFormed

end Kernel

end Executive
