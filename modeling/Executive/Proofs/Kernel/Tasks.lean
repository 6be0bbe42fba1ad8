/-
What the operations on tasks do.
-/
import Executive.Kernel.Tasks
import Executive.Proofs.Kernel.WellFormed

namespace Executive

/-! ## The table -/

/-- The first vacant entry is given away with a new task in it. -/
theorem TaskTable.allocate_eq_ok {tasks tasks' : TaskTable} {name : String} {attributes : Attributes}
    {id : TaskId} (h : tasks.allocate name attributes = .ok (id, tasks')) :
    0 < id.index ∧ ∃ old, tasks[id.index]? = some old ∧ old.busy = false ∧
      tasks' = tasks.setIfInBounds id.index { busy := true, name, attributes } := by
  unfold allocate at h
  cases hplace : Registry.place tasks name .noFreeTask with
  | error error => rw [hplace] at h; cases h
  | ok i =>
    obtain ⟨h0, old, hold, hbusy⟩ := Registry.place_eq_ok hplace
    rw [hplace] at h
    cases h
    exact ⟨h0, old, hold, hbusy, rfl⟩

namespace Kernel

open Critical

variable {s : Section} {id : TaskId} {task : Task}

/-! ## Allocating and freeing -/

/-- How the allocation of a task ends. -/
inductive TaskAllocated (name : String) (attributes : Attributes) (s : Section) :
    Except Error TaskId → Section → Prop
  | refused {error : Error} (hallocate : s.kernel.tasks.allocate name attributes = .error error) :
    TaskAllocated name attributes s (.error error) s
  | allocated {id : TaskId} {old : Task} (hpos : 0 < id.index)
    (hentry : s.kernel.tasks[id.index]? = some old) (hvacant : old.busy = false) :
    TaskAllocated name attributes s (.ok id)
      ⟨s.kernel.setTask id { busy := true, name, attributes },
        s.signals ++ [.report (.taskAllocated id name)]⟩

theorem allocateTask_spec (name : String) (attributes : Attributes) :
    (allocateTask name attributes).Ends s (TaskAllocated name attributes s) := by
  simp only [allocateTask, Service.ends_bind, Service.ends_lift, Service.ends_result, ends_kernel]
  cases halloc : s.kernel.tasks.allocate name attributes with
  | error error => exact .refused halloc
  | ok p =>
    obtain ⟨id, tasks⟩ := p
    obtain ⟨hpos, old, hentry, hvacant, rfl⟩ := TaskTable.allocate_eq_ok halloc
    simp only [Service.ends_pure, ends_setTasks, ends_report]
    exact .allocated hpos hentry hvacant

theorem TaskAllocated.wellFormed {name : String} {attributes : Attributes} {r : Except Error TaskId}
    {t : Section} (h : s.kernel.WellFormed) (hp : TaskAllocated name attributes s r t) :
    t.kernel.WellFormed := by
  cases hp with
  | refused => exact h
  | allocated => exact h.setTask ..

/-- The signals of the freeing of a task. -/
def freeSignals (id : TaskId) (task : Task) : List Signal :=
  (if task.isBlocked = true then [.report (.taskFreedBlocked id task.name)] else []) ++
    [.report (.taskFreed id)]

/-- How the freeing of a task ends. -/
inductive TaskFreed (id : TaskId) (s : Section) : Except Error Unit → Section → Prop
  | refused {error : Error} (hget : s.kernel.tasks.get id = .error error) :
    TaskFreed id s (.error error) s
  | freed {task : Task} {heap : TimerHeap} (hget : s.kernel.tasks.get id = .ok task)
    (hremove : TimerHeap.Removed (sleepObject id) s.kernel.heap heap) :
    TaskFreed id s (.ok ())
      ⟨(s.kernel.setHeap heap).setTask id { task with busy := false },
        s.signals ++ freeSignals id task⟩

theorem freeTask_spec (h : s.kernel.WellFormed) (id : TaskId) :
    (freeTask id).Ends s fun r t => t.kernel.WellFormed ∧ TaskFreed id s r t := by
  cases hget : s.kernel.tasks.get id with
  | error error => simpa [freeTask, hget] using ⟨h, .refused hget⟩
  | ok task =>
    obtain ⟨-, hentry, -⟩ := TaskTable.get_eq_ok.1 hget
    have hobject := h.object_lt (h.sleepObject_serves (Array.getElem?_eq_some_iff.1 hentry).1)
    simp only [freeTask, Service.ends_bind, Service.ends_lift, Service.ends_result, ends_kernel, hget]
    refine Critical.Ends.mono (disarm_spec h hobject) ?_
    rintro _ _ ⟨heap, hr, hwf, rfl⟩
    simp only [Service.ends_report_if, Service.ends_bind, Service.ends_lift, ends_report,
      ends_updateTask, tasks_setHeap, hentry, Option.some.injEq, exists_eq_left']
    refine ⟨hwf.setTask .., ?_⟩
    have hfreed := TaskFreed.freed hget hr
    unfold freeSignals at hfreed
    simpa only [List.append_assoc] using hfreed

/-! ## Sleeping -/

/-- How a sleep that looks again ends for the time being. -/
inductive SleepResumed (id : TaskId) (s : Section) : Except Error (Progress Unit) → Section → Prop
  | woken {task : Task} (hentry : s.kernel.tasks[id.index]? = some task)
    (hpending : (s.kernel.heap.object (sleepObject id)).pending = false) :
    SleepResumed id s (.ok (.returned ()))
      ⟨s.kernel.setTask id { task with sleeping := false, interrupted := false }, s.signals⟩
  | interrupted {task : Task} {heap : TimerHeap} (hentry : s.kernel.tasks[id.index]? = some task)
    (hpending : (s.kernel.heap.object (sleepObject id)).pending = true)
    (hinterrupted : task.interrupted = true)
    (hremove : TimerHeap.Removed (sleepObject id) s.kernel.heap heap) :
    SleepResumed id s (.error .interrupted)
      ⟨(s.kernel.setHeap heap).setTask id { task with interrupted := false, sleeping := false },
        s.signals⟩
  | waits {task : Task} (hentry : s.kernel.tasks[id.index]? = some task)
    (hpending : (s.kernel.heap.object (sleepObject id)).pending = true)
    (hinterrupted : task.interrupted = false) : SleepResumed id s (.ok (.parked (.sleep id))) s

theorem resumeSleep_spec (h : s.kernel.WellFormed) (hentry : s.kernel.tasks[id.index]? = some task) :
    (resumeSleep id).Ends s fun r t => t.kernel.WellFormed ∧ SleepResumed id s r t := by
  have hobject := h.object_lt (h.sleepObject_serves (Array.getElem?_eq_some_iff.1 hentry).1)
  simp only [resumeSleep, Service.ends_bind, Service.ends_lift, Service.ends_checked, ends_kernel,
    TimerHeap.isPending_eq hobject, Except.ok.injEq, exists_eq_left']
  cases hp : (s.kernel.heap.object (sleepObject id)).pending with
  | false =>
    simp only [Bool.false_eq_true, reduceIte, Service.ends_bind, Service.ends_lift, ends_updateTask,
      Service.ends_pure, hentry, Option.some.injEq, exists_eq_left']
    exact ⟨h.setTask .., .woken hentry hp⟩
  | true =>
    simp only [reduceIte, Service.ends_bind, Service.ends_lift, ends_taskEntry, hentry,
      Option.some.injEq, exists_eq_left']
    cases hi : task.interrupted with
    | false => exact (Service.ends_pure _).2 ⟨h, .waits hentry hp hi⟩
    | true =>
      simp only [reduceIte, Service.ends_bind, Service.ends_lift]
      refine Critical.Ends.mono (disarm_spec h hobject) ?_
      rintro _ _ ⟨heap, hr, hwf, rfl⟩
      simp only [ends_updateTask, tasks_setHeap, hentry, Option.some.injEq, exists_eq_left',
        Service.ends_throw]
      exact ⟨hwf.setTask .., .interrupted hentry hp hi hr⟩

/-- How a sleep ends for the time being. -/
inductive Slept (id : TaskId) (ticks : Nat) (s : Section) :
    Except Error (Progress Unit) → Section → Prop
  | refused {error : Error} (hget : s.kernel.tasks.get id = .error error) :
    Slept id ticks s (.error error) s
  | interrupted {task : Task} {armed heap : TimerHeap} (hget : s.kernel.tasks.get id = .ok task)
    (hinterrupted : task.interrupted = true)
    (hstart : TimerHeap.Started (sleepObject id) ticks (.wakeTask id) s.kernel.heap armed)
    (hremove : TimerHeap.Removed (sleepObject id) armed heap) :
    Slept id ticks s (.error .interrupted)
      ⟨(s.kernel.setHeap heap).setTask id { task with interrupted := false, sleeping := false },
        s.signals ++ [.report (startRecord s.kernel.heap (sleepObject id) ticks (.wakeTask id))]⟩
  | waits {task : Task} {heap : TimerHeap} (hget : s.kernel.tasks.get id = .ok task)
    (hinterrupted : task.interrupted = false)
    (hstart : TimerHeap.Started (sleepObject id) ticks (.wakeTask id) s.kernel.heap heap) :
    Slept id ticks s (.ok (.parked (.sleep id)))
      ⟨(s.kernel.setHeap heap).setTask id { task with sleeping := true },
        s.signals ++ [.report (startRecord s.kernel.heap (sleepObject id) ticks (.wakeTask id))]⟩

/-- A sleep is pending from the start, so that it parks unless it is cut short at once. -/
theorem sleep_spec (h : s.kernel.WellFormed) (id : TaskId) (ticks : Nat) :
    (sleep id ticks).Ends s fun r t => t.kernel.WellFormed ∧ Slept id ticks s r t := by
  cases hget : s.kernel.tasks.get id with
  | error error => simpa [sleep, hget] using ⟨h, .refused hget⟩
  | ok task =>
    obtain ⟨-, hentry, -⟩ := TaskTable.get_eq_ok.1 hget
    have hlt := (Array.getElem?_eq_some_iff.1 hentry).1
    simp only [sleep, Service.ends_bind, Service.ends_lift, Service.ends_result, ends_kernel, hget]
    refine Critical.Ends.mono (arm_spec h ticks (h.sleepObject_serves hlt)) ?_
    rintro _ _ ⟨heap, hs, hwf, rfl⟩
    simp only [ends_updateTask, tasks_setHeap, hentry, Option.some.injEq, exists_eq_left']
    have hentry' := getElem?_setTask
      (show (s.kernel.setHeap heap).tasks[id.index]? = some task from hentry)
      { task with sleeping := true }
    -- the sleep that looks is the one that has just begun
    have hfound {found : Task} (h : ((s.kernel.setHeap heap).setTask id
        { task with sleeping := true }).tasks[id.index]? = some found) :
        found = { task with sleeping := true } := Option.some.inj (h.symm.trans hentry')
    refine Service.Ends.mono (resumeSleep_spec (hwf.setTask ..) hentry') ?_
    rintro r t ⟨hwf', hsleep⟩
    refine ⟨hwf', ?_⟩
    cases hsleep with
    | woken h hp => rw [heap_setTask, heap_setHeap, hs.pending] at hp; cases hp
    | interrupted h hp hi hr =>
      rw [hfound h] at hi ⊢
      simp only [setHeap_setTask, setHeap_setHeap, setTask_setTask]
      exact .interrupted hget hi hs hr
    | waits h hp hi =>
      rw [hfound h] at hi
      exact .waits hget hi hs

/-! ## Interrupting -/

/-- How an interrupt of a task ends. -/
inductive TaskInterrupted (id : TaskId) (s : Section) : Except Error Bool → Section → Prop
  | refused {error : Error} (hget : s.kernel.tasks.get id = .error error) :
    TaskInterrupted id s (.error error) s
  | unblocked {task : Task} (hget : s.kernel.tasks.get id = .ok task)
    (hblocked : task.isBlocked = false) : TaskInterrupted id s (.ok false) s
  | interrupted {task : Task} (hget : s.kernel.tasks.get id = .ok task)
    (hblocked : task.isBlocked = true) :
    TaskInterrupted id s (.ok true)
      ⟨s.kernel.setTask id { task with interrupted := true },
        s.signals ++ [.report (.taskInterrupted id task.name), .notify (.task id)]⟩

theorem interruptTask_spec (id : TaskId) :
    (interruptTask id).Ends s (TaskInterrupted id s) := by
  cases hget : s.kernel.tasks.get id with
  | error error => simpa [interruptTask, hget] using TaskInterrupted.refused hget
  | ok task =>
    obtain ⟨-, hentry, -⟩ := TaskTable.get_eq_ok.1 hget
    have hgate := hasGate_task (getElem?_setTask hentry { task with interrupted := true })
    cases hb : task.isBlocked with
    | false => simpa [interruptTask, hget, hb] using TaskInterrupted.unblocked hget hb
    | true => simpa [interruptTask, hget, hb, hentry, hgate] using TaskInterrupted.interrupted hget hb

theorem TaskInterrupted.wellFormed {r : Except Error Bool} {t : Section} (h : s.kernel.WellFormed)
    (hp : TaskInterrupted id s r t) : t.kernel.WellFormed := by
  cases hp with
  | refused | unblocked => exact h
  | interrupted => exact h.setTask ..

/-! ## Questions -/

theorem identifyTask_spec (name : String) :
    (identifyTask name).Ends s fun r t => r = s.kernel.tasks.find name ∧ t = s := by
  simp [identifyTask]

theorem taskAttributes_spec (id : TaskId) :
    (taskAttributes id).Ends s fun r t => r = (s.kernel.tasks.get id).map Task.attributes ∧ t = s := by
  cases hget : s.kernel.tasks.get id with
  | error error => simp [taskAttributes, hget, Except.map]
  | ok task => simp [taskAttributes, hget, Except.map]

end Kernel

end Executive
