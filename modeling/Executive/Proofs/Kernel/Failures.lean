/-
What an operation has done when it returns an error. Most errors are found before anything is written
(`Performed.refused`); the others are listed in `Operation.leaves`. An abort of a timer that has fired
makes it idle. A call that is cut short at once takes its wait back, and with it the latch that was set
for somebody else (`Performed.cutShort`). A post that cannot tell the task of a bound queue has posted its
message all the same.
-/
import Executive.Proofs.Kernel.Interrupts

namespace Executive

/-- The errors that an operation returns after it has changed something. -/
def Operation.leaves : Operation → Error → Bool
  | .abortTimer _, .timerExpired => true
  | .postMessage .., .invalidTask _ => true
  | .sleep .., .interrupted | .waitEvents .., .interrupted | .receive .., .interrupted => true
  | _, _ => false

/-- The waits that an operation begins if it has to wait. -/
inductive Operation.Begins : Operation → Wait → Prop
  | sleep {id : TaskId} {ticks : Nat} : Begins (.sleep id ticks) (.sleep id)
  | waitEvents {id : TaskId} {mask : EventBits} {condition : Condition} {timeout : Timeout} :
    Begins (.waitEvents id mask condition timeout) (.events id mask condition)
  | receive {id : QueueId} {timeout : Timeout} {generation : UInt64} :
    Begins (.receive id timeout) (.message id generation)

/-- Nobody is notified; things may be reported. -/
def Silent (signals : List Signal) : Prop := ∀ gate, .notify gate ∉ signals

theorem silent_nil : Silent [] := fun _ => List.not_mem_nil

theorem silent_append {signals rest : List Signal} :
    Silent (signals ++ rest) ↔ Silent signals ∧ Silent rest := by
  simp only [Silent, List.mem_append, not_or, forall_and]

theorem silent_report (record : Record) : Silent [.report record] := by
  intro gate h
  cases List.mem_singleton.1 h

namespace Kernel

variable {s t : Section} {operation : Operation} {error : Error}

/-! ## Errors that are found in time -/

theorem setTimer_self {kernel : Kernel} {id : TimerId} {timer : Timer}
    (hget : kernel.timers.get id = .ok timer) : kernel.setTimer id (some timer) = kernel := by
  unfold setTimer
  rw [Checked.setIfInBounds_self (TimerTable.get_eq_ok.1 hget)]

/-- With every other error everything is as it was. -/
theorem Performed.refused (h : Performed s operation (.error error) t)
    (hleaves : operation.leaves error = false) :
    t.kernel = s.kernel ∧ (Silent s.signals → Silent t.signals) := by
  cases operation with
  | identifyTask | taskAttributes | postedEvents | identifyQueue | queueLength | freeContainers
    | timerState | ticks | scheduledObjects | config | coreSnapshot | queueSnapshot | coreText
    | queueText =>
    obtain ⟨-, rfl⟩ := Gives.refused h
    exact ⟨rfl, id⟩
  | allocateTask | freeTask | interruptTask | clearEvents | createQueue | deleteQueue | interruptReceiver
    | createTimer | startTimer | deleteTimer =>
    cases Gives.refused h with
    | refused => exact ⟨rfl, id⟩
  | deleteAllQueues => cases (Gives.refused h).result
  | postEvents =>
    obtain ⟨-, rfl⟩ := EventsPosted.refused_eq (Gives.refused h)
    exact ⟨rfl, id⟩
  | postFromDriver =>
    obtain ⟨-, rfl⟩ := EventsPosted.refused_eq (Gives.refused h)
    exact ⟨rfl, fun hsilent => silent_append.2 ⟨hsilent, silent_report _⟩⟩
  | postMessage =>
    cases Gives.refused h with
    | refused => exact ⟨rfl, id⟩
    | pushed _ _ _ hbound =>
      obtain ⟨⟨task, rfl⟩, -⟩ := hbound.refused_eq
      cases hleaves
  | abortTimer =>
    cases Gives.refused h with
    | refused => exact ⟨rfl, id⟩
    | expired => cases hleaves
    | @idle timer hget hphase =>
      have hsame : { timer with phase := .idle } = timer := by rw [← hphase]
      rw [hsame]
      exact ⟨setTimer_self hget, id⟩
  | sleep =>
    cases Proceeds.refused h with
    | refused => exact ⟨rfl, id⟩
    | interrupted => cases hleaves
  | waitEvents =>
    generalize herror : error = found at h
    cases Proceeds.refused h with
    | refused | unmet => exact ⟨rfl, id⟩
    | interrupted => subst herror; cases hleaves
  | receive =>
    cases Proceeds.refused h with
    | refused | empty => exact ⟨rfl, id⟩
    | interrupted => cases hleaves

/-! ## Timers that have fired -/

theorem Performed.expired {id : TimerId} (h : Performed s (.abortTimer id) (.error .timerExpired) t) :
    ∃ timer, s.kernel.timers.get id = .ok timer ∧ timer.phase = .fired ∧
      t = ⟨s.kernel.setTimer id (some { timer with phase := .idle }), s.signals⟩ := by
  cases Gives.refused h with
  | refused hget => cases TimerTable.get_eq_error hget
  | expired hget hphase => exact ⟨_, hget, hphase, rfl⟩

/-! ## Calls that are cut short at once -/

/-- What a call that is cut short at once makes of the kernel: the flag of its wait and the latch are
clear. A sleep leaves its object off the heap, and an event wait what it has asked for. -/
inductive CutShort (kernel : Kernel) : Operation → Kernel → Prop
  | sleep {id : TaskId} {ticks : Nat} {task : Task} {heap : TimerHeap}
    (hget : kernel.tasks.get id = .ok task)
    (hothers : TimerHeap.AgreesBut (sleepObject id) kernel.heap heap)
    (hslot : (heap.object (sleepObject id)).slot = 0)
    (hpending : (heap.object (sleepObject id)).pending = false) :
    CutShort kernel (.sleep id ticks)
      ((kernel.setHeap heap).setTask id { task with interrupted := false, sleeping := false })
  | waitEvents {id : TaskId} {mask : EventBits} {condition : Condition} {task : Task}
    (hget : kernel.tasks.get id = .ok task) :
    CutShort kernel (.waitEvents id mask condition .indefinite)
      (kernel.setTask id { task with mask, condition, interrupted := false, waiting := false })
  | receive {id : QueueId} {timeout : Timeout} {queue : Queue}
    (hget : kernel.queues.get id = .ok queue) :
    CutShort kernel (.receive id timeout)
      (kernel.setQueue id { queue with interrupted := false, waiting := false })

theorem Performed.cutShort (hwf : s.kernel.WellFormed) (h : Performed s operation (.error .interrupted) t) :
    CutShort s.kernel operation t.kernel ∧ (Silent s.signals → Silent t.signals) := by
  -- only an operation that waits is cut short
  obtain ⟨subject, hawaits, -⟩ := h.cut hwf
  cases operation with
  | sleep =>
    cases Proceeds.refused h with
    | refused hget => cases TaskTable.get_eq_error hget
    | interrupted hget _ hstart hremove =>
      refine ⟨.sleep hget (hstart.toAgreesBut.trans hremove.toAgreesBut) ?_ ?_, fun hsilent =>
        silent_append.2 ⟨hsilent, silent_report _⟩⟩
      · rw [hremove.object]
      · rw [hremove.object]
  | waitEvents =>
    generalize hcut : Error.interrupted = error at h
    cases Proceeds.refused h with
    | refused hget => subst hcut; cases TaskTable.get_eq_error hget
    | unmet => split at hcut <;> cases hcut
    | interrupted hget _ htimeout =>
      subst htimeout
      exact ⟨.waitEvents hget, fun hsilent => silent_append.2 ⟨hsilent,
        silent_append.2 ⟨silent_report _, silent_report _⟩⟩⟩
  | receive =>
    cases Proceeds.refused h with
    | refused hget => cases QueueTable.get_eq_error hget
    | interrupted hget =>
      exact ⟨.receive hget, fun hsilent => silent_append.2 ⟨hsilent, silent_report _⟩⟩
  | _ => cases hawaits

/-- A call that is cut short at once gives up the wait that it has begun. -/
theorem CutShort.gaveUp {a b : Kernel} (h : CutShort a operation b) :
    ∃ wait, operation.Begins wait ∧ GaveUp wait a b := by
  cases h with
  | sleep hget => exact ⟨_, .sleep, gaveUp_sleep _ (TaskTable.get_eq_ok.1 hget).2.1 rfl rfl rfl⟩
  | waitEvents hget => exact ⟨_, .waitEvents, gaveUp_events (TaskTable.get_eq_ok.1 hget).2.1 rfl rfl rfl⟩
  | @receive _ _ queue hget =>
    exact ⟨_, .receive, @gaveUp_message _ _ _ queue.generation (QueueTable.get_eq_ok.1 hget).2.1⟩

end Kernel

end Executive
