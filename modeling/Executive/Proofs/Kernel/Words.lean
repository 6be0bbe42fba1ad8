/-
What critical sections do to the event word of a task and to the wait that is entered for it. But for
the operations on the word itself and the allocation of a task they add events at most, and end the
wait only when its condition is met (`Task.Undisturbed`).
-/
import Executive.Proofs.Event
import Executive.Proofs.Kernel.Operation

namespace Executive

/-- A task whose wait has gone on or has been ended by its condition, and has lost no events. -/
structure Task.Undisturbed (a b : Task) : Prop where
  mask : b.mask = a.mask
  condition : b.condition = a.condition
  posted : a.posted &&& b.posted = a.posted
  waiting : b.waiting = a.waiting ∨ b.waiting = false ∧ b.isSatisfied = true

namespace Task.Undisturbed

theorem refl (a : Task) : Undisturbed a a := ⟨rfl, rfl, UInt32.and_self, Or.inl rfl⟩

theorem received (a : Task) (bits : EventBits) : Undisturbed a (a.received bits) := by
  have hword : a.posted &&& (a.received bits).posted = a.posted := by
    rw [posted_received]; exact EventBits.and_or_self ..
  unfold Task.received at *
  cases hwoken : a.isWokenBy bits with
  | false => simp only [hwoken] at hword; exact ⟨rfl, rfl, hword, Or.inl rfl⟩
  | true =>
    simp only [hwoken] at hword
    unfold isWokenBy at hwoken
    exact ⟨rfl, rfl, hword, Or.inr ⟨rfl, (Bool.and_eq_true_iff.1 hwoken).2⟩⟩

end Task.Undisturbed

namespace Kernel

open Critical

variable {a b : Kernel} {s t : Section} {id other : TaskId}

/-- The entry of a task is undisturbed. -/
def Undisturbed (id : TaskId) (a b : Kernel) : Prop :=
  ∀ task, a.tasks[id.index]? = some task → ∃ task', b.tasks[id.index]? = some task' ∧ task.Undisturbed task'

namespace Undisturbed

theorem of_tasks (h : b.tasks = a.tasks) : Undisturbed id a b :=
  fun task hentry => ⟨task, by rw [h]; exact hentry, .refl task⟩

theorem refl (id : TaskId) (a : Kernel) : Undisturbed id a a := of_tasks rfl

theorem setTask {old new : Task} (hentry : a.tasks[other.index]? = some old) (hsame : old.Undisturbed new) :
    Undisturbed id a (a.setTask other new) := by
  intro task htask
  by_cases heq : other.index = id.index
  · rw [← heq, hentry] at htask
    cases htask
    exact ⟨new, by rw [← heq]; exact getElem?_setTask hentry new, hsame⟩
  · refine ⟨task, ?_, .refl task⟩
    rw [tasks_setTask, Array.getElem?_setIfInBounds, if_neg heq]
    exact htask

/-- Another task may change. -/
theorem setTask_ne (hne : other ≠ id) (a : Kernel) (new : Task) : Undisturbed id a (a.setTask other new) := by
  intro task htask
  refine ⟨task, ?_, .refl task⟩
  rw [tasks_setTask, Array.getElem?_setIfInBounds, if_neg]
  · exact htask
  · intro heq
    exact hne (by cases other; cases id; cases heq; rfl)

end Undisturbed

/-! ## Posts -/

theorem EventsPosted.undisturbed {bits : EventBits} {r : Except Error Unit}
    (h : EventsPosted other bits s r t) : Undisturbed id s.kernel t.kernel := by
  cases h with
  | refused => exact .refl _ _
  | posted hget => exact .setTask (TaskTable.get_eq_ok.1 hget).2.1 (.received ..)

theorem BoundPosted.undisturbed {binding : Option Binding} {r : Except Error Unit}
    (h : BoundPosted binding s r t) : Undisturbed id s.kernel t.kernel := by
  cases binding with
  | none => rw [h.2]; exact .refl _ _
  | some binding => exact EventsPosted.undisturbed h

theorem MessagePosted.undisturbed {queue : QueueId} {message : Message} {mode : PostMode}
    {r : Except Error Unit} (h : MessagePosted queue message mode s r t) :
    Undisturbed id s.kernel t.kernel := by
  cases h with
  | refused => exact .refl _ _
  | pushed _ _ _ hbound => exact hbound.undisturbed

theorem ActedOn.undisturbed {target : TimerTarget} {r : Except Error Unit} (h : ActedOn target s r t) :
    Undisturbed id s.kernel t.kernel := by
  cases target with
  | event => exact EventsPosted.undisturbed h
  | message => exact MessagePosted.undisturbed h

theorem TimerFired.undisturbed {timer : TimerId} {r : Except Error Unit} (h : TimerFired timer s r t) :
    Undisturbed id s.kernel t.kernel := by
  cases h with
  | scheduled | inactive => exact .refl _ _
  | expired _ _ hact => exact hact.undisturbed
  | rearmed _ _ _ hact => exact hact.undisturbed

theorem ActionDone.undisturbed {action : TimerAction} (h : ActionDone s action t) :
    Undisturbed id s.kernel t.kernel := by
  cases h with
  | woken => exact .refl _ _
  | fired hfired => exact hfired.undisturbed
  | failed hfired => exact hfired.undisturbed

theorem NextDue.undisturbed {action : Option TimerAction} (h : NextDue s action t) :
    Undisturbed id s.kernel t.kernel := by
  cases h with
  | popped | idle | rebased => exact .of_tasks rfl

/-! ## Operations -/

/-- Freeing a task leaves its event word in the vacant entry. -/
theorem TaskFreed.undisturbed {r : Except Error Unit} (h : TaskFreed other s r t) :
    Undisturbed id s.kernel t.kernel := by
  cases h with
  | refused => exact .refl _ _
  | freed hget =>
    have hentry := (TaskTable.get_eq_ok.1 hget).2.1
    exact Undisturbed.setTask (a := s.kernel.setHeap _) hentry ⟨rfl, rfl, UInt32.and_self, Or.inl rfl⟩

theorem TaskInterrupted.undisturbed {r : Except Error Bool} (h : TaskInterrupted other s r t) :
    Undisturbed id s.kernel t.kernel := by
  cases h with
  | refused | unblocked => exact .refl _ _
  | interrupted hget =>
    exact .setTask (TaskTable.get_eq_ok.1 hget).2.1 ⟨rfl, rfl, UInt32.and_self, Or.inl rfl⟩

theorem Slept.undisturbed {ticks : Nat} {r : Except Error (Progress Unit)}
    (h : Slept other ticks s r t) : Undisturbed id s.kernel t.kernel := by
  cases h with
  | refused => exact .refl _ _
  | interrupted hget | waits hget =>
    have hentry := (TaskTable.get_eq_ok.1 hget).2.1
    exact Undisturbed.setTask (a := s.kernel.setHeap _) hentry ⟨rfl, rfl, UInt32.and_self, Or.inl rfl⟩

theorem SleepResumed.undisturbed {r : Except Error (Progress Unit)} (h : SleepResumed other s r t) :
    Undisturbed id s.kernel t.kernel := by
  cases h with
  | woken hentry => exact .setTask hentry ⟨rfl, rfl, UInt32.and_self, Or.inl rfl⟩
  | interrupted hentry =>
    exact Undisturbed.setTask (a := s.kernel.setHeap _) hentry ⟨rfl, rfl, UInt32.and_self, Or.inl rfl⟩
  | waits => exact .refl _ _

theorem EventsCleared.undisturbed {bits : EventBits} {r : Except Error Unit}
    (h : EventsCleared other bits s r t) (hne : other ≠ id) : Undisturbed id s.kernel t.kernel := by
  cases h with
  | refused => exact .refl _ _
  | cleared => exact .setTask_ne hne _ _

theorem EventsAwaited.undisturbed {mask : EventBits} {condition : Condition} {timeout : Timeout}
    {r : Except Error (Progress EventBits)} (h : EventsAwaited other mask condition timeout s r t)
    (hne : other ≠ id) : Undisturbed id s.kernel t.kernel := by
  cases h with
  | refused | unmet => exact .refl _ _
  | met | interrupted | waits => exact .setTask_ne hne _ _

theorem EventsResumed.undisturbed {mask : EventBits} {condition : Condition}
    {r : Except Error (Progress EventBits)} (h : EventsResumed other mask condition s r t)
    (hne : other ≠ id) : Undisturbed id s.kernel t.kernel := by
  cases h with
  | woken | interrupted => exact .setTask_ne hne _ _
  | waits => exact .refl _ _

theorem MessageTaken.tasks_eq {queue : QueueId} {message : Option Message}
    (h : MessageTaken queue s message t) : t.kernel.tasks = s.kernel.tasks := by
  cases h with
  | empty | taken => rfl

theorem Received.tasks_eq {queue : QueueId} {timeout : Timeout} {r : Except Error (Progress Message)}
    (h : Received queue timeout s r t) : t.kernel.tasks = s.kernel.tasks := by
  cases h with
  | refused | empty | interrupted | waits => rfl
  | served _ htaken => exact htaken.tasks_eq

theorem ReceiveResumed.tasks_eq {queue : QueueId} {generation : UInt64}
    {r : Except Error (Progress Message)} (h : ReceiveResumed queue generation s r t) :
    t.kernel.tasks = s.kernel.tasks := by
  cases h with
  | lost | interrupted | waits => rfl
  | served _ _ _ htaken => exact htaken.tasks_eq
  | unserved _ _ _ htaken => exact htaken.tasks_eq

/-- An operation that may disturb a task. -/
def Disturbs (id : TaskId) : Operation → Prop
  | .allocateTask .. => True
  | .waitEvents task .. | .clearEvents task _ => task = id
  | _ => False

theorem Performed.undisturbed {operation : Operation} {r : Except Error (Progress Value)}
    (h : Performed s operation r t) (hop : ¬ Disturbs id operation) :
    Undisturbed id s.kernel t.kernel := by
  cases operation with
  | identifyTask | taskAttributes | postedEvents | identifyQueue | queueLength | freeContainers
    | timerState | ticks | scheduledObjects | config | coreSnapshot | queueSnapshot | coreText
    | queueText =>
    obtain ⟨_, ⟨-, rfl⟩, -⟩ := h
    exact .refl _ _
  | allocateTask => exact absurd trivial hop
  | freeTask => obtain ⟨_, h, -⟩ := h; exact h.undisturbed
  | interruptTask => obtain ⟨_, h, -⟩ := h; exact h.undisturbed
  | sleep => obtain ⟨_, h, -⟩ := h; exact h.undisturbed
  | postEvents => obtain ⟨_, h, -⟩ := h; exact h.undisturbed
  | postFromDriver => obtain ⟨_, h, -⟩ := h; exact h.undisturbed
  | clearEvents => obtain ⟨_, h, -⟩ := h; exact h.undisturbed hop
  | waitEvents => obtain ⟨_, h, -⟩ := h; exact h.undisturbed hop
  | deleteAllQueues => obtain ⟨_, h, -⟩ := h; rw [h.kernel]; exact .of_tasks rfl
  | postMessage => obtain ⟨_, h, -⟩ := h; exact h.undisturbed
  | receive => obtain ⟨_, h, -⟩ := h; exact .of_tasks h.tasks_eq
  | createQueue | deleteQueue | interruptReceiver | createTimer | startTimer | abortTimer | deleteTimer =>
    obtain ⟨_, h, -⟩ := h
    cases h with
    | _ => exact .of_tasks rfl

/-- A call that looks again disturbs no task but the one whose events it waited for. -/
theorem Resumed.undisturbed {wait : Wait} {r : Except Error (Progress Value)} (h : Resumed s wait r t)
    (hwait : ∀ mask condition, wait ≠ .events id mask condition) : Undisturbed id s.kernel t.kernel := by
  cases wait with
  | sleep => obtain ⟨_, h, -⟩ := h; exact h.undisturbed
  | events task mask condition =>
    have hne : task ≠ id := by rintro rfl; exact hwait mask condition rfl
    obtain ⟨_, h, -⟩ := h
    exact h.undisturbed hne
  | message => obtain ⟨_, h, -⟩ := h; exact .of_tasks h.tasks_eq

end Kernel

end Executive
