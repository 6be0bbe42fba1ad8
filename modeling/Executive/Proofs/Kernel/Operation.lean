/-
What each operation of a kernel and each second look of a blocked call does, as one relation between
the section before and the section after. Whatever holds of all operations is shown by cases on it.
-/
import Executive.Kernel.Operation
import Executive.Proofs.Kernel.Advance
import Executive.Proofs.Kernel.Tasks

namespace Executive.Kernel

open Critical

variable {α : Type} {s : Section}

/-- The end of a service whose result is handed on as a value. -/
def Gives (value : α → Value) (P : Except Error α → Section → Prop)
    (r : Except Error (Progress Value)) (t : Section) : Prop :=
  ∃ r', P r' t ∧ r = r'.map fun a => .returned (value a)

/-- The end of a service that may have to wait, with its result handed on as a value. -/
def Proceeds (value : α → Value) (P : Except Error (Progress α) → Section → Prop)
    (r : Except Error (Progress Value)) (t : Section) : Prop :=
  ∃ r', P r' t ∧ r = r'.map (·.map value)

/-- The end of a question. -/
def Asked (s : Section) (answer : Except Error α) (r : Except Error α) (t : Section) : Prop :=
  r = answer ∧ t = s

/-- How an operation ends for the time being. -/
def Performed (s : Section) : Operation → Except Error (Progress Value) → Section → Prop
  | .allocateTask name attributes => Gives .task (TaskAllocated name attributes s)
  | .freeTask task => Gives (fun _ => .done) (TaskFreed task s)
  | .identifyTask name => Gives .task (Asked s (s.kernel.tasks.find name))
  | .taskAttributes task => Gives .attributes (Asked s ((s.kernel.tasks.get task).map Task.attributes))
  | .interruptTask task => Gives .flag (TaskInterrupted task s)
  | .sleep task ticks => Proceeds (fun _ => .done) (Slept task ticks s)
  | .postEvents task bits => Gives (fun _ => .done) (EventsPosted task bits s)
  | .postFromDriver task bits => Gives (fun _ => .done)
    (EventsPosted task bits ⟨s.kernel, s.signals ++ [.report (.driverPost task)]⟩)
  | .clearEvents task bits => Gives (fun _ => .done) (EventsCleared task bits s)
  | .waitEvents task mask condition timeout =>
    Proceeds .bits (EventsAwaited task mask condition timeout s)
  | .postedEvents task => Gives .bits (Asked s ((s.kernel.tasks.get task).map Task.posted))
  | .createQueue name options => Gives .queue (QueueCreated name options s)
  | .deleteQueue queue => Gives (fun _ => .done) (QueueDeleted queue s)
  | .deleteAllQueues => Gives (fun _ => .done) (AllQueuesDeleted s)
  | .postMessage queue message mode => Gives (fun _ => .done) (MessagePosted queue message mode s)
  | .receive queue timeout => Proceeds .message (Received queue timeout s)
  | .identifyQueue name => Gives .queue (Asked s (s.kernel.queues.find name))
  | .queueLength queue => Gives .count (Asked s ((s.kernel.queues.get queue).map Queue.count))
  | .interruptReceiver queue => Gives .flag (ReceiverInterrupted queue s)
  | .freeContainers => Gives .count (Asked s (.ok s.kernel.queues.pool.available))
  | .createTimer target => Gives .timer (TimerCreated target s)
  | .startTimer timer delay reload => Gives (fun _ => .done) (TimerStarted timer delay reload s)
  | .abortTimer timer => Gives (fun _ => .done) (TimerAborted timer s)
  | .deleteTimer timer => Gives (fun _ => .done) (TimerDeleted timer s)
  | .timerState timer => Gives .timerState (Asked s (s.kernel.timers.state timer))
  | .ticks => Gives .count (Asked s (.ok s.kernel.heap.ticks))
  | .scheduledObjects => Gives .count (Asked s (.ok s.kernel.heap.inUse))
  | .config => Gives .config (Asked s (.ok s.kernel.config))
  | .coreSnapshot => Gives .coreSnapshot (Asked s (.ok s.kernel.coreSnapshot))
  | .queueSnapshot => Gives .queueSnapshot (Asked s (.ok s.kernel.queueSnapshot))
  | .coreText => Gives .text (Asked s (.ok s.kernel.coreSnapshot.text))
  | .queueText => Gives .text (Asked s (.ok s.kernel.queueSnapshot.text))

/-- How a second look of a blocked call ends for the time being. -/
def Resumed (s : Section) : Wait → Except Error (Progress Value) → Section → Prop
  | .sleep task => Proceeds (fun _ => .done) (SleepResumed task s)
  | .events task mask condition => Proceeds .bits (EventsResumed task mask condition s)
  | .message queue generation => Proceeds .message (ReceiveResumed queue generation s)

section Results

variable {value : α → Value} {given : Value} {error : Error} {wait : Wait} {t : Section}

theorem Gives.not_parked {P : Except Error α → Section → Prop} :
    ¬ Gives value P (.ok (.parked wait)) t := by
  rintro ⟨r', -, heq⟩
  cases r' with
  | error => cases heq
  | ok => cases heq

theorem Gives.refused {P : Except Error α → Section → Prop} (h : Gives value P (.error error) t) :
    P (.error error) t := by
  obtain ⟨r', hp, heq⟩ := h
  cases r' with
  | error => cases heq; exact hp
  | ok => cases heq

variable {P : Except Error (Progress α) → Section → Prop}

theorem Proceeds.refused (h : Proceeds value P (.error error) t) : P (.error error) t := by
  obtain ⟨r', hp, heq⟩ := h
  cases r' with
  | error => cases heq; exact hp
  | ok => cases heq

theorem Proceeds.parked (h : Proceeds value P (.ok (.parked wait)) t) : P (.ok (.parked wait)) t := by
  obtain ⟨r', hp, heq⟩ := h
  rcases r' with error | ⟨a⟩ | wait'
  · cases heq
  · cases heq
  · cases heq; exact hp

theorem Proceeds.returned (h : Proceeds value P (.ok (.returned given)) t) :
    ∃ a, given = value a ∧ P (.ok (.returned a)) t := by
  obtain ⟨r', hp, heq⟩ := h
  rcases r' with error | ⟨a⟩ | wait'
  · cases heq
  · cases heq; exact ⟨a, rfl, hp⟩
  · cases heq

theorem map_returned_inj {result result' : Except Error α}
    (h : result.map Progress.returned = result'.map Progress.returned) : result = result' := by
  cases result <;> cases result' <;> cases h <;> rfl

/-- What returns ends as the service does whose result is handed on. -/
theorem Proceeds.result {result : Except Error Value}
    (h : Proceeds value P (result.map .returned) t) :
    ∃ r : Except Error α, P (r.map .returned) t ∧ result = r.map value := by
  obtain ⟨r', hp, heq⟩ := h
  rcases r' with error | ⟨a⟩ | wait'
  · cases result with
    | error => cases heq; exact ⟨.error error, hp, rfl⟩
    | ok => cases heq
  · cases result with
    | error => cases heq
    | ok => cases heq; exact ⟨.ok a, hp, rfl⟩
  · cases result with
    | error => cases heq
    | ok => cases heq

theorem Gives.result {P : Except Error α → Section → Prop} {result : Except Error Value}
    (h : Gives value P (result.map .returned) t) : ∃ r, P r t ∧ result = r.map value := by
  obtain ⟨r', hp, heq⟩ := h
  cases result with
  | error =>
    cases r' with
    | error => cases heq; exact ⟨_, hp, rfl⟩
    | ok => cases heq
  | ok =>
    cases r' with
    | error => cases heq
    | ok => cases heq; exact ⟨_, hp, rfl⟩

end Results

/-! ## Every operation ends -/

section Ends

variable {action : Service α} {P : Except Error α → Section → Prop}

/-- Handing a result on changes nothing else. -/
theorem ends_map_result {β : Type} (f : α → β)
    (h : action.Ends s fun r t => t.kernel.WellFormed ∧ P r t) :
    (action >>= fun a => pure (f a)).Ends s fun r t =>
      t.kernel.WellFormed ∧ ∃ r', P r' t ∧ r = r'.map f := by
  rw [Service.ends_bind]
  refine Service.Ends.mono h fun r t hp => ?_
  cases r with
  | error error => exact ⟨hp.1, .error error, hp.2, rfl⟩
  | ok a => exact (Service.ends_pure _).2 ⟨hp.1, .ok a, hp.2, rfl⟩

/-- A question changes nothing. -/
theorem ends_asked (h : s.kernel.WellFormed) {answer : Except Error α}
    (haction : action.Ends s fun r t => r = answer ∧ t = s) :
    action.Ends s fun r t => t.kernel.WellFormed ∧ Asked s answer r t :=
  haction.mono fun r t hr => ⟨by rw [hr.2]; exact h, hr⟩

/-- Telling something of the kernel changes nothing. -/
theorem ends_told (h : s.kernel.WellFormed) (value : α → Value) (f : Kernel → α) :
    ((liftM kernel : Service Kernel) >>= fun k => pure (.returned (value (f k)))).Ends s fun r t =>
      t.kernel.WellFormed ∧ Gives value (Asked s (.ok (f s.kernel))) r t := by
  simp only [Service.ends_bind, Service.ends_lift, ends_kernel, Service.ends_pure]
  exact ⟨h, .ok (f s.kernel), ⟨rfl, rfl⟩, rfl⟩

end Ends

theorem perform_spec (h : s.kernel.WellFormed) (operation : Operation) :
    (perform operation).Ends s fun r t => t.kernel.WellFormed ∧ Performed s operation r t := by
  cases operation with
  | allocateTask name attributes =>
    exact ends_map_result _ ((allocateTask_spec name attributes).mono fun r t hp => ⟨hp.wellFormed h, hp⟩)
  | freeTask task => exact ends_map_result _ (freeTask_spec h task)
  | identifyTask name => exact ends_map_result _ (ends_asked h (identifyTask_spec name))
  | taskAttributes task => exact ends_map_result _ (ends_asked h (taskAttributes_spec task))
  | interruptTask task =>
    exact ends_map_result _ ((interruptTask_spec task).mono fun r t hp => ⟨hp.wellFormed h, hp⟩)
  | sleep task ticks => exact ends_map_result _ (sleep_spec h task ticks)
  | postEvents task bits =>
    exact ends_map_result _ ((postEvents_spec task bits).mono fun r t hp => ⟨hp.wellFormed h, hp⟩)
  | postFromDriver task bits =>
    exact ends_map_result _ ((postFromDriver_spec task bits).mono fun r t hp =>
      ⟨EventsPosted.wellFormed (s := ⟨s.kernel, s.signals ++ [.report (.driverPost task)]⟩) h hp, hp⟩)
  | clearEvents task bits =>
    exact ends_map_result _ ((clearEvents_spec task bits).mono fun r t hp => ⟨hp.wellFormed h, hp⟩)
  | waitEvents task mask condition timeout =>
    exact ends_map_result _ ((waitEvents_spec task mask condition timeout).mono fun r t hp =>
      ⟨hp.wellFormed h, hp⟩)
  | postedEvents task => exact ends_map_result _ (ends_asked h (postedEvents_spec task))
  | createQueue name options => exact ends_map_result _ (createQueue_spec h name options)
  | deleteQueue queue => exact ends_map_result _ (deleteQueue_spec h queue)
  | deleteAllQueues =>
    exact ends_map_result _ ((Service.ends_lift _).2 (deleteAllQueues_spec h))
  | postMessage queue message mode => exact ends_map_result _ (postMessage_spec h queue message mode)
  | receive queue timeout => exact ends_map_result _ (receive_spec h queue timeout)
  | identifyQueue name => exact ends_map_result _ (ends_asked h (identifyQueue_spec name))
  | queueLength queue => exact ends_map_result _ (ends_asked h (queueLength_spec queue))
  | interruptReceiver queue => exact ends_map_result _ (interruptReceiver_spec h queue)
  | freeContainers =>
    exact ends_map_result _ (ends_asked h ((Service.ends_lift _).2 (freeContainers_spec.mono
      fun n t hp => ⟨congrArg Except.ok hp.1, hp.2⟩)))
  | createTimer target =>
    exact ends_map_result _ ((createTimer_spec target).mono fun r t hp => ⟨hp.wellFormed h, hp⟩)
  | startTimer timer delay reload => exact ends_map_result _ (startTimer_spec h timer delay reload)
  | abortTimer timer => exact ends_map_result _ (abortTimer_spec h timer)
  | deleteTimer timer => exact ends_map_result _ (deleteTimer_spec h timer)
  | timerState timer => exact ends_map_result _ (ends_asked h (timerState_spec timer))
  | ticks => exact ends_map_result _ (ends_asked h ((Service.ends_lift _).2 (by simp [ticks])))
  | scheduledObjects =>
    exact ends_map_result _ (ends_asked h ((Service.ends_lift _).2 (by simp [scheduledObjects])))
  | config => exact ends_told h _ _
  | coreSnapshot => exact ends_told h _ _
  | queueSnapshot => exact ends_told h _ _
  | coreText => exact ends_told h _ _
  | queueText => exact ends_told h _ _

/-- A blocked call that looks again finds the entry it waits at. -/
theorem resume_spec (h : s.kernel.WellFormed) {wait : Wait} (hgate : s.kernel.hasGate wait.gate = true) :
    (resume wait).Ends s fun r t => t.kernel.WellFormed ∧ Resumed s wait r t := by
  cases wait with
  | sleep task =>
    have hentry := Array.getElem?_eq_getElem (of_decide_eq_true hgate)
    exact ends_map_result _ (resumeSleep_spec h hentry)
  | events task mask condition =>
    have hentry := Array.getElem?_eq_getElem (of_decide_eq_true hgate)
    exact ends_map_result _ ((resumeEvents_spec hentry).mono fun r t hp => ⟨hp.wellFormed h, hp⟩)
  | message queue generation =>
    have hentry := Array.getElem?_eq_getElem (of_decide_eq_true hgate)
    exact ends_map_result _ (resumeReceive_spec h generation hentry)

/-! ## The configuration stays -/

section Config

variable {t : Section}

theorem EventsPosted.config_eq {task : TaskId} {bits : EventBits} {r : Except Error Unit}
    (h : EventsPosted task bits s r t) : t.kernel.config = s.kernel.config := by
  cases h with
  | refused => rfl
  | posted => rfl

theorem MessagePosted.config_eq {queue : QueueId} {message : Message} {mode : PostMode}
    {r : Except Error Unit} (h : MessagePosted queue message mode s r t) :
    t.kernel.config = s.kernel.config := by
  cases h with
  | refused => rfl
  | pushed hget hroom hpush hbound =>
    unfold BoundPosted at hbound
    split at hbound
    · rw [hbound.2]; rfl
    · exact hbound.config_eq

theorem MessageTaken.config_eq {queue : QueueId} {message : Option Message}
    (h : MessageTaken queue s message t) : t.kernel.config = s.kernel.config := by
  cases h with
  | empty => rfl
  | taken => rfl

theorem Received.config_eq {queue : QueueId} {timeout : Timeout} {r : Except Error (Progress Message)}
    (h : Received queue timeout s r t) : t.kernel.config = s.kernel.config := by
  cases h with
  | served hget htaken => exact htaken.config_eq
  | refused | empty | interrupted | waits => rfl

theorem TimerFired.config_eq {id : TimerId} {r : Except Error Unit} (h : TimerFired id s r t) :
    t.kernel.config = s.kernel.config := by
  have hacted {target : TimerTarget} {u : Section} (hact : ActedOn target u r t) :
      t.kernel.config = u.kernel.config := by
    cases target with
    | event => exact EventsPosted.config_eq hact
    | message => exact MessagePosted.config_eq hact
  cases h with
  | scheduled => rfl
  | inactive => rfl
  | expired _ _ hact => exact (hacted hact).trans rfl
  | rearmed _ _ _ hact => exact (hacted hact).trans rfl

theorem NextDue.config_eq {action : Option TimerAction} (h : NextDue s action t) :
    t.kernel.config = s.kernel.config := by
  cases h with
  | popped | idle | rebased => rfl

theorem ActionDone.config_eq {action : TimerAction} (h : ActionDone s action t) :
    t.kernel.config = s.kernel.config := by
  cases h with
  | woken => rfl
  | fired hfired => exact hfired.config_eq
  | failed hfired => exact hfired.config_eq

theorem Performed.config_eq {operation : Operation} {r : Except Error (Progress Value)}
    (h : Performed s operation r t) : t.kernel.config = s.kernel.config := by
  cases operation with
  | identifyTask | taskAttributes | postedEvents | identifyQueue | queueLength | freeContainers
    | timerState | ticks | scheduledObjects | config | coreSnapshot | queueSnapshot | coreText
    | queueText =>
    obtain ⟨_, ⟨-, rfl⟩, -⟩ := h; rfl
  | postEvents => obtain ⟨_, h, -⟩ := h; exact h.config_eq
  | postFromDriver => obtain ⟨_, h, -⟩ := h; exact h.config_eq.trans rfl
  | postMessage => obtain ⟨_, h, -⟩ := h; exact h.config_eq
  | receive => obtain ⟨_, h, -⟩ := h; exact h.config_eq
  | deleteAllQueues => obtain ⟨_, h, -⟩ := h; rw [h.kernel]; rfl
  | allocateTask | freeTask | interruptTask | sleep | clearEvents | waitEvents | createQueue
    | deleteQueue | interruptReceiver | createTimer | startTimer | abortTimer | deleteTimer =>
    obtain ⟨_, h, -⟩ := h
    cases h with
    | _ => rfl

theorem Resumed.config_eq {wait : Wait} {r : Except Error (Progress Value)}
    (h : Resumed s wait r t) : t.kernel.config = s.kernel.config := by
  cases wait with
  | sleep => obtain ⟨_, h, -⟩ := h; cases h with | woken | interrupted | waits => rfl
  | events => obtain ⟨_, h, -⟩ := h; cases h with | woken | interrupted | waits => rfl
  | message =>
    obtain ⟨_, h, -⟩ := h
    cases h with
    | lost | interrupted | waits => rfl
    | served _ _ _ htaken => exact htaken.config_eq
    | unserved _ _ _ htaken => exact htaken.config_eq

end Config

/-! ## Parking -/

/-- A call parks at the gate of an entry that is there. -/
theorem Performed.hasGate {operation : Operation} {wait : Wait} {t : Section}
    (h : Performed s operation (.ok (.parked wait)) t) : s.kernel.hasGate wait.gate = true := by
  cases operation with
  | sleep =>
    cases Proceeds.parked h with
    | waits hget => exact hasGate_task (TaskTable.get_eq_ok.1 hget).2.1
  | waitEvents =>
    cases Proceeds.parked h with
    | waits hget => exact hasGate_task (TaskTable.get_eq_ok.1 hget).2.1
  | receive =>
    cases Proceeds.parked h with
    | waits hget => exact hasGate_queue (QueueTable.get_eq_ok.1 hget).2.1
  | _ => exact absurd h Gives.not_parked

/-- A call that parks again leaves everything as it was. -/
theorem Resumed.parked {wait wait' : Wait} {t : Section} (h : Resumed s wait (.ok (.parked wait')) t) :
    wait' = wait ∧ t = s := by
  cases wait with
  | sleep => cases Proceeds.parked h with | waits => exact ⟨rfl, rfl⟩
  | events => cases Proceeds.parked h with | waits => exact ⟨rfl, rfl⟩
  | message => cases Proceeds.parked h with | waits => exact ⟨rfl, rfl⟩

end Executive.Kernel
