/-
Interrupts hit the call they are meant for (`run_interrupts`). While no call begins to wait where another
one is blocked, and no task is freed under a blocked call (`OneByOne`), a blocked call gives up exactly if
an interrupt of what it is blocked on has gone through since it parked, and what it waits for has not come
since. It is not enough that no two calls are blocked at once: a call that begins to wait where another
one has been told to give up takes the interrupt and is cut short (`roused_takes_interrupt`).

`Fortune` notes both beside the run. That the entry of the call tells the same (`Tells`) is shown by
cases on what a move does to the entry: as long as the call is blocked, no other wait begins or ends
there (`Stays`).
-/
import Executive.Proofs.Accounts
import Executive.Proofs.Consumption
import Executive.Proofs.Kernel.Failures
import Executive.Proofs.Sleep
import Executive.Proofs.Wakeup

namespace Executive

/-! ## Objects of sleeps -/

namespace Kernel

variable {s t : Section} {id : TaskId}

theorem WellFormed.eq_wakeTask {kernel : Kernel} (h : kernel.WellFormed) (hid : id.index < kernel.tasks.size)
    {action : TimerAction} (hserves : kernel.config.Serves (sleepObject id) action) :
    action = .wakeTask id := by
  rw [h.tasks_size] at hid
  cases action with
  | wakeTask task =>
    obtain ⟨-, heq⟩ := hserves
    have hsame : sleepObject id = sleepObject task := heq
    rw [sleepObject_inj hsame]
  | fireTimer timer =>
    obtain ⟨-, heq⟩ := hserves
    exact absurd heq (Nat.ne_of_lt (Nat.lt_add_right _ hid))

/-- The object of a task stays pending in an operation that neither begins a wait for the task nor
frees it. -/
theorem Performed.pending {operation : Operation} {r : Except Error (Progress Value)}
    (hwf : s.kernel.WellFormed) (hid : id.index < s.kernel.tasks.size) (h : Performed s operation r t)
    (hawaits : operation.awaits s.kernel ≠ some (.task id, 0)) (hfrees : operation.frees ≠ some id) :
    (t.kernel.heap.object (sleepObject id)).pending = (s.kernel.heap.object (sleepObject id)).pending := by
  by_cases hsleeper : sleeperOf operation = some id
  · cases operation with
    | sleep task ticks =>
      cases hsleeper
      obtain ⟨_, h, -⟩ := h
      cases h with
      | refused => rfl
      | interrupted hget | waits hget => simp [Operation.awaits, hget] at hawaits
    | freeTask => exact absurd hsleeper hfrees
    | _ => cases hsleeper
  · exact ((h.handled hwf).alike (objectOf_ne hid hsleeper)).pending

/-- A delivery that takes out an object ends the sleep for which it is. -/
theorem NextDue.pending {action : Option TimerAction} (hwf : s.kernel.WellFormed)
    (hid : id.index < s.kernel.tasks.size) (h : NextDue s action t) :
    (t.kernel.heap.object (sleepObject id)).pending =
      ((s.kernel.heap.object (sleepObject id)).pending && action != some (.wakeTask id)) := by
  cases h with
  | @popped object action heap hpop =>
    have hserves := hwf.serves _ _ hpop.armed
    by_cases hown : sleepObject id = object
    · subst hown
      cases hwf.eq_wakeTask hid hserves
      simp [hpop.object]
    · have hother : action ≠ .wakeTask id := by
        rintro rfl
        exact hown hserves.2.symm
      simp [(hpop.alike _ hown).pending, hother]
  | idle => simp
  | rebased _ _ hrebase =>
    rw [heap_setHeap, hrebase.object]
    split <;> simp

end Kernel

namespace System

open Kernel

variable {system system' : System} {signals : List Signal} {move : Move} {answer : Answer} {wait : Wait}

/-! ## The rules of a run -/

/-- What a move begins to wait on, be it that the wait is cut short at once. -/
def Move.awaits (system : System) : Move → Option (Gate × UInt64)
  | .call operation => operation.awaits system.kernel
  | _ => none

/-- An orderly move that begins no wait on what another call is blocked on. An orderly move may do so if the
other call has been told to give up: then the wait is cut short at once, and only one call is blocked. -/
def OneByOne (system : System) (move : Move) : Prop :=
  Orderly system move ∧ ∀ subject ∈ move.awaits system, ∀ call ∈ system.calls, call.wait.subject ≠ subject

instance (system : System) (move : Move) : Decidable (OneByOne system move) :=
  inferInstanceAs (Decidable (_ ∧ _))

theorem Orderly.frees_ne (hrule : Orderly system move) {call : Call} (hcall : call ∈ system.calls)
    {id : TaskId} (hgate : call.wait.gate = .task id) : move.frees ≠ some id := by
  intro hfrees
  refine hrule.1 id ?_ call hcall hgate
  cases move with
  | call operation => cases operation <;> cases hfrees; rfl
  | resume | advance | act | proceed => cases hfrees

/-! ## Calls that stay blocked -/

/-- No wait begins or ends on what a wait is for, and its task is not freed. -/
structure Stays (system : System) (move : Move) (answer : Answer) (wait : Wait) : Prop where
  awaits : move.awaits system ≠ some wait.subject
  frees : ∀ id, wait.gate = .task id → move.frees ≠ some id
  looked : ∀ call result, answer = .looked (some (call, some result)) → call.wait.subject ≠ wait.subject

theorem OneByOne.stays (hrule : OneByOne system move) (hcrowd : system.Uncrowded)
    (hmoved : Moved system move answer signals system') {call : Call} (hcall : call ∈ system.calls)
    (hstill : call ∈ system'.calls) : Stays system move answer call.wait where
  awaits hawaits := hrule.2 _ hawaits call hcall rfl
  frees _ hgate := hrule.1.frees_ne hcall hgate
  looked _ _ hanswer := hcrowd.subject_ne (hmoved.calls_of_looked hanswer) hstill

/-- Nothing of a wait is in the entry of a task then that was not there before. -/
theorem Stays.affected {id : TaskId} {old new : Task} (h : Stays system move answer wait)
    (hgate : wait.gate = .task id) (hstep : TaskStep system system' move answer id old new) :
    Task.Affected (move.clears answer = some id) (move.frees = some id)
      (move.latches answer == some (.task id)) old new := by
  have hsubject := Wait.subject_of_task hgate
  cases hstep with
  | affected _ hchange => exact hchange
  | entered hmove hawaits =>
    subst hmove
    exact absurd (hawaits.trans (congrArg some hsubject.symm)) h.awaits
  | @left call _ _ _ hanswer hchange =>
    refine absurd ?_ (h.looked _ _ hanswer)
    rw [hsubject]
    generalize call.wait = other at hchange
    cases hchange <;> rfl

theorem Stays.affected_queue {id : QueueId} {old new : Queue}
    (h : Stays system move answer (.message id old.generation))
    (hstep : QueueStep system system' move answer id old new) :
    Queue.Affected system'.kernel (move.Closes id) (move.latches answer == some (.queue id)) old new := by
  cases hstep with
  | affected _ hchange => exact hchange
  | entered hmove hawaits =>
    subst hmove
    exact absurd hawaits h.awaits
  | @left call _ _ _ hanswer hchange =>
    refine absurd ?_ (h.looked _ _ hanswer)
    generalize call.wait = other at hchange
    cases hchange <;> rfl

/-! ## What comes in the way of a call -/

/-- What has come in the way of a blocked call since it parked. -/
structure Fortune where
  /-- What it waits for has come, or its queue has been deleted. -/
  ended : Bool := false
  /-- It has been told to give up. -/
  interrupted : Bool := false
  deriving DecidableEq, Repr

namespace Fortune

variable {fortune : Fortune}

/-- Whether a move ends a wait: a sleep by taking out its object, an event wait by events that meet its
condition, and a receive by a message in its queue or by the deletion of the queue. -/
def ends (wait : Wait) (answer : Answer) (system' : System) : Bool :=
  match wait with
  | .sleep id =>
    match answer with
    | .due action => action == some (.wakeTask id)
    | _ => false
  | .events id mask condition => condition.isMet (system'.word id) mask
  | .message id generation =>
    (system'.kernel.queues.slot id).generation != generation ||
      !(system'.kernel.queues.slot id).messages.isEmpty

/-- What has come in the way of a call after a move. An interrupt counts if it has answered that a call
was blocked. -/
def note (wait : Wait) (_ : System) (move : Move) (answer : Answer) (_ : List Signal) (system' : System)
    (fortune : Fortune) : Fortune where
  ended := fortune.ended || ends wait answer system'
  interrupted := fortune.interrupted || move.latches answer == some wait.gate

/-- The entry of a task holds what an event wait asks for. -/
def Stores (kernel : Kernel) : Wait → Prop
  | .events id mask condition => ∃ task, kernel.tasks[id.index]? = some task ∧ task.mask = mask ∧
    task.condition = condition
  | _ => True

/-- What a blocked call finds is what has come in its way. An interrupt that comes when the wait has
ended does not matter any more. -/
structure Tells (fortune : Fortune) (wait : Wait) (kernel : Kernel) : Prop where
  ended : (kernel.watch wait).ended = fortune.ended
  interrupted : fortune.ended = false → (kernel.watch wait).interrupted = fortune.interrupted
  stored : fortune.ended = false → Stores kernel wait

/-- Nothing has come in the way of a call that has just parked. -/
theorem tells_of_parked {operation : Operation} {s t : Section}
    (h : Performed s operation (.ok (.parked wait)) t) : Tells {} wait t.kernel := by
  obtain ⟨-, hrests⟩ := h.rests
  rw [Watch.isOver, Bool.or_eq_false_iff] at hrests
  refine ⟨hrests.1, fun _ => hrests.2, fun _ => ?_⟩
  cases wait with
  | sleep | message => trivial
  | events id mask condition =>
    obtain ⟨⟨task, hentry, hfits⟩, -⟩ := @Interference.fitsAt_of_parked _ _ _ _ _ _ {} h
    rcases hfits with ⟨-, hmask, hcondition⟩ | ⟨hended, -⟩
    · exact ⟨task, hentry, hmask, hcondition⟩
    · have hwatch := hrests.1
      simp [Kernel.watch, hentry, hended] at hwatch

/-- A move takes an object off its sleep only by taking it out. -/
theorem pending_of_stays (hwf : system.WellFormed) (hmoved : Moved system move answer signals system')
    {id : TaskId} (hid : id.index < system.kernel.tasks.size)
    (hstays : Stays system move answer (.sleep id)) :
    (system'.kernel.heap.object (sleepObject id)).pending =
      ((system.kernel.heap.object (sleepObject id)).pending && !ends (.sleep id) answer system') := by
  have hnext {kernel : Kernel} {action : Option TimerAction} {t : Section} (hkernel : kernel.WellFormed)
      (htasks : kernel.tasks = system.kernel.tasks) (hheap : kernel.heap.objects = system.kernel.heap.objects)
      (h : NextDue { kernel } action t) : (t.kernel.heap.object (sleepObject id)).pending =
        ((system.kernel.heap.object (sleepObject id)).pending && action != some (.wakeTask id)) := by
    have hbelow : id.index < kernel.tasks.size := by
      rw [htasks]
      exact hid
    have hpending := h.pending hkernel hbelow
    rw [hpending, TimerHeap.object, TimerHeap.object, hheap]
  cases hmoved with
  | unready | waits | inactive | busy => exact (Bool.and_true _).symm
  | blocked hcall =>
    have hsame := hcall.pending hwf.kernel hid hstays.awaits (hstays.frees id rfl)
    rw [← @kernel_leave system] at hsame
    exact hsame.trans (Bool.and_true _).symm
  | returned hcall =>
    rw [kernel_leave]
    exact (hcall.pending hwf.kernel hid hstays.awaits (hstays.frees id rfl)).trans (Bool.and_true _).symm
  | ended _ hlook =>
    rw [kernel_leave]
    refine (hlook.handled.alike (objectOfWait_ne ?_)).pending.trans (Bool.and_true _).symm
    intro hsleep
    exact hstays.looked _ _ rfl (congrArg Wait.subject hsleep)
  | acted _ hdone =>
    rw [kernel_leave]
    exact ((hdone.handled hwf.kernel).alike (objectOfAction_ne hid _)).pending.trans
      (Bool.and_true _).symm
  | @began delta action t hdue =>
    have hsame := hnext (hwf.kernel.advanceClock delta) rfl rfl hdue
    rwa [← @kernel_leave system] at hsame
  | passed hdue =>
    rw [kernel_leave]
    exact hnext (hwf.kernel.advanceClock _) rfl rfl hdue
  | wentOn _ hdue =>
    have hsame := hnext hwf.kernel rfl rfl hdue
    rwa [← @kernel_leave system] at hsame
  | delivered _ hdue =>
    have hsame := hnext hwf.kernel rfl rfl hdue
    rwa [← @kernel_leave system] at hsame

/-- A wait for a message ends with a message or with its queue. -/
theorem ends_message (hwf : system.WellFormed) {id : QueueId} {generation : UInt64} {queue : Queue}
    (hentry : system.kernel.queues.queues[id.index]? = some queue) :
    ends (.message id generation) answer system =
      (queue.generation != generation || decide (0 < queue.count)) := by
  obtain ⟨free, members, hholds⟩ := hwf.kernel.queues
  have hlength := hholds.length_slot hentry
  have hgeneration := congrArg Slot.generation (QueueTable.slot_eq hentry)
  simp only [ends, hgeneration]
  congr 1
  rw [← hlength]
  cases (system.kernel.queues.slot id).messages <;> rfl

/-- A receiver does not wait again at another generation of its queue. -/
theorem generation_or_waiting {id : QueueId} {old new : Queue}
    (h : QueueStep system system' move answer id old new) :
    new.generation = old.generation ∨ new.waiting = false := by
  cases h with
  | affected _ hchange =>
    generalize (move.latches answer == some (Gate.queue id)) = latch at hchange
    cases hchange with
    | kept | extended | popped | latched => exact Or.inl rfl
    | opened | closed => exact Or.inr rfl
  | entered _ _ _ hchange => cases hchange <;> exact Or.inl rfl
  | @left call _ _ _ _ hchange =>
    generalize call.wait = other at hchange
    cases hchange <;> exact Or.inl rfl

section Step

variable (hwf : system.WellFormed) (hwf' : system'.WellFormed)
  (hmoved : Moved system move answer signals system')

include hwf hwf' hmoved

/-- The entry of a task in use on which a call stays blocked. -/
theorem entry_of_stays {id : TaskId} (hstays : Stays system move answer wait)
    (hgate : wait.gate = .task id) (hexists : system.kernel.hasGate (.task id) = true)
    (hheld : (system.kernel.watch wait).held = true) :
    ∃ old new, system.kernel.tasks[id.index]? = some old ∧ system'.kernel.tasks[id.index]? = some new ∧
      new.interrupted = (old.interrupted || move.latches answer == some (.task id)) ∧
      new.mask = old.mask ∧ new.condition = old.condition ∧
      (new.waiting = old.waiting ∨ new.waiting = false ∧ new.isSatisfied = true) := by
  have hold := Array.getElem?_eq_getElem (of_decide_eq_true hexists)
  obtain ⟨new, hnew, hstep⟩ := hmoved.taskStep hwf hwf' hold
  rw [Kernel.held_of_task hgate hold] at hheld
  exact ⟨_, new, hold, hnew, (hstays.affected hgate hstep).flags hheld⟩

theorem Tells.sleep {id : TaskId} (h : fortune.Tells (.sleep id) system.kernel)
    (hstays : Stays system move answer (.sleep id)) (hexists : system.kernel.hasGate (.task id) = true)
    (hheld : (system.kernel.watch (.sleep id)).held = true) :
    (note (.sleep id) system move answer signals system' fortune).Tells (.sleep id) system'.kernel := by
  obtain ⟨old, new, hold, hnew, hlatch, -⟩ := entry_of_stays hwf hwf' hmoved hstays rfl hexists hheld
  have hpending := pending_of_stays hwf hmoved (of_decide_eq_true hexists) hstays
  constructor
  · have hended := h.ended
    simp only [Kernel.watch] at hended
    simp only [Kernel.watch, note, hpending, ← hended, Bool.not_and, Bool.not_not]
  · intro hnot
    have hinterrupted := h.interrupted (Bool.or_eq_false_iff.1 hnot).1
    simp only [Kernel.watch, hold, Option.getD_some] at hinterrupted
    simp only [Kernel.watch, note, hnew, Option.getD_some, hlatch, hinterrupted, Wait.gate]
  · exact fun _ => trivial

theorem Tells.events {id : TaskId} {mask : EventBits} {condition : Condition}
    (h : fortune.Tells (.events id mask condition) system.kernel) (hpatient : system'.kernel.Patient)
    (hstays : Stays system move answer (.events id mask condition))
    (hexists : system.kernel.hasGate (.task id) = true)
    (hheld : (system.kernel.watch (.events id mask condition)).held = true) :
    (note (.events id mask condition) system move answer signals system' fortune).Tells
      (.events id mask condition) system'.kernel := by
  obtain ⟨old, new, hold, hnew, hlatch, hmask, hcondition, hwaiting⟩ :=
    entry_of_stays hwf hwf' hmoved hstays rfl hexists hheld
  have hended := h.ended
  simp only [Kernel.watch, hold, Option.getD_some] at hended
  have hkept : fortune.ended = false → new.mask = mask ∧ new.condition = condition := by
    intro hnot
    obtain ⟨task, hentry, rfl, rfl⟩ := h.stored hnot
    cases hold.symm.trans hentry
    exact ⟨hmask, hcondition⟩
  refine ⟨?_, fun hnot => ?_, fun hnot => ?_⟩
  · simp only [Kernel.watch, note, ends, hnew, Option.getD_some, word_eq hnew]
    cases hfortune : fortune.ended with
    | true =>
      -- the wait was over, and no other one has begun
      rw [hfortune, Bool.not_eq_true'] at hended
      rcases hwaiting with hsame | ⟨hnone, -⟩
      · rw [hsame, hended]; rfl
      · rw [hnone]; rfl
    | false =>
      rw [hfortune, Bool.not_eq_false'] at hended
      obtain ⟨rfl, rfl⟩ := hkept hfortune
      rw [Bool.false_or]
      change (!new.waiting) = new.isSatisfied
      rcases hwaiting with hsame | ⟨hnone, hmet⟩
      · rw [hended] at hsame
        rw [hsame, hpatient.task _ new hnew hsame]; rfl
      · rw [hnone, hmet]; rfl
  · have hinterrupted := h.interrupted (Bool.or_eq_false_iff.1 hnot).1
    simp only [Kernel.watch, hold, Option.getD_some] at hinterrupted
    simp only [Kernel.watch, note, hnew, Option.getD_some, hlatch, hinterrupted, Wait.gate]
  · exact ⟨new, hnew, hkept (Bool.or_eq_false_iff.1 hnot).1⟩

theorem Tells.message {id : QueueId} {generation : UInt64}
    (h : fortune.Tells (.message id generation) system.kernel) (hpatient : system.kernel.Patient)
    (hstays : Stays system move answer (.message id generation))
    (hexists : system.kernel.hasGate (.queue id) = true) :
    (note (.message id generation) system move answer signals system' fortune).Tells
      (.message id generation) system'.kernel := by
  obtain ⟨old, hold⟩ : ∃ old, system.kernel.queues.queues[id.index]? = some old :=
    ⟨_, Array.getElem?_eq_getElem (of_decide_eq_true hexists)⟩
  obtain ⟨new, hnew, hstep⟩ := hmoved.queueStep hwf hwf' hold
  have hended := h.ended
  simp only [Kernel.watch, hold, Option.getD_some] at hended
  cases hfortune : fortune.ended with
  | true =>
    -- the wait was over, and no other one begins there that this call could take for its own
    have hover : (note (.message id generation) system move answer signals system' fortune).ended = true := by
      simp only [note, hfortune, Bool.true_or]
    refine ⟨?_, fun hnot => ?_, fun hnot => ?_⟩
    · rw [hover]
      simp only [Kernel.watch, hnew, Option.getD_some, Bool.or_eq_true, bne_iff_ne, Bool.not_eq_true']
      by_cases hkept : old.generation = generation
      · subst hkept
        rw [hfortune, bne_self_eq_false, Bool.false_or, Bool.not_eq_true'] at hended
        exact Or.inr ((hstays.affected_queue hstep).waiting hended)
      · rcases generation_or_waiting hstep with hsame | hnone
        · exact Or.inl (hsame ▸ hkept)
        · exact Or.inr hnone
    · rw [hover] at hnot; cases hnot
    · rw [hover] at hnot; cases hnot
  | false =>
    rw [hfortune, Bool.or_eq_false_iff, bne_eq_false_iff_eq, Bool.not_eq_false'] at hended
    obtain ⟨rfl, hwaiting⟩ := hended
    obtain ⟨hbusy, hcount⟩ := hpatient.queue _ old hold hwaiting
    have hinterrupted := h.interrupted hfortune
    simp only [Kernel.watch, hold, Option.getD_some] at hinterrupted
    rcases (hstays.affected_queue hstep).flags hwaiting hbusy hcount with
      ⟨hw, hlatch, hsame, hnone⟩ | ⟨hw, hcome⟩
    · refine ⟨?_, fun _ => ?_, fun _ => trivial⟩
      · simp [Kernel.watch, note, ends_message hwf' hnew, hnew, hfortune, hw, hsame, hnone]
      · simp [Kernel.watch, note, hnew, hlatch, hinterrupted, Wait.gate]
    · have hover : (note (.message id old.generation) system move answer signals system' fortune).ended =
          true := by
        simp only [note, ends_message hwf' hnew, Bool.or_eq_true, bne_iff_ne, decide_eq_true_eq]
        exact Or.inr hcome
      refine ⟨?_, fun hnot => ?_, fun _ => trivial⟩
      · rw [hover]
        simp [Kernel.watch, hnew, hw]
      · rw [hover] at hnot; cases hnot

/-- A call that stays blocked finds what has come in its way. -/
theorem Tells.moved (h : fortune.Tells wait system.kernel) (hpatient : system.kernel.Patient)
    (hpatient' : system'.kernel.Patient) (hstays : Stays system move answer wait)
    (hexists : system.kernel.hasGate wait.gate = true) (hheld : (system.kernel.watch wait).held = true) :
    (note wait system move answer signals system' fortune).Tells wait system'.kernel := by
  cases wait with
  | sleep => exact h.sleep hwf hwf' hmoved hstays hexists hheld
  | events => exact h.events hwf hwf' hmoved hpatient' hstays hexists hheld
  | message => exact h.message hwf hwf' hmoved hpatient hstays hexists

end Step

/-- A call that looks again gives up exactly if it has been told to in time. -/
theorem Tells.gives_up {s t : Section} {r : Except Error (Progress Value)} (h : fortune.Tells wait s.kernel)
    (hlook : Resumed s wait r t) :
    r = .error .interrupted ↔ fortune.interrupted = true ∧ fortune.ended = false := by
  rw [hlook.interrupted_iff, h.ended]
  constructor
  · rintro ⟨hset, hnot⟩
    exact ⟨(h.interrupted hnot).symm.trans hset, hnot⟩
  · rintro ⟨hset, hnot⟩
    exact ⟨(h.interrupted hnot).trans hset, hnot⟩

end Fortune

/-! ## Runs -/

/-- What holds in a run that keeps the rules, whatever the calls are. -/
structure Tidy (system : System) : Prop where
  attended : system.Attended
  patient : system.kernel.Patient
  numbered : system.Numbered
  accounted : system.Accounted

theorem ofConfig_tidy (config : Config) : Tidy { kernel := .ofConfig config } where
  attended := ⟨List.nodup_nil, nofun, nofun⟩
  patient := Kernel.ofConfig_patient config
  numbered := ofConfig_numbered config
  accounted := ofConfig_accounted config

theorem Tidy.moved (h : system.Tidy) (hwf : system.WellFormed) (hrule : OneByOne system move)
    (hobserve : system.observe move = .ok (answer, signals, system'))
    (hmoved : Moved system move answer signals system') : system'.Tidy where
  attended := h.attended.move hwf hrule.1 hobserve hmoved
  patient := hmoved.patient h.patient
  numbered := h.numbered.move hmoved
  accounted := h.accounted.moved hmoved

theorem run_tidy {config : Config} (h : config.fault? = none) {moves : List Move}
    (hrule : Along OneByOne { kernel := .ofConfig config } moves) :
    ∃ system, run { kernel := .ofConfig config } moves = .ok system ∧ system.WellFormed ∧ system.Tidy :=
  @run_induct_noted Unit (fun _ _ _ _ _ x => x) (fun system _ => system.Tidy)
    (fun system _ move => OneByOne system move)
    (fun hwf hallowed hobserve hinv hmoved => hinv.moved hwf hallowed hobserve hmoved) moves _ ()
    (ofConfig_wellFormed h) (hrule.noted ()) (ofConfig_tidy config)

/-- No call that is made is cut short at once. -/
theorem Tidy.not_cut (h : system.Tidy) (hwf : system.WellFormed) {operation : Operation} {t : Section}
    (hrule : OneByOne system (.call operation)) :
    ¬ Performed { kernel := system.kernel } operation (.error .interrupted) t := by
  intro hcut
  obtain ⟨subject, hawaits, hlatched⟩ := hcut.cut hwf.kernel
  obtain ⟨call, hcall, hsubject⟩ := h.accounted.latched hlatched
  exact hrule.2 subject hawaits call hcall hsubject

/-- The call with a number is blocked on a wait, unless it has returned, and finds what has come in its
way. -/
structure Bides (number : Nat) (wait : Wait) (fortune : Fortune) (system : System) : Prop where
  counted : number < system.callCount
  same : ∀ call ∈ system.calls, call.number = number → call.wait = wait
  tells : ∀ call ∈ system.calls, call.number = number → fortune.Tells wait system.kernel

theorem Bides.moved {number : Nat} {fortune : Fortune} (h : Bides number wait fortune system)
    (htidy : system.Tidy) (htidy' : system'.Tidy) (hwf : system.WellFormed) (hwf' : system'.WellFormed)
    (hrule : OneByOne system move) (hmoved : Moved system move answer signals system') :
    Bides number wait (Fortune.note wait system move answer signals system' fortune) system' := by
  have hold {call : Call} (hcall : call ∈ system'.calls) (hnumber : call.number = number) :
      call ∈ system.calls := hmoved.mem_of_lt (hnumber ▸ h.counted) hcall
  refine ⟨Nat.lt_of_lt_of_le h.counted hmoved.callCount.1, fun call hcall hnumber => ?_,
    fun call hcall hnumber => ?_⟩
  · exact h.same call (hold hcall hnumber) hnumber
  · have hbefore := hold hcall hnumber
    have hwait := h.same call hbefore hnumber
    subst hwait
    apply (h.tells call hbefore hnumber).moved hwf hwf' hmoved htidy.patient htidy'.patient
    · exact hrule.stays htidy.attended.uncrowded hmoved hbefore hcall
    · exact hwf.gates call hbefore
    · exact htidy.attended.held call hbefore

/-- What comes in the way of a call in a run is noted to its end. -/
theorem Bides.run {number : Nat} {fortune : Fortune} {moves : List Move}
    (h : Bides number wait fortune system) (htidy : system.Tidy) (hwf : system.WellFormed)
    (hrule : Along OneByOne system moves) : ∃ last, system.run moves = .ok last ∧
      Bides number wait (recount (Fortune.note wait) system moves fortune) last := by
  obtain ⟨last, hrun, -, -, hbides⟩ := @run_induct_noted Fortune (Fortune.note wait)
    (fun system fortune => system.Tidy ∧ Bides number wait fortune system)
    (fun system _ move => OneByOne system move)
    (fun hwf hallowed hobserve hinv hmoved =>
      have htidy' := hinv.1.moved hwf hallowed hobserve hmoved
      ⟨htidy', hinv.2.moved hinv.1 htidy' hwf (hwf.observe hobserve) hallowed hmoved⟩)
    moves system fortune hwf (hrule.noted _) ⟨htidy, h⟩
  exact ⟨last, hrun, hbides⟩

/-- A call bides from when it parks. -/
theorem bides_of_parked {operation : Operation} {t : Section} (hnumbered : system.Numbered)
    (hcall : Performed { kernel := system.kernel } operation (.ok (.parked wait)) t)
    (hcalls : system'.calls.Perm ({ number := system.callCount, wait } :: system.calls))
    (hkernel : system'.kernel = t.kernel) (hcount : system'.callCount = system.callCount + 1) :
    Bides system.callCount wait {} system' where
  counted := by
    rw [hcount]
    exact Nat.lt_succ_self _
  same call hmem hnumber := by rw [hnumbered.eq_new hcalls hmem hnumber]
  tells _ _ _ := by
    rw [hkernel]
    exact Fortune.tells_of_parked hcall

/-- A call that looks again returns that it was interrupted exactly if it was told to give up in time. -/
theorem Bides.resume {number : Nat} {fortune : Fortune} (h : Bides number wait fortune system)
    (hwf : system.WellFormed) {i : Nat} {call : Call} (hready : system.ready[i]? = some call)
    (hnumber : call.number = number) :
    ∃ answer signals next, system.resume i = .ok (some (call, answer), signals, next) ∧
      (answer = some (.error .interrupted) ↔ fortune.interrupted = true ∧ fortune.ended = false) := by
  have hcall : call ∈ system.calls := List.mem_append_right _ (List.mem_of_getElem? hready)
  have hwait := h.same call hcall hnumber
  have htells := h.tells call hcall hnumber
  subst hwait
  rcases resume_cases hwf hready with ⟨hlook, hresume⟩ | ⟨result, t, hlook, hresume⟩
  · refine ⟨_, _, _, hresume, nofun, fun hgives => ?_⟩
    cases (htells.gives_up (s := { kernel := system.kernel }) hlook).2 hgives
  · refine ⟨_, _, _, hresume, ?_⟩
    rw [← htells.gives_up (s := { kernel := system.kernel }) hlook]
    cases result with
    | ok => exact ⟨nofun, nofun⟩
    | error error =>
      constructor
      · rintro ⟨⟩; rfl
      · rintro ⟨⟩; rfl

/-- Calls that return that they were interrupted take nothing and leave nothing set, whether they have
been blocked or not. -/
structure GivesUpClean (system : System) : Prop where
  call : ∀ operation signals next,
    system.call operation = .ok (.returned (.error .interrupted), signals, next) →
    ∃ wait, operation.Begins wait ∧ GaveUp wait system.kernel next.kernel
  resume : ∀ i call signals next,
    system.resume i = .ok (some (call, some (.error .interrupted)), signals, next) →
    GaveUp call.wait system.kernel next.kernel

theorem WellFormed.givesUpClean (h : system.WellFormed) : system.GivesUpClean where
  call operation signals next hcall := by
    obtain ⟨t, hperformed, -, rfl⟩ := call_returned h hcall
    have hcut : Performed { kernel := system.kernel } operation (.error .interrupted) t := hperformed
    rw [kernel_leave]
    exact (hcut.cutShort h.kernel).1.gaveUp
  resume i call signals next hresume := by
    obtain ⟨answer, _, _, hobserve, -, hmoved⟩ := resume_spec h i
    cases hmoved with
    | unready | waits => rw [resume_of_observe hobserve] at hresume; cases hresume
    | ended _ hlook =>
      rw [resume_of_observe hobserve] at hresume
      cases hresume
      rw [kernel_leave]
      exact Resumed.gaveUp hlook

/-- In every run an entry on which no call is blocked is calm, and a call that returns that it was
interrupted takes no event and no message, and leaves its flag and the latch clear. If each call begins
to wait only where no other call is blocked, and no task is freed under a blocked call, interrupts hit
the call that they are meant for: no call returns that it was interrupted when it is made, and a blocked
call that looks again returns so exactly if an interrupt of what it is blocked on has gone through since
it parked, and nothing has come since that ends its wait. -/
theorem run_interrupts {config : Config} (h : config.fault? = none) (moves : List Move) :
    ∃ system, run { kernel := .ofConfig config } moves = .ok system ∧ system.Calm ∧ system.GivesUpClean ∧
      (Along OneByOne { kernel := .ofConfig config } moves →
        ∀ before operation after, moves = before ++ .call operation :: after →
          ∃ idle outcome signals begun, run { kernel := .ofConfig config } before = .ok idle ∧
            idle.call operation = .ok (outcome, signals, begun) ∧ run begun after = .ok system ∧
            outcome ≠ .returned (.error .interrupted) ∧
            ∀ number, outcome = .blocked number → ∀ i call, system.ready[i]? = some call →
              call.number = number → ∃ answer signals next,
                system.resume i = .ok (some (call, answer), signals, next) ∧
                (answer = some (.error .interrupted) ↔
                  (recount (Fortune.note call.wait) begun after {}).interrupted = true ∧
                  (recount (Fortune.note call.wait) begun after {}).ended = false)) := by
  obtain ⟨system, hrun, hwf, -, haccounted⟩ := run_invariant h (ofConfig_accounted config)
    (fun _ _ hinv hmoved => hinv.moved hmoved) moves
  refine ⟨system, hrun, haccounted.calm, hwf.givesUpClean, fun hrule => ?_⟩
  rintro before operation after rfl
  obtain ⟨idle, hbefore, hwfIdle, hidle⟩ := run_tidy h hrule.of_append
  obtain ⟨hcall, hafter⟩ := hrule.append hbefore
  obtain ⟨answer, signals, begun, hobserve, hwfBegun, hmoved⟩ :=
    observe_spec hwfIdle (.call operation)
  have hbegun := hidle.moved hwfIdle hcall hobserve hmoved
  rw [hobserve] at hafter
  rw [run_append hbefore, run_cons hobserve] at hrun
  cases hmoved with
  | @returned _ result t hperformed =>
    refine ⟨idle, _, _, _, hbefore, call_of_observe hobserve, hrun, ?_, nofun⟩
    rintro ⟨⟩
    exact hidle.not_cut hwfIdle hcall hperformed
  | @blocked _ wait t hperformed =>
    refine ⟨idle, _, _, _, hbefore, call_of_observe hobserve, hrun, nofun, ?_⟩
    rintro _ ⟨⟩ i call hready hnumber
    have hparked : Bides idle.callCount wait {} ({ idle.leave t with callCount := idle.callCount + 1 }.park
        { number := idle.callCount, wait }) :=
      bides_of_parked hidle.numbered hperformed ((calls_park _).trans (calls_leave.cons _)) kernel_leave rfl
    obtain ⟨last, hlast, hbides⟩ := hparked.run hbegun hwfBegun hafter
    cases hrun.symm.trans hlast
    have hwait := hbides.same call (List.mem_append_right _ (List.mem_of_getElem? hready)) hnumber
    subst hwait
    exact hbides.resume hwf hready hnumber

/-- A receiver is blocked. -/
def listening : List Move :=
  [.call (.allocateTask "task" {}), .call (.createQueue "queue" { depth := 1 }),
    .call (.receive ⟨1⟩ .indefinite)]

/-- The receiver and an event wait are interrupted, and a message comes before the receiver looks. -/
def disturbed : List Move :=
  [.call (.interruptTask ⟨1⟩), .call (.interruptReceiver ⟨1⟩), .call (.postMessage ⟨1⟩ 7 .fifo)]

/-- The event wait gives up. -/
theorem disturbed_gives_up : small.fault? = none ∧
    Along OneByOne { kernel := .ofConfig small }
      (listening ++ .call (.waitEvents ⟨1⟩ 1 .any .indefinite) :: disturbed) ∧
    ∃ system signals next, run { kernel := .ofConfig small }
        (listening ++ .call (.waitEvents ⟨1⟩ 1 .any .indefinite) :: disturbed) = .ok system ∧
      system.resume 0 = .ok (some ({ number := 1, wait := .events ⟨1⟩ 1 .any },
        some (.error .interrupted)), signals, next) ∧
      GaveUp (.events ⟨1⟩ 1 .any) system.kernel next.kernel := by
  have hvalid : small.fault? = none := by decide
  have hrule : Along OneByOne { kernel := .ofConfig small }
      (listening ++ .call (.waitEvents ⟨1⟩ 1 .any .indefinite) :: disturbed) := by decide +kernel
  obtain ⟨system, hrun, -, hclean, hcalls⟩ := run_interrupts hvalid
    (listening ++ .call (.waitEvents ⟨1⟩ 1 .any .indefinite) :: disturbed)
  obtain ⟨idle, outcome, signals, begun, hidle, hcall, hafter, -, hreturns⟩ := hcalls hrule _ _ _ rfl
  have hparks : (run { kernel := .ofConfig small } listening >>=
      (call · (.waitEvents ⟨1⟩ 1 .any .indefinite))).toOption.map (fun p =>
        (p.1, recount (Fortune.note (.events ⟨1⟩ 1 .any)) p.2.2 disturbed {})) =
      some (.blocked 1, { ended := false, interrupted := true }) := by decide +kernel
  obtain ⟨⟨_, _, _⟩, hcall', hfacts⟩ := exists_of_run hidle hparks
  cases hcall.symm.trans hcall'
  obtain ⟨rfl, hfortune⟩ := Prod.mk.inj hfacts
  have hend : (run { kernel := .ofConfig small }
      (listening ++ .call (.waitEvents ⟨1⟩ 1 .any .indefinite) :: disturbed) >>=
        Except.ok).toOption.map (fun system => system.ready[0]?) =
      some (some { number := 1, wait := .events ⟨1⟩ 1 .any }) := by decide +kernel
  obtain ⟨_, hsame, hready⟩ := exists_of_run hrun hend
  cases hsame
  obtain ⟨answer, signals', next, hresume, hiff⟩ := hreturns 1 rfl 0 _ hready rfl
  dsimp only at hiff hfortune
  rw [hfortune] at hiff
  obtain rfl := hiff.2 ⟨rfl, rfl⟩
  exact ⟨hvalid, hrule, system, signals', next, hrun, hresume, hclean.resume 0 _ _ _ hresume⟩

/-- A sleep of a task begins. -/
def dozing : List Move := [.call (.allocateTask "task" {}), .call (.sleep ⟨1⟩ 5)]

/-- It is told to give up, and the task sleeps anew before the first sleep looks. -/
def roused : List Move := [.call (.interruptTask ⟨1⟩), .call (.sleep ⟨1⟩ 5)]

/-- The second sleep takes the interrupt: it returns that it was interrupted without having been blocked,
and the first one, which was told to give up, returns as if its time had passed. No two calls have been
blocked on the task at once. -/
theorem roused_takes_interrupt : small.fault? = none ∧
    Along Orderly { kernel := .ofConfig small } (dozing ++ roused ++ [.resume 0]) ∧
    ∃ begun told taken next signals signals' signals'',
      run { kernel := .ofConfig small } dozing = .ok begun ∧
      begun.parked = [{ number := 0, wait := .sleep ⟨1⟩ }] ∧
      begun.call (.interruptTask ⟨1⟩) = .ok (.returned (.ok (.flag true)), signals, told) ∧
      told.call (.sleep ⟨1⟩ 5) = .ok (.returned (.error .interrupted), signals', taken) ∧
      recount (Fortune.note (.sleep ⟨1⟩)) begun roused {} = { ended := false, interrupted := true } ∧
      taken.resume 0 = .ok (some ({ number := 0, wait := .sleep ⟨1⟩ }, some (.ok .done)), signals'', next) := by
  have hvalid : small.fault? = none := by decide
  have hrule : Along Orderly { kernel := .ofConfig small } (dozing ++ roused ++ [.resume 0]) := by
    decide +kernel
  obtain ⟨begun, hbegun, -⟩ := run_wellFormed hvalid dozing
  have hdozes : (run { kernel := .ofConfig small } dozing >>= Except.ok).toOption.map (fun begun =>
      (begun.parked, recount (Fortune.note (.sleep ⟨1⟩)) begun roused {})) =
      some ([{ number := 0, wait := .sleep ⟨1⟩ }], { ended := false, interrupted := true }) := by
    decide +kernel
  obtain ⟨_, hsame, hfacts⟩ := exists_of_run hbegun hdozes
  cases hsame
  obtain ⟨hparked, hfortune⟩ := Prod.mk.inj hfacts
  have htells : (run { kernel := .ofConfig small } dozing >>= (call · (.interruptTask ⟨1⟩))).toOption.map
      (·.1) = some (.returned (.ok (.flag true))) := by decide +kernel
  obtain ⟨⟨_, signals, told⟩, htold, rfl⟩ := exists_of_run hbegun htells
  have htakes : (run { kernel := .ofConfig small } (dozing ++ [.call (.interruptTask ⟨1⟩)]) >>=
      (call · (.sleep ⟨1⟩ 5))).toOption.map (·.1) = some (.returned (.error .interrupted)) := by
    decide +kernel
  obtain ⟨⟨_, signals', taken⟩, htaken, rfl⟩ := exists_of_run (run_call hbegun htold) htakes
  have hlooks : (run { kernel := .ofConfig small }
      (dozing ++ [.call (.interruptTask ⟨1⟩)] ++ [.call (.sleep ⟨1⟩ 5)]) >>= (resume · 0)).toOption.map
      (·.1) = some (some ({ number := 0, wait := .sleep ⟨1⟩ }, some (.ok .done))) := by decide +kernel
  obtain ⟨⟨_, signals'', next⟩, hnext, rfl⟩ := exists_of_run (run_call (run_call hbegun htold) htaken) hlooks
  exact ⟨hvalid, hrule, begun, told, taken, next, signals, signals', signals'', hbegun, hparked, htold,
    htaken, hfortune, hnext⟩

end System

end Executive
