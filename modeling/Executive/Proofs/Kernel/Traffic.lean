/-
What critical sections do to a queue, as its users see it: one section creates it, posts a message to
it, takes one from it or deletes it, or has nothing to do with it. Which of these it does can be told
from the operation and its result (`Operation.traffic` and the like), and `Handles` says what then
becomes of the messages in the entry and of its generation.
-/
import Executive.Proofs.QueueLists
import Executive.Proofs.Kernel.Frames

namespace Executive

/-! ## Slots -/

/-- An entry of the queue table as its users see it. -/
structure Slot where
  /-- There is a queue in the entry. -/
  busy : Bool := false
  generation : UInt64 := 0
  /-- The messages of the queue, first to last. -/
  messages : List Message := []
  deriving DecidableEq, Repr

/-- A bounded list without the parts that its users do not see. -/
def QueueList.slot (list : QueueList) : Slot := ⟨list.entry.busy, list.entry.generation, list.messages⟩

namespace QueueTable

/-- What is in an entry; there is nothing outside the table. -/
def slot (table : QueueTable) (id : QueueId) : Slot :=
  (table.lists[id.index]?.map QueueList.slot).getD {}

/-- Whether a push would go through. -/
def accepts (table : QueueTable) (id : QueueId) (message : Message) (mode : PostMode) : Bool :=
  match (table.push id message mode).run with
  | .ok (.ok _) => true
  | _ => false

variable {table table' : QueueTable} {free : List Nat} {members : Nat → List Nat} {id other : QueueId}
  {queue new : Queue} {message : Message} {mode : PostMode}

theorem slot_eq (hentry : table.queues[id.index]? = some queue) : table.slot id =
    ⟨queue.busy, queue.generation, (queue.list table.pool.containers).messages⟩ := by
  unfold slot
  rw [getElem?_lists, hentry]; rfl

theorem slot_of_none (hnone : table.queues[id.index]? = none) : table.slot id = {} := by
  unfold slot
  rw [getElem?_lists, hnone]; rfl

theorem slot_of_empty (hentry : table.queues[id.index]? = some queue) (hchain : queue.chain = {}) :
    table.slot id = ⟨queue.busy, queue.generation, []⟩ := by
  rw [slot_eq hentry]
  unfold Queue.list
  rw [hchain]
  exact congrArg _ (messagesFrom_none ..)

/-- A vacant entry has no messages. -/
theorem Holds.chain_vacant (h : table.Holds free members)
    (hentry : table.queues[id.index]? = some queue) (hvacant : queue.busy = false) :
    queue.chain = {} := by
  have hqueue := h.queue id.index queue hentry
  rw [hqueue.vacant hvacant] at hqueue
  exact hqueue.chain.eq_empty

/-- A queue counts its messages. -/
theorem Holds.length_slot (h : table.Holds free members) (hentry : table.queues[id.index]? = some queue) :
    (table.slot id).messages.length = queue.count := by
  have hqueue := h.queue id.index queue hentry
  rw [slot_eq hentry, hqueue.list_eq, List.length_map, hqueue.count]

/-- A queue that holds messages is in use. -/
theorem Holds.get_of_messages (h : table.Holds free members) (hmessages : (table.slot id).messages ≠ []) :
    ∃ queue, table.get id = .ok queue ∧ queue.count ≠ 0 := by
  cases hentry : table.queues[id.index]? with
  | none => exact absurd (congrArg Slot.messages (slot_of_none hentry)) hmessages
  | some queue =>
    have hcount : queue.count ≠ 0 := by
      rw [← h.length_slot hentry]
      exact fun hnone => hmessages (List.length_eq_zero_iff.1 hnone)
    have hbusy : queue.busy = true := by
      by_contra hvacant
      have hqueue := h.queue id.index queue hentry
      rw [hqueue.count, hqueue.vacant (Bool.eq_false_iff.2 hvacant)] at hcount
      exact hcount rfl
    exact ⟨queue, get_eq_ok.2 ⟨h.index_pos hentry hbusy, hentry, hbusy⟩, hcount⟩

/-- The entry of one list is replaced. -/
theorem slot_of_set {list : QueueList} (h : table'.lists = table.lists.setIfInBounds id.index list)
    (hid : id.index < table.queues.size) :
    table'.slot other = if id = other then list.slot else table.slot other := by
  unfold slot
  rw [h, Array.getElem?_setIfInBounds, size_lists, if_pos hid]
  split
  · rename_i heq
    rw [if_pos (by cases id; cases other; cases heq; rfl)]; rfl
  · rename_i hne
    rw [if_neg (by rintro rfl; exact hne rfl)]

/-- The users of a queue see nothing of its flags. -/
theorem slot_put_congr {pool : MessagePool} (hbusy : new.busy = queue.busy)
    (hgeneration : new.generation = queue.generation) (hchain : new.chain = queue.chain) :
    (table.put id new pool).slot other = (table.put id queue pool).slot other := by
  unfold slot
  rw [getElem?_lists, getElem?_lists, QueueTable.put, QueueTable.put, Array.getElem?_setIfInBounds,
    Array.getElem?_setIfInBounds]
  split
  · split
    · simp [QueueList.slot, Queue.list, hbusy, hgeneration, hchain]
    · rfl
  · rfl

theorem slot_setQueue (hentry : table.queues[id.index]? = some queue) (hbusy : new.busy = queue.busy)
    (hgeneration : new.generation = queue.generation) (hchain : new.chain = queue.chain) :
    (table.setQueue id new).slot other = table.slot other :=
  (slot_put_congr hbusy hgeneration hchain).trans (by rw [put_self hentry])

/-! ## The operations of the table -/

theorem accepts_of_push {result : Except Error QueueTable}
    (h : (table.push id message mode).run = .ok result) :
    table.accepts id message mode = result.isOk := by
  unfold accepts
  rw [h]
  cases result with
  | error => rfl
  | ok => rfl

theorem Holds.slot_push (h : table.Holds free members) (hget : table.get id = .ok queue)
    (hpush : (table.push id message mode).run = .ok (.ok table')) (other : QueueId) :
    table'.slot other = if id = other
      then { table.slot id with messages := mode.add (table.slot id).messages message }
      else table.slot other := by
  obtain ⟨-, hentry, -⟩ := get_eq_ok.1 hget
  obtain ⟨result, hrun, hlists⟩ := h.push_lists id message mode
  rw [hpush] at hrun
  cases hrun
  have hlist := get_lists table id
  rw [hget] at hlist
  rw [QueueLists.push_of_get hlist] at hlists
  split at hlists
  · cases hlists
  · split at hlists
    · cases hlists
    · rw [slot_of_set (Except.ok.inj hlists) (Array.getElem?_eq_some_iff.1 hentry).1, slot_eq hentry]
      rfl

theorem Holds.slot_pop (h : table.Holds free members) (hentry : table.queues[id.index]? = some queue)
    (hpop : table.pop id = .ok (some message, table')) (other : QueueId) :
    ∃ rest, (table.slot id).messages = message :: rest ∧ table'.slot other =
      if id = other then { table.slot id with messages := rest } else table.slot other := by
  have hid := (Array.getElem?_eq_some_iff.1 hentry).1
  obtain ⟨_, _, hrun, hlists⟩ := h.pop_lists hid
  rw [hpop] at hrun
  cases hrun
  obtain ⟨entry, rest, hlist, hlists'⟩ := QueueLists.pop_eq_some hlists.symm
  have hslot : table.slot id = ⟨entry.busy, entry.generation, message :: rest⟩ := by
    unfold slot
    rw [hlist]; rfl
  rw [slot_of_set hlists' hid, hslot]
  exact ⟨rest, rfl, rfl⟩

theorem Holds.slot_delete (h : table.Holds free members)
    (hentry : table.queues[id.index]? = some queue) {waiting : Bool}
    (hdelete : table.delete id = .ok (waiting, table')) (other : QueueId) :
    table'.slot other = if id = other
      then { busy := false, generation := (table.slot id).generation + 1, messages := [] }
      else table.slot other := by
  have hid := (Array.getElem?_eq_some_iff.1 hentry).1
  obtain ⟨_, hrun, hlists⟩ := h.delete_lists hentry
  rw [hdelete] at hrun
  cases hrun
  have hlist : table.lists[id.index]? = some (queue.list table.pool.containers) := by
    rw [getElem?_lists, hentry]; rfl
  rw [QueueLists.delete, Checked.modify_of_getElem? hlist] at hlists
  rw [slot_of_set hlists hid, slot_eq hentry]
  rfl

/-- A vacant entry is given to a new queue. -/
theorem slot_create (h : table.Holds free members) (hentry : table.queues[id.index]? = some queue)
    (hvacant : queue.busy = false) (name : String) (options : QueueOptions) (other : QueueId) :
    (table.setQueue id (queue.opened name options)).slot other =
      if id = other then { table.slot id with busy := true } else table.slot other := by
  have hid := (Array.getElem?_eq_some_iff.1 hentry).1
  unfold QueueTable.setQueue
  rw [slot_of_set (h.lists_put hid (.refl _ _)) hid, slot_of_empty hentry (h.chain_vacant hentry hvacant)]
  have hempty : ((queue.opened name options).list table.pool.containers).messages = [] :=
    messagesFrom_none ..
  split
  · rw [QueueList.slot, hempty]; rfl
  · rfl

end QueueTable

/-! ## Traffic -/

/-- What is done to the queue in an entry. -/
inductive Traffic where
  | created
  | posted (message : Message) (mode : PostMode)
  | taken (message : Message)
  | deleted
  deriving DecidableEq, Repr

/-- What becomes of a slot. -/
def Traffic.Makes : Traffic → Slot → Slot → Prop
  | .created, a, b => a.busy = false ∧ a.messages = [] ∧ b = { a with busy := true }
  | .posted message mode, a, b =>
    a.busy = true ∧ b = { a with messages := mode.add a.messages message }
  | .taken message, a, b => ∃ rest, a.messages = message :: rest ∧ b = { a with messages := rest }
  | .deleted, a, b =>
    a.busy = true ∧ b = { busy := false, generation := a.generation + 1, messages := [] }

/-- A slot stays as it is where there is no traffic. -/
def Handles (a b : Slot) : Option Traffic → Prop
  | none => b = a
  | some traffic => traffic.Makes a b

/-- What an operation that returns has done to the queue in an entry. A message that has been pushed
is posted, even if the events that are to go with it are refused. -/
def Operation.traffic (id : QueueId) (kernel : Kernel) :
    Operation → Except Error Value → Option Traffic
  | .createQueue _ _, .ok (.queue queue) => if queue = id then some .created else none
  | .postMessage queue message mode, _ =>
    if queue = id ∧ kernel.queues.accepts queue message mode = true then some (.posted message mode)
    else none
  | .receive queue _, .ok (.message message) => if queue = id then some (.taken message) else none
  | .deleteQueue queue, .ok _ => if queue = id then some .deleted else none
  | .deleteAllQueues, _ => if (kernel.queues.slot id).busy = true then some .deleted else none
  | _, _ => none

/-- What a blocked call that returns has done to the queue in an entry. -/
def Wait.traffic (id : QueueId) : Wait → Except Error Value → Option Traffic
  | .message queue _, .ok (.message got) => if queue = id then some (.taken got) else none
  | _, _ => none

/-- A blocked call does nothing to a queue but take messages. -/
theorem Wait.traffic_eq_some {id : QueueId} {wait : Wait} {result : Except Error Value}
    {traffic : Traffic} (h : wait.traffic id result = some traffic) : ∃ generation got,
      wait = .message id generation ∧ result = .ok (.message got) ∧ traffic = .taken got := by
  unfold Wait.traffic at h
  split at h
  · rename_i generation got
    split at h
    · rename_i heq
      subst heq
      exact ⟨generation, got, rfl, rfl, (Option.some.inj h).symm⟩
    · cases h
  · cases h

/-- What a timer that fires does to the queue in an entry. -/
def TimerTarget.traffic (id : QueueId) (kernel : Kernel) : TimerTarget → Option Traffic
  | .event _ _ => none
  | .message queue sent =>
    if queue = id ∧ kernel.queues.accepts queue sent .fifo = true then some (.posted sent .fifo)
    else none

/-- What a delivered action has done to the queue in an entry; a timer that fires reports it. -/
def TimerAction.traffic (id : QueueId) (kernel : Kernel) (signals : List Signal) :
    TimerAction → Option Traffic
  | .wakeTask _ => none
  | .fireTimer timer =>
    if .report (.timerFired timer) ∈ signals then
      match kernel.timers.get timer with
      | .ok entry => entry.target.traffic id kernel
      | .error _ => none
    else none

theorem Handles.ite {p : Prop} [Decidable p] {a b c : Slot} {traffic : Traffic}
    (heq : b = if p then c else a) (hmakes : p → traffic.Makes a c) :
    Handles a b (if p then some traffic else none) := by
  subst heq
  split
  · exact hmakes ‹_›
  · rfl

namespace Kernel

open Critical

variable {s t : Section} {id queueId : QueueId} {free : List Nat} {members : Nat → List Nat}

/-- The queue in an entry goes through this traffic in a section. -/
abbrev Sees (id : QueueId) (s t : Section) (traffic : Option Traffic) : Prop :=
  Handles (s.kernel.queues.slot id) (t.kernel.queues.slot id) traffic

theorem sees_of_queues_eq (h : t.kernel.queues = s.kernel.queues) : Sees id s t none :=
  congrArg (QueueTable.slot · id) h

/-- The users of a queue see nothing of its flags. -/
theorem sees_setQueue {queue new : Queue} {signals : List Signal}
    (hentry : s.kernel.queues.queues[queueId.index]? = some queue) (hbusy : new.busy = queue.busy)
    (hgeneration : new.generation = queue.generation) (hchain : new.chain = queue.chain) :
    Sees id s ⟨s.kernel.setQueue queueId new, signals⟩ none :=
  QueueTable.slot_setQueue hentry hbusy hgeneration hchain

/-! ## Operations on queues -/

theorem QueueCreated.sees {name : String} {options : QueueOptions} {r : Except Error QueueId}
    (h : QueueCreated name options s r t) (hwf : s.kernel.WellFormed) :
    Sees id s t ((Operation.createQueue name options).traffic id s.kernel (r.map .queue)) := by
  obtain ⟨free, members, hholds⟩ := hwf.queues
  cases h with
  | refused => exact sees_of_queues_eq rfl
  | created _ hentry hvacant =>
    apply Handles.ite (QueueTable.slot_create hholds hentry hvacant name options id)
    rintro rfl
    rw [QueueTable.slot_of_empty hentry (hholds.chain_vacant hentry hvacant)]
    exact ⟨hvacant, rfl, rfl⟩

theorem QueueDeleted.sees {r : Except Error Unit} (h : QueueDeleted queueId s r t)
    (hwf : s.kernel.WellFormed) :
    Sees id s t ((Operation.deleteQueue queueId).traffic id s.kernel (r.map fun _ => .done)) := by
  obtain ⟨free, members, hholds⟩ := hwf.queues
  cases h with
  | refused => exact sees_of_queues_eq rfl
  | deleted hget hdelete =>
    obtain ⟨-, hentry, hbusy⟩ := QueueTable.get_eq_ok.1 hget
    apply Handles.ite (hholds.slot_delete hentry hdelete id)
    rintro rfl
    rw [QueueTable.slot_eq hentry]
    exact ⟨hbusy, rfl⟩

theorem AllQueuesDeleted.sees {r : Except Error Unit} (h : AllQueuesDeleted s r t)
    (hwf : s.kernel.WellFormed) :
    Sees id s t (Operation.deleteAllQueues.traffic id s.kernel (r.map fun _ => .done)) := by
  obtain ⟨free, members, hholds⟩ := hwf.queues
  have hentry' := h.entry id.index
  unfold Sees Operation.traffic
  cases hentry : s.kernel.queues.queues[id.index]? with
  | none =>
    rw [hentry] at hentry'
    rw [QueueTable.slot_of_none hentry, QueueTable.slot_of_none hentry']
    rfl
  | some queue =>
    rw [hentry, Option.map_some] at hentry'
    cases hbusy : queue.busy with
    | false =>
      -- a vacant entry is left alone
      have hchain := hholds.chain_vacant hentry hbusy
      rw [hbusy, if_neg Bool.false_ne_true] at hentry'
      rw [QueueTable.slot_of_empty hentry hchain, QueueTable.slot_of_empty hentry' hchain, hbusy]
      rfl
    | true =>
      rw [hbusy] at hentry'
      rw [QueueTable.slot_eq hentry, QueueTable.slot_of_empty hentry' rfl, hbusy]
      exact ⟨rfl, rfl⟩

theorem EventsPosted.queues_eq {task : TaskId} {bits : EventBits} {r : Except Error Unit}
    (h : EventsPosted task bits s r t) : t.kernel.queues = s.kernel.queues := by
  cases h with
  | refused | posted => rfl

theorem BoundPosted.queues_eq {binding : Option Binding} {r : Except Error Unit}
    (h : BoundPosted binding s r t) : t.kernel.queues = s.kernel.queues := by
  cases binding with
  | none => rw [h.2]
  | some binding => exact EventsPosted.queues_eq h

/-- A message that is pushed has been posted, whatever becomes of the events that go with it. -/
theorem MessagePosted.sees {message : Message} {mode : PostMode} {r : Except Error Unit}
    (h : MessagePosted queueId message mode s r t) (hholds : s.kernel.queues.Holds free members) :
    Sees id s t (if queueId = id ∧ s.kernel.queues.accepts queueId message mode = true
      then some (.posted message mode) else none) := by
  cases h with
  | refused hpush =>
    rw [QueueTable.accepts_of_push hpush, if_neg (fun hc => Bool.noConfusion hc.2)]
    exact sees_of_queues_eq rfl
  | @pushed queue chain pool _ _ hget _ hpush hbound =>
    rw [QueueTable.accepts_of_push hpush]
    refine Handles.ite (c := { s.kernel.queues.slot queueId with
      messages := mode.add (s.kernel.queues.slot queueId).messages message }) ?_ ?_
    · rw [hbound.queues_eq, queues_putQueue]
      have hslot := hholds.slot_push hget hpush id
      simp only [Except.isOk, Except.toBool, and_true]
      refine Eq.trans ?_ hslot
      exact QueueTable.slot_put_congr rfl rfl rfl
    · rintro ⟨rfl, -⟩
      obtain ⟨-, hentry, hbusy⟩ := QueueTable.get_eq_ok.1 hget
      rw [QueueTable.slot_eq hentry]
      exact ⟨hbusy, rfl⟩

theorem MessageTaken.sees {message : Option Message} (h : MessageTaken queueId s message t)
    (hwf : s.kernel.WellFormed) :
    Sees id s t (message.bind fun message => if queueId = id then some (.taken message) else none) := by
  obtain ⟨free, members, hholds⟩ := hwf.queues
  cases h with
  | empty => exact sees_of_queues_eq rfl
  | taken hentry _ hpop =>
    obtain ⟨rest, hmessages, hslot⟩ := hholds.slot_pop hentry hpop id
    apply Handles.ite hslot
    rintro rfl
    exact ⟨rest, hmessages, rfl⟩

theorem Received.sees {timeout : Timeout} {r : Except Error (Progress Message)}
    (h : Received queueId timeout s r t) (hwf : s.kernel.WellFormed) :
    Sees id s t (match r with
      | .ok (.returned message) => if queueId = id then some (.taken message) else none
      | _ => none) := by
  cases h with
  | refused | empty => exact sees_of_queues_eq rfl
  | served _ htaken => exact htaken.sees hwf
  | interrupted hget | waits hget =>
    exact sees_setQueue (QueueTable.get_eq_ok.1 hget).2.1 rfl rfl rfl

theorem ReceiveResumed.sees {generation : UInt64} {r : Except Error (Progress Message)}
    (h : ReceiveResumed queueId generation s r t) (hwf : s.kernel.WellFormed) :
    Sees id s t (match r with
      | .ok (.returned message) => if queueId = id then some (.taken message) else none
      | _ => none) := by
  have htake {queue : Queue} {message : Option Message}
      (hentry : s.kernel.queues.queues[queueId.index]? = some queue)
      (htaken : MessageTaken queueId
        ⟨s.kernel.setQueue queueId { queue with interrupted := false }, s.signals⟩ message t) :
      Sees id s t (message.bind fun message =>
        if queueId = id then some (.taken message) else none) := by
    have hsees : Sees id _ t _ := htaken.sees (hwf.setQueue hentry rfl rfl rfl rfl)
    have hsame : (s.kernel.setQueue queueId { queue with interrupted := false }).queues.slot id =
        s.kernel.queues.slot id := QueueTable.slot_setQueue hentry rfl rfl rfl
    rwa [Sees, hsame] at hsees
  cases h with
  | lost | waits => exact sees_of_queues_eq rfl
  | served hentry _ _ htaken => exact htake hentry htaken
  | unserved hentry _ _ htaken => exact htake hentry htaken
  | interrupted hentry => exact sees_setQueue hentry rfl rfl rfl

theorem ReceiverInterrupted.sees {r : Except Error Bool} (h : ReceiverInterrupted queueId s r t) :
    Sees id s t none := by
  cases h with
  | refused | unblocked => exact sees_of_queues_eq rfl
  | interrupted hget => exact sees_setQueue (QueueTable.get_eq_ok.1 hget).2.1 rfl rfl rfl

/-! ## What has nothing to do with queues -/

theorem TaskAllocated.queues_eq {name : String} {attributes : Attributes} {r : Except Error TaskId}
    (h : TaskAllocated name attributes s r t) : t.kernel.queues = s.kernel.queues := by
  cases h with
  | refused | allocated => rfl

theorem TaskFreed.queues_eq {task : TaskId} {r : Except Error Unit} (h : TaskFreed task s r t) :
    t.kernel.queues = s.kernel.queues := by
  cases h with
  | refused | freed => rfl

theorem TaskInterrupted.queues_eq {task : TaskId} {r : Except Error Bool}
    (h : TaskInterrupted task s r t) : t.kernel.queues = s.kernel.queues := by
  cases h with
  | refused | unblocked | interrupted => rfl

theorem Slept.queues_eq {task : TaskId} {ticks : Nat} {r : Except Error (Progress Unit)}
    (h : Slept task ticks s r t) : t.kernel.queues = s.kernel.queues := by
  cases h with
  | refused | interrupted | waits => rfl

theorem SleepResumed.queues_eq {task : TaskId} {r : Except Error (Progress Unit)}
    (h : SleepResumed task s r t) : t.kernel.queues = s.kernel.queues := by
  cases h with
  | woken | interrupted | waits => rfl

theorem EventsCleared.queues_eq {task : TaskId} {bits : EventBits} {r : Except Error Unit}
    (h : EventsCleared task bits s r t) : t.kernel.queues = s.kernel.queues := by
  cases h with
  | refused | cleared => rfl

section Events

variable {task : TaskId} {mask : EventBits} {condition : Condition}
  {r : Except Error (Progress EventBits)}

theorem EventsAwaited.queues_eq {timeout : Timeout} (h : EventsAwaited task mask condition timeout s r t) :
    t.kernel.queues = s.kernel.queues := by
  cases h with
  | refused | unmet | met | interrupted | waits => rfl

theorem EventsResumed.queues_eq (h : EventsResumed task mask condition s r t) :
    t.kernel.queues = s.kernel.queues := by
  cases h with
  | woken | interrupted | waits => rfl

end Events

section Timers

variable {timer : TimerId} {r : Except Error Unit}

theorem TimerCreated.queues_eq {target : TimerTarget} {r : Except Error TimerId}
    (h : TimerCreated target s r t) : t.kernel.queues = s.kernel.queues := by
  cases h with
  | refused | created => rfl

theorem TimerStarted.queues_eq {delay : Nat} {reload : Option Nat}
    (h : TimerStarted timer delay reload s r t) : t.kernel.queues = s.kernel.queues := by
  cases h with
  | refused | started => rfl

theorem TimerAborted.queues_eq (h : TimerAborted timer s r t) :
    t.kernel.queues = s.kernel.queues := by
  cases h with
  | refused | stopped | expired | idle => rfl

theorem TimerDeleted.queues_eq (h : TimerDeleted timer s r t) :
    t.kernel.queues = s.kernel.queues := by
  cases h with
  | refused | deleted => rfl

theorem NextDue.queues_eq {action : Option TimerAction} (h : NextDue s action t) :
    t.kernel.queues = s.kernel.queues := by
  cases h with
  | popped | idle | rebased => rfl

/-! ## Timers that post -/

theorem ActedOn.sees {target : TimerTarget} (h : ActedOn target s r t)
    (hholds : s.kernel.queues.Holds free members) : Sees id s t (target.traffic id s.kernel) := by
  cases target with
  | event => exact sees_of_queues_eq (EventsPosted.queues_eq h)
  | message => exact MessagePosted.sees h hholds

/-- A timer that fires posts its message. One that is left alone does not, and it does not report to
have fired. -/
theorem TimerFired.sees (h : TimerFired timer s r t) (hwf : s.kernel.WellFormed)
    (hnew : s.signals = []) :
    Sees id s t ((TimerAction.fireTimer timer).traffic id s.kernel t.signals) := by
  obtain ⟨free, members, hholds⟩ := hwf.queues
  have hsilent : (TimerAction.fireTimer timer).traffic id s.kernel s.signals = none :=
    if_neg (by rw [hnew]; exact List.not_mem_nil)
  have hfires {target : TimerTarget} {phase : TimerPhase}
      (hget : s.kernel.timers.get timer = .ok { target, phase })
      (hfired : .report (.timerFired timer) ∈ t.signals) :
      (TimerAction.fireTimer timer).traffic id s.kernel t.signals = target.traffic id s.kernel := by
    simp only [TimerAction.traffic, if_pos hfired, hget]
  cases h with
  | scheduled | inactive => rw [hsilent]; exact sees_of_queues_eq rfl
  | expired _ hget hact =>
    rw [hfires hget (hact.signals_prefix.subset (by simp))]
    exact hact.sees hholds
  | rearmed _ hget _ hact =>
    rw [hfires hget (hact.signals_prefix.subset (by simp))]
    exact hact.sees hholds

theorem ActionDone.sees {action : TimerAction} (h : ActionDone s action t)
    (hwf : s.kernel.WellFormed) (hnew : s.signals = []) :
    Sees id s t (action.traffic id s.kernel t.signals) := by
  cases h with
  | woken => exact sees_of_queues_eq rfl
  | fired hfired => exact hfired.sees hwf hnew
  | failed hfired =>
    have hsees : Sees id s _ _ := hfired.sees hwf hnew
    unfold TimerAction.traffic at hsees ⊢
    simpa using hsees

end Timers

/-! ## Operations and second looks -/

/-- An operation that returns does to a queue what its result says. -/
theorem Performed.sees {operation : Operation} {result : Except Error Value}
    (h : Performed s operation (result.map .returned) t) (hwf : s.kernel.WellFormed) :
    Sees id s t (operation.traffic id s.kernel result) := by
  cases operation with
  | identifyTask | taskAttributes | postedEvents | identifyQueue | queueLength | freeContainers
    | timerState | ticks | scheduledObjects | config | coreSnapshot | queueSnapshot | coreText
    | queueText =>
    obtain ⟨_, ⟨-, rfl⟩, -⟩ := h
    exact sees_of_queues_eq rfl
  | allocateTask => obtain ⟨_, h, -⟩ := h; exact sees_of_queues_eq h.queues_eq
  | freeTask => obtain ⟨_, h, -⟩ := h; exact sees_of_queues_eq h.queues_eq
  | interruptTask => obtain ⟨_, h, -⟩ := h; exact sees_of_queues_eq h.queues_eq
  | sleep => obtain ⟨_, h, -⟩ := h; exact sees_of_queues_eq h.queues_eq
  | postEvents => obtain ⟨_, h, -⟩ := h; exact sees_of_queues_eq h.queues_eq
  | postFromDriver => obtain ⟨_, h, -⟩ := h; exact sees_of_queues_eq h.queues_eq
  | clearEvents => obtain ⟨_, h, -⟩ := h; exact sees_of_queues_eq h.queues_eq
  | waitEvents => obtain ⟨_, h, -⟩ := h; exact sees_of_queues_eq h.queues_eq
  | createTimer => obtain ⟨_, h, -⟩ := h; exact sees_of_queues_eq h.queues_eq
  | startTimer => obtain ⟨_, h, -⟩ := h; exact sees_of_queues_eq h.queues_eq
  | abortTimer => obtain ⟨_, h, -⟩ := h; exact sees_of_queues_eq h.queues_eq
  | deleteTimer => obtain ⟨_, h, -⟩ := h; exact sees_of_queues_eq h.queues_eq
  | interruptReceiver => obtain ⟨_, h, -⟩ := h; exact h.sees
  | createQueue => obtain ⟨_, hcreated, rfl⟩ := Gives.result h; exact hcreated.sees hwf
  | deleteQueue => obtain ⟨_, hdeleted, rfl⟩ := Gives.result h; exact hdeleted.sees hwf
  | deleteAllQueues => obtain ⟨_, hdeleted, rfl⟩ := Gives.result h; exact hdeleted.sees hwf
  | postMessage =>
    obtain ⟨free, members, hholds⟩ := hwf.queues
    obtain ⟨_, h, -⟩ := h
    exact h.sees hholds
  | receive =>
    obtain ⟨r, hreceived, rfl⟩ := Proceeds.result h
    have hsees : Sees id s t _ := hreceived.sees hwf
    cases r with
    | error => exact hsees
    | ok => exact hsees

/-- One that parks does nothing to it. -/
theorem Performed.sees_of_parked {operation : Operation} {wait : Wait}
    (h : Performed s operation (.ok (.parked wait)) t) (hwf : s.kernel.WellFormed) :
    Sees id s t none := by
  cases operation with
  | sleep => exact sees_of_queues_eq (Proceeds.parked h).queues_eq
  | waitEvents => exact sees_of_queues_eq (Proceeds.parked h).queues_eq
  | receive => exact (Proceeds.parked h).sees hwf
  | _ => exact absurd h Gives.not_parked

/-- A receive that parks holds the generation of its queue. -/
theorem Performed.generation_of_parked {operation : Operation} {generation : UInt64}
    (h : Performed s operation (.ok (.parked (.message id generation))) t) :
    (s.kernel.queues.slot id).generation = generation := by
  cases operation with
  | sleep => cases Proceeds.parked h
  | waitEvents => cases Proceeds.parked h
  | receive =>
    cases Proceeds.parked h with
    | waits hget => rw [QueueTable.slot_eq (QueueTable.get_eq_ok.1 hget).2.1]
  | _ => exact absurd h Gives.not_parked

/-- A blocked receive that holds another generation is told that its queue is gone. -/
theorem Resumed.lost {generation : UInt64} {r : Except Error (Progress Value)}
    (h : Resumed s (.message id generation) r t)
    (hlost : (s.kernel.queues.slot id).generation ≠ generation) :
    r = .error .queueDeleted ∧ t = ⟨s.kernel, s.signals ++ [.report (.queueLost id)]⟩ := by
  obtain ⟨_, hresumed, rfl⟩ := h
  have hkept {queue : Queue} (hentry : s.kernel.queues.queues[id.index]? = some queue) :
      queue.generation ≠ generation := by
    rwa [QueueTable.slot_eq hentry] at hlost
  cases hresumed with
  | lost => exact ⟨rfl, rfl⟩
  | served hentry heq => exact absurd heq (hkept hentry)
  | unserved hentry heq => exact absurd heq (hkept hentry)
  | interrupted hentry heq => exact absurd heq (hkept hentry)
  | waits hentry heq => exact absurd heq (hkept hentry)

/-- So it takes a message from the queue of its generation only. -/
theorem Resumed.generation_of_returned {generation : UInt64} {value : Value}
    (h : Resumed s (.message id generation) (.ok (.returned value)) t) :
    (s.kernel.queues.slot id).generation = generation := by
  by_contra hlost
  cases (h.lost hlost).1

theorem Resumed.sees {wait : Wait} {result : Except Error Value}
    (h : Resumed s wait (result.map .returned) t) (hwf : s.kernel.WellFormed) :
    Sees id s t (wait.traffic id result) := by
  cases wait with
  | sleep => obtain ⟨_, h, -⟩ := h; exact sees_of_queues_eq h.queues_eq
  | events => obtain ⟨_, h, -⟩ := h; exact sees_of_queues_eq h.queues_eq
  | message =>
    obtain ⟨r, hreceived, rfl⟩ := Proceeds.result h
    have hsees : Sees id s t _ := hreceived.sees hwf
    cases r with
    | error => exact hsees
    | ok => exact hsees

end Kernel

end Executive
