/-
What a post of a message comes to. A push does not look at the binding of the queue, so that a post which
fails for want of the bound task has done what it would do without the binding
(`MessagePosted.unbound`). A message is in the list of its queue exactly if the post has ended without an
error or with that one (`MessagePosted.enqueued_iff`).
-/
import Executive.Proofs.Kernel.Interrupts
import Executive.Proofs.Kernel.Traffic
import Executive.Proofs.QueueLists

namespace Executive

/-! ## Queues with another binding -/

namespace QueueTable

variable {table : QueueTable} {id : QueueId} {queue old : Queue} {pool : MessagePool}
  {message : Message} {mode : PostMode}

/-- The table with another binding of one of its queues. -/
def rebind (table : QueueTable) (id : QueueId) (binding : Option Binding) : QueueTable :=
  { table with queues := table.queues.modify id.index ({ · with binding }) }

theorem rebind_eq (hentry : table.queues[id.index]? = some queue) (binding : Option Binding) :
    table.rebind id binding = table.setQueue id { queue with binding } :=
  congrArg (QueueTable.mk · table.pool) (Checked.modify_of_getElem? hentry _)

theorem rebind_put (hid : id.index < table.queues.size) (binding : Option Binding) :
    (table.put id queue pool).rebind id binding = table.put id { queue with binding } pool := by
  rw [rebind_eq (getElem?_put_self hid)]
  exact put_put ..

theorem put_rebind (hget : table.get id = .ok old) (binding : Option Binding) :
    (table.rebind id binding).put id queue pool = table.put id queue pool := by
  rw [rebind_eq (get_eq_ok.1 hget).2.1]
  exact put_put ..

theorem get_rebind (hget : table.get id = .ok queue) (binding : Option Binding) :
    (table.rebind id binding).get id = .ok { queue with binding } := by
  rw [rebind_eq (get_eq_ok.1 hget).2.1]
  exact get_put hget (get_eq_ok.1 hget).2.2

/-- What a push does beside the entry of the queue: it takes a container for the message and links it into
the chain. -/
def enlist (mode : PostMode) (chain : Chain) (pool : MessagePool) (message : Message) :
    Checked (Except Error (Chain × MessagePool)) := do
  match ← pool.take message with
  | (none, _) => return .error .noFreeMessage
  | (some i, pool) =>
    let (chain, containers) ← link mode chain pool.containers i
    return .ok (chain, { pool with containers })

/-- Of the entry of the queue a push looks at its depth, its count and its chain. -/
theorem push_eq (hget : table.get id = .ok queue) (message : Message) (mode : PostMode) :
    (table.push id message mode).run =
      if queue.depth ≤ queue.count then .ok (.error .queueFull)
      else (enlist mode queue.chain table.pool message).map (·.map fun linked =>
        table.put id { queue with chain := linked.1, count := queue.count + 1 } linked.2) := by
  rw [push_of_get hget]
  split
  · rfl
  show (liftM (table.pool.take message) >>= _ : ExceptT Error Checked QueueTable).run = _
  unfold enlist
  cases table.pool.take message with
  | error => rfl
  | ok taken =>
    obtain ⟨_ | i, pool⟩ := taken
    · rfl
    rw [lift_ok, pure_bind, Checked.ok_bind]
    dsimp only
    cases link mode queue.chain pool.containers i with
    | error => rfl
    | ok linked =>
      rw [lift_ok, pure_bind, Checked.write_eq _ (lt_size_of_get hget)]
      rfl

/-- How a push to each of two queues ends: both are refused, or both take in a container. -/
inductive Pushes (message : Message) (mode : PostMode) (id : QueueId) (table : QueueTable) (queue : Queue)
    (table' : QueueTable) (queue' : Queue) : Prop
  | trapped {trap : Trap} (hpush : (table.push id message mode).run = .error trap)
    (hpush' : (table'.push id message mode).run = .error trap)
  | refused {error : Error} (hpush : (table.push id message mode).run = .ok (.error error))
    (hpush' : (table'.push id message mode).run = .ok (.error error))
  | pushed {chain : Chain} {pool : MessagePool}
    (hpush : (table.push id message mode).run =
      .ok (.ok (table.put id { queue with chain, count := queue.count + 1 } pool)))
    (hpush' : (table'.push id message mode).run =
      .ok (.ok (table'.put id { queue' with chain, count := queue'.count + 1 } pool)))

/-- Pushes to two queues that differ in nothing that a push looks at end in the same way. -/
theorem push_congr {table' : QueueTable} {queue' : Queue} (hget : table.get id = .ok queue)
    (hget' : table'.get id = .ok queue') (hpool : table'.pool = table.pool)
    (hdepth : queue'.depth = queue.depth) (hcount : queue'.count = queue.count)
    (hchain : queue'.chain = queue.chain) (message : Message) (mode : PostMode) :
    Pushes message mode id table queue table' queue' := by
  have hpush := push_eq hget message mode
  have hpush' := push_eq hget' message mode
  have hboth : queue'.depth ≤ queue'.count ↔ queue.depth ≤ queue.count := by rw [hdepth, hcount]
  by_cases hfull : queue.depth ≤ queue.count
  · rw [if_pos hfull] at hpush
    rw [if_pos (hboth.2 hfull)] at hpush'
    exact .refused hpush hpush'
  rw [if_neg hfull] at hpush
  rw [if_neg (hfull ∘ hboth.1), hchain, hpool] at hpush'
  cases hlinked : enlist mode queue.chain table.pool message with
  | error trap =>
    rw [hlinked] at hpush hpush'
    exact .trapped hpush hpush'
  | ok linked =>
    rw [hlinked] at hpush hpush'
    cases linked with
    | error => exact .refused hpush hpush'
    | ok => exact .pushed hpush hpush'

/-- A push does not look at the binding. -/
theorem push_rebind (hget : table.get id = .ok queue) (binding : Option Binding) :
    ((table.rebind id binding).push id message mode).run =
      (table.push id message mode).run.map (·.map (·.rebind id binding)) := by
  cases push_congr hget (get_rebind hget binding) rfl rfl rfl rfl message mode with
  | trapped hpush hpush' => rw [hpush, hpush']; rfl
  | refused hpush hpush' => rw [hpush, hpush']; rfl
  | @pushed chain pool hpush hpush' =>
    have hput : (table.put id { queue with chain, count := queue.count + 1 } pool).rebind id binding = _ :=
      rebind_put (lt_size_of_get hget) binding
    rw [hpush, hpush']
    refine congrArg (fun table => Except.ok (Except.ok table)) ?_
    exact (put_rebind hget binding).trans hput.symm

end QueueTable

namespace Kernel

variable {s t : Section} {id : QueueId} {message : Message} {mode : PostMode}

/-- The kernel with another binding of one of its queues. -/
def rebind (kernel : Kernel) (id : QueueId) (binding : Option Binding) : Kernel :=
  kernel.setQueues (kernel.queues.rebind id binding)

@[simp] theorem queues_rebind {kernel : Kernel} {binding : Option Binding} :
    (kernel.rebind id binding).queues = kernel.queues.rebind id binding := rfl

theorem WellFormed.rebind {kernel : Kernel} {queue : Queue} (h : kernel.WellFormed)
    (hget : kernel.queues.get id = .ok queue) (binding : Option Binding) :
    (kernel.rebind id binding).WellFormed := by
  obtain ⟨-, hentry, -⟩ := QueueTable.get_eq_ok.1 hget
  unfold Kernel.rebind
  rw [QueueTable.rebind_eq hentry]
  exact h.setQueue hentry rfl rfl rfl rfl

/-- A change of the entry makes up for another binding. -/
theorem putQueue_rebind {kernel : Kernel} {old queue : Queue} {pool : MessagePool}
    (hget : kernel.queues.get id = .ok old) (binding : Option Binding) :
    (kernel.rebind id binding).putQueue id queue pool = kernel.putQueue id queue pool :=
  congrArg kernel.setQueues (QueueTable.put_rebind hget binding)

theorem rebind_putQueue {kernel : Kernel} {queue : Queue} {pool : MessagePool}
    (hid : id.index < kernel.queues.queues.size) (binding : Option Binding) :
    (kernel.putQueue id queue pool).rebind id binding = kernel.putQueue id { queue with binding } pool :=
  congrArg kernel.setQueues (QueueTable.rebind_put hid binding)

/-- A post that fails for want of the bound task has put the message into the queue. -/
theorem MessagePosted.of_invalidTask (hwf : s.kernel.WellFormed) {task : TaskId}
    (h : MessagePosted id message mode s (.error (.invalidTask task)) t) :
    ∃ queue chain pool, s.kernel.queues.get id = .ok queue ∧
      (s.kernel.queues.push id message mode).run =
        .ok (.ok (s.kernel.queues.put id { queue with chain, count := queue.count + 1 } pool)) ∧
      t = ⟨s.kernel.putQueue id (extended queue chain) pool, s.signals ++ receiverSignals id queue⟩ := by
  cases h with
  | refused hpush => rcases push_refused hwf hpush with heq | heq | heq <;> cases heq
  | pushed hget _ hpush hbound => exact ⟨_, _, _, hget, hpush, hbound.refused_eq.2⟩

/-- A post whose push is refused is refused with it. -/
theorem MessagePosted.of_refused {r : Except Error Unit} {error : Error}
    (h : MessagePosted id message mode s r t)
    (hpush : (s.kernel.queues.push id message mode).run = .ok (.error error)) : r = .error error ∧ t = s := by
  cases h with
  | refused hrefused =>
    cases hrefused.symm.trans hpush
    exact ⟨rfl, rfl⟩
  | pushed _ _ hpushed => cases hpushed.symm.trans hpush

/-- One whose push goes through goes on with the events that go with the message. -/
theorem MessagePosted.of_pushed {queue : Queue} {chain : Chain} {pool : MessagePool} {r : Except Error Unit}
    (h : MessagePosted id message mode s r t) (hget : s.kernel.queues.get id = .ok queue)
    (hpush : (s.kernel.queues.push id message mode).run =
      .ok (.ok (s.kernel.queues.put id { queue with chain, count := queue.count + 1 } pool))) :
    BoundPosted queue.binding
      ⟨s.kernel.putQueue id (extended queue chain) pool, s.signals ++ receiverSignals id queue⟩ r t := by
  cases h with
  | refused hrefused => rw [hpush] at hrefused; cases hrefused
  | pushed hget' _ hpush' hbound =>
    cases hget.symm.trans hget'
    rw [hpush, Except.ok.injEq, Except.ok.injEq] at hpush'
    obtain ⟨hqueue, rfl⟩ := QueueTable.put_inj (QueueTable.lt_size_of_get hget) hpush'
    cases congrArg Queue.chain hqueue
    exact hbound

/-- A post to a queue without a binding ends as soon as the message is in the queue. -/
theorem MessagePosted.of_unbound {queue : Queue} {chain : Chain} {pool : MessagePool}
    {r : Except Error Unit} (h : MessagePosted id message mode s r t)
    (hget : s.kernel.queues.get id = .ok queue) (hnone : queue.binding = none)
    (hpush : (s.kernel.queues.push id message mode).run =
      .ok (.ok (s.kernel.queues.put id { queue with chain, count := queue.count + 1 } pool))) :
    r = .ok () ∧
      t = ⟨s.kernel.putQueue id (extended queue chain) pool, s.signals ++ receiverSignals id queue⟩ := by
  have hbound := h.of_pushed hget hpush
  rw [hnone] at hbound
  exact hbound

/-- A post that fails for want of the bound task does what it would do without the binding. -/
theorem MessagePosted.unbound (hwf : s.kernel.WellFormed) {task : TaskId}
    (h : MessagePosted id message mode s (.error (.invalidTask task)) t) :
    ∃ queue, s.kernel.queues.get id = .ok queue ∧
      ∀ r u, MessagePosted id message mode ⟨s.kernel.rebind id none, s.signals⟩ r u →
        r = .ok () ∧ t = ⟨u.kernel.rebind id queue.binding, u.signals⟩ := by
  obtain ⟨queue, chain, pool, hget, hpush, rfl⟩ := h.of_invalidTask hwf
  have hlt := QueueTable.lt_size_of_get hget
  have hget' : (s.kernel.rebind id none).queues.get id = .ok { queue with binding := none } :=
    QueueTable.get_rebind hget none
  have hpush' : ((s.kernel.rebind id none).queues.push id message mode).run = .ok (.ok
      ((s.kernel.rebind id none).queues.put id
        { queue with binding := none, chain, count := queue.count + 1 } pool)) := by
    rw [queues_rebind, QueueTable.push_rebind hget, hpush, QueueTable.put_rebind hget]
    exact congrArg (fun table => Except.ok (Except.ok table)) (QueueTable.rebind_put hlt none)
  refine ⟨queue, hget, fun r u hposted => ?_⟩
  obtain ⟨rfl, rfl⟩ := hposted.of_unbound hget' rfl hpush'
  refine ⟨rfl, ?_⟩
  dsimp only
  rw [putQueue_rebind hget, rebind_putQueue hlt]
  rfl

end Kernel

/-! ## Messages that are in a queue -/

/-- A message has come into the list of a queue, and a receiver that waited there waits no more; all else
in the lists is as it was. -/
def Enqueued (id : QueueId) (message : Message) (mode : PostMode) (before after : QueueLists) : Prop :=
  ∃ list, before.get id = .ok list ∧ after = before.setIfInBounds id.index
    { entry := { list.entry with count := list.entry.count + 1, waiting := false }
      messages := mode.add list.messages message }

/-- Lists into which a message has come are not what they were. -/
theorem not_enqueued_self {id : QueueId} {message : Message} {mode : PostMode} {lists : QueueLists} :
    ¬ Enqueued id message mode lists lists := by
  rintro ⟨list, hget, hsame⟩
  have hlist := QueueLists.getElem?_of_get hget
  have hnew := hlist
  rw [hsame, Array.getElem?_setIfInBounds, if_pos rfl, if_pos (Array.getElem?_eq_some_iff.1 hlist).1] at hnew
  have hlength := congrArg (fun list : QueueList => list.messages.length) (Option.some.inj hnew)
  simp only [PostMode.length_add] at hlength
  omega

/-- A push that goes through puts the message into the list. -/
theorem QueueTable.Holds.enqueued {table : QueueTable} {free : List Nat} {members : Nat → List Nat} {id : QueueId}
    {queue : Queue} {chain : Chain} {pool : MessagePool} {message : Message} {mode : PostMode}
    (h : table.Holds free members) (hget : table.get id = .ok queue)
    (hpush : (table.push id message mode).run =
      .ok (.ok (table.put id { queue with chain, count := queue.count + 1 } pool))) :
    Enqueued id message mode table.lists (table.put id (Kernel.extended queue chain) pool).lists := by
  have hlt := lt_size_of_get hget
  have hlist := get_lists table id
  rw [hget] at hlist
  obtain ⟨result, hresult, hlists⟩ := h.push_lists id message mode
  cases hpush.symm.trans hresult
  rw [QueueLists.push_of_get hlist] at hlists
  split at hlists
  · cases hlists
  split at hlists
  · cases hlists
  have hpushed := Except.ok.inj hlists
  have hentry := congrArg (·[id.index]?) hpushed
  simp only [getElem?_lists, getElem?_put_self hlt, Option.map_some, Array.getElem?_setIfInBounds, size_lists,
    hlt, if_true, Option.some.injEq] at hentry
  have hmessages : messagesFrom pool.containers pool.containers.size chain.head =
      mode.add (queue.list table.pool.containers).messages message := congrArg QueueList.messages hentry
  -- the entry that the push has left is changed once more, for the receiver
  have hextended : table.put id (Kernel.extended queue chain) pool =
      (table.put id { queue with chain, count := queue.count + 1 } pool).setQueue id
        (Kernel.extended queue chain) := (put_put ..).symm
  refine ⟨_, hlist, ?_⟩
  rw [hextended, lists_setQueue]
  refine (congrArg (Array.setIfInBounds · _ _) hpushed).trans ?_
  rw [Array.setIfInBounds_setIfInBounds]
  exact congrArg (table.lists.setIfInBounds id.index) (congrArg (QueueList.mk _) hmessages)

namespace Kernel

variable {s t : Section} {id : QueueId} {message : Message} {mode : PostMode}

theorem MessagePosted.enqueued_iff {r : Except Error Unit}
    (hwf : s.kernel.WellFormed) (h : MessagePosted id message mode s r t) :
    (r = .ok () ∨ ∃ task, r = .error (.invalidTask task)) ↔
      Enqueued id message mode s.kernel.queues.lists t.kernel.queues.lists := by
  cases h with
  | refused hpush =>
    constructor
    · rintro (heq | ⟨task, heq⟩)
      · cases heq
      · cases heq
        rcases push_refused hwf hpush with heq | heq | heq <;> cases heq
    · intro henqueued
      exact absurd henqueued not_enqueued_self
  | pushed hget _ hpush hbound =>
    obtain ⟨free, members, hholds⟩ := hwf.queues
    constructor
    · intro _
      rw [hbound.queues_eq]
      exact hholds.enqueued hget hpush
    · intro _
      cases r with
      | ok => exact Or.inl rfl
      | error =>
        obtain ⟨⟨task, rfl⟩, -⟩ := hbound.refused_eq
        exact Or.inr ⟨task, rfl⟩

/-- A post to a bound queue that succeeds has posted the events to the task. -/
theorem MessagePosted.task_received {queue : Queue} {binding : Binding}
    (hget : s.kernel.queues.get id = .ok queue) (hbinding : queue.binding = some binding)
    (h : MessagePosted id message mode s (.ok ()) t) :
    ∃ task, s.kernel.tasks.get binding.task = .ok task ∧
      t.kernel.tasks.get binding.task = .ok (task.received binding.events) := by
  cases h with
  | pushed hget' _ _ hbound =>
    cases hget.symm.trans hget'
    rw [hbinding] at hbound
    cases hbound with
    | @posted task htask =>
      obtain ⟨hpos, hentry, hbusy⟩ := TaskTable.get_eq_ok.1 htask
      refine ⟨task, htask, TaskTable.get_eq_ok.2 ⟨hpos, getElem?_setTask hentry _, ?_⟩⟩
      rw [Task.busy_received, hbusy]

end Kernel

end Executive
