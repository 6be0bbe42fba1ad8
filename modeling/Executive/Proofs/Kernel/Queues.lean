/-
What the operations on message queues do. A post to a queue is a push, the end of a receiver's wait
and a post of events where the queue is bound; its specification keeps the three apart.
-/
import Executive.Kernel.Queues
import Executive.Proofs.Kernel.Events
import Executive.Proofs.Kernel.WellFormed

namespace Executive.Kernel

open Critical

variable {s : Section} {id : QueueId} {queue : Queue}

/-! ## Creating and deleting -/

/-- How the creation of a queue ends. -/
inductive QueueCreated (name : String) (options : QueueOptions) (s : Section) :
    Except Error QueueId → Section → Prop
  | refused {error : Error} (hcreate : s.kernel.queues.create name options = .error error) :
    QueueCreated name options s (.error error) s
  | created {id : QueueId} {old : Queue} (hpos : 0 < id.index)
    (hentry : s.kernel.queues.queues[id.index]? = some old) (hvacant : old.busy = false) :
    QueueCreated name options s (.ok id)
      ⟨s.kernel.setQueue id (old.opened name options),
        s.signals ++ [.report (.queueCreated id name options.depth)]⟩

theorem createQueue_spec (h : s.kernel.WellFormed) (name : String) (options : QueueOptions) :
    (createQueue name options).Ends s fun r t =>
      t.kernel.WellFormed ∧ QueueCreated name options s r t := by
  simp only [createQueue, Service.ends_bind, Service.ends_lift, Service.ends_result, ends_kernel]
  cases hcreate : s.kernel.queues.create name options with
  | error error => exact ⟨h, .refused hcreate⟩
  | ok p =>
    obtain ⟨id, table⟩ := p
    obtain ⟨free, members, hholds⟩ := h.queues
    obtain ⟨hpos, old, hentry, hvacant, rfl, hholds'⟩ := QueueTable.create_spec hholds hcreate
    simp only [Service.ends_pure, ends_setQueues, ends_report]
    exact ⟨h.putQueue hholds' rfl, .created hpos hentry hvacant⟩

/-- What ends the wait of a receiver. -/
def receiverSignals (id : QueueId) (queue : Queue) : List Signal :=
  if queue.waiting = true then [.notify (.queue id)] else []

theorem dropQueue_spec (h : s.kernel.WellFormed)
    (hentry : s.kernel.queues.queues[id.index]? = some queue) :
    (dropQueue id).Ends s fun _ t => t.kernel.WellFormed ∧ ∃ pool,
      s.kernel.queues.delete id = .ok (queue.waiting, s.kernel.queues.put id queue.closed pool) ∧
      t = ⟨s.kernel.putQueue id queue.closed pool, s.signals ++ receiverSignals id queue⟩ := by
  obtain ⟨free, members, hholds⟩ := h.queues
  obtain ⟨pool, hdelete, hholds', hsame⟩ := QueueTable.delete_spec hholds hentry
  have hgate := hasGate_queue (getElem?_putQueue hentry queue.closed pool)
  simp only [dropQueue, ends_bind, ends_kernel, ends_liftM, hdelete, Except.ok.injEq,
    exists_eq_left', ends_setQueues]
  have hwf := h.putQueue hholds' hsame.size
  cases hw : queue.waiting with
  | false => simpa [receiverSignals, hw] using ⟨hwf, pool, rfl, rfl⟩
  | true => simpa [receiverSignals, hw] using ⟨hgate, hwf, pool, rfl, rfl⟩

/-- The signals of the deletion of a queue by its users. -/
def deleteSignals (id : QueueId) (queue : Queue) : List Signal :=
  (if 0 < queue.count then [.report (.messagesDropped id queue.count)] else []) ++
    receiverSignals id queue ++ [.report (.queueDeleted id)]

/-- How the deletion of a queue ends. -/
inductive QueueDeleted (id : QueueId) (s : Section) : Except Error Unit → Section → Prop
  | refused {error : Error} (hget : s.kernel.queues.get id = .error error) :
    QueueDeleted id s (.error error) s
  | deleted {queue : Queue} {pool : MessagePool} (hget : s.kernel.queues.get id = .ok queue)
    (hdelete : s.kernel.queues.delete id =
      .ok (queue.waiting, s.kernel.queues.put id queue.closed pool)) :
    QueueDeleted id s (.ok ())
      ⟨s.kernel.putQueue id queue.closed pool, s.signals ++ deleteSignals id queue⟩

theorem deleteQueue_spec (h : s.kernel.WellFormed) (id : QueueId) :
    (deleteQueue id).Ends s fun r t => t.kernel.WellFormed ∧ QueueDeleted id s r t := by
  cases hget : s.kernel.queues.get id with
  | error error => simpa [deleteQueue, hget] using ⟨h, .refused hget⟩
  | ok queue =>
    obtain ⟨-, hentry, -⟩ := QueueTable.get_eq_ok.1 hget
    simp only [deleteQueue, Service.ends_bind, Service.ends_lift, Service.ends_result, ends_kernel,
      hget, Service.ends_report_if, ends_report]
    refine Critical.Ends.mono (dropQueue_spec h hentry) ?_
    rintro _ _ ⟨hwf, pool, hdelete, rfl⟩
    refine ⟨hwf, ?_⟩
    have hdeleted := QueueDeleted.deleted hget hdelete
    unfold deleteSignals at hdeleted
    simpa only [List.append_assoc] using hdeleted

/-- Queues dropped one after the other: their entries are closed and all others stay. -/
theorem dropQueues_spec : ∀ (ids : List QueueId) (s : Section), s.kernel.WellFormed → ids.Nodup →
    (∀ id ∈ ids, id.index < s.kernel.queues.queues.size) →
    (ids.forM dropQueue).Ends s fun _ t => t.kernel.WellFormed ∧
      t.kernel = s.kernel.setQueues t.kernel.queues ∧
      (∀ i : Nat, t.kernel.queues.queues[i]? =
        if ⟨i⟩ ∈ ids then s.kernel.queues.queues[i]?.map Queue.closed else s.kernel.queues.queues[i]?) ∧
      t.signals = s.signals ++ ids.flatMap fun id =>
        receiverSignals id (s.kernel.queues.queues[id.index]?.getD {})
  | [], s, h, _, _ => by
    show (pure () : Critical Unit).Ends s _
    rw [ends_pure]
    exact ⟨h, rfl, fun i => by rw [if_neg List.not_mem_nil], by simp⟩
  | id :: ids, s, h, hnodup, hlt => by
    obtain ⟨hnew, hnodup⟩ := List.nodup_cons.1 hnodup
    obtain ⟨queue, hentry⟩ : ∃ queue, s.kernel.queues.queues[id.index]? = some queue :=
      ⟨_, Array.getElem?_eq_getElem (hlt id (List.mem_cons_self ..))⟩
    show (dropQueue id >>= fun _ => ids.forM dropQueue).Ends s _
    rw [ends_bind]
    refine Critical.Ends.mono (dropQueue_spec h hentry) ?_
    rintro _ _ ⟨hwf, pool, -, rfl⟩
    -- the other entries are as they were, so that the rest finds what it would have found
    have hother : ∀ i : Nat, i ≠ id.index → (s.kernel.putQueue id queue.closed pool).queues.queues[i]? =
        s.kernel.queues.queues[i]? := fun i hi => by
      rw [queues_putQueue, QueueTable.put, Array.getElem?_setIfInBounds, if_neg (Ne.symm hi)]
    have hself := getElem?_putQueue hentry queue.closed pool
    refine Critical.Ends.mono (dropQueues_spec ids _ hwf hnodup fun k hk => ?_) fun _ t ht => ?_
    · rw [queues_putQueue, QueueTable.put, Array.size_setIfInBounds]
      exact hlt k (List.mem_cons_of_mem _ hk)
    · obtain ⟨hwf', hkernel, hall, hsignals⟩ := ht
      refine ⟨hwf', hkernel, fun i => ?_, ?_⟩
      · rw [hall]
        by_cases hi : i = id.index
        · subst hi
          rw [if_neg hnew, if_pos (List.mem_cons_self ..), hself, hentry]; rfl
        · have hmem : QueueId.mk i ∈ id :: ids ↔ QueueId.mk i ∈ ids := by
            rw [List.mem_cons]
            constructor
            · rintro (heq | hm)
              · exact absurd (congrArg QueueId.index heq) hi
              · exact hm
            · exact Or.inr
          simp only [hother i hi, hmem]
      · have hsame : ∀ k ∈ ids, (s.kernel.putQueue id queue.closed pool).queues.queues[k.index]? =
            s.kernel.queues.queues[k.index]? := fun k hk =>
          hother k.index fun heq => hnew (by cases k; cases id; cases heq; exact hk)
        rw [hsignals, List.flatMap_cons, hentry, List.append_assoc]
        refine congrArg (fun rest => s.signals ++ (receiverSignals id queue ++ rest)) ?_
        rw [List.flatMap_def, List.flatMap_def]
        exact congrArg List.flatten (List.map_congr_left fun k hk => by rw [hsame k hk])

/-- What the deletion of all queues comes to. -/
structure AllQueuesDeleted (s : Section) (r : Except Error Unit) (t : Section) : Prop where
  result : r = .ok ()
  kernel : t.kernel = s.kernel.setQueues t.kernel.queues
  entry : ∀ i : Nat, t.kernel.queues.queues[i]? = s.kernel.queues.queues[i]?.map fun queue =>
    if queue.busy = true then queue.closed else queue
  signals : t.signals = s.signals ++ (s.kernel.queues.live.flatMap fun id =>
    receiverSignals id (s.kernel.queues.queues[id.index]?.getD {})) ++ [.report .allQueuesDeleted]

theorem deleteAllQueues_spec (h : s.kernel.WellFormed) :
    deleteAllQueues.Ends s fun r t => t.kernel.WellFormed ∧ AllQueuesDeleted s (.ok r) t := by
  obtain ⟨free, members, hholds⟩ := h.queues
  have hlive {id : QueueId} : id ∈ s.kernel.queues.live ↔ _ := QueueTable.mem_live hholds
  simp only [deleteAllQueues, ends_bind, ends_kernel, ends_report]
  refine Critical.Ends.mono (dropQueues_spec _ s h QueueTable.nodup_live fun id hid => ?_)
    fun _ t ht => ?_
  · obtain ⟨queue, hget⟩ := hlive.1 hid
    exact QueueTable.lt_size_of_get hget
  · obtain ⟨hwf, hkernel, hall, hsignals⟩ := ht
    refine ⟨hwf, rfl, hkernel, fun i => ?_, by rw [hsignals]⟩
    rw [hall]
    split
    · rename_i hmem
      obtain ⟨queue, hget⟩ := hlive.1 hmem
      obtain ⟨-, hq, hbusy⟩ := QueueTable.get_eq_ok.1 hget
      rw [hq]
      simp [hbusy]
    · rename_i hmem
      cases hq : s.kernel.queues.queues[i]? with
      | none => rfl
      | some queue =>
        have hbusy : ¬ queue.busy = true := fun hbusy =>
          hmem (hlive.2 ⟨queue, QueueTable.get_eq_ok.2 ⟨hholds.index_pos hq hbusy, hq, hbusy⟩⟩)
        simp [hbusy]

/-! ## Posting -/

/-- A push is refused, or it goes through on a queue that had room. -/
theorem push_cases (h : s.kernel.WellFormed) (id : QueueId) (message : Message) (mode : PostMode) :
    (∃ error, (s.kernel.queues.push id message mode).run = .ok (.error error)) ∨
    ∃ queue chain pool, s.kernel.queues.get id = .ok queue ∧ queue.count < queue.depth ∧
      (s.kernel.queues.push id message mode).run =
        .ok (.ok (s.kernel.queues.put id { queue with chain, count := queue.count + 1 } pool)) ∧
      (s.kernel.putQueue id { queue with chain, count := queue.count + 1 } pool).WellFormed := by
  cases hget : s.kernel.queues.get id with
  | error error => exact Or.inl ⟨error, QueueTable.push_of_get_error hget⟩
  | ok queue =>
    rcases Nat.lt_or_ge queue.count queue.depth with hroom | hfull
    · obtain ⟨free, members, hholds⟩ := h.queues
      cases free with
      | nil => exact Or.inl ⟨_, QueueTable.push_exhausted hholds hget hroom⟩
      | cons i free =>
        obtain ⟨chain, pool, hpush, hholds', hre⟩ := QueueTable.push_spec hholds hget hroom
        exact Or.inr ⟨queue, chain, pool, rfl, hroom, hpush, h.putQueue hholds' hre.size⟩
    · exact Or.inl ⟨_, QueueTable.push_full hget hfull⟩

/-- The entry of a queue that a message was posted to. -/
def extended (queue : Queue) (chain : Chain) : Queue :=
  { queue with chain, count := queue.count + 1, waiting := false }

/-- How the post of events that a bound queue makes ends. -/
def BoundPosted (binding : Option Binding) (s : Section) (r : Except Error Unit) (t : Section) : Prop :=
  match binding with
  | none => r = .ok () ∧ t = s
  | some binding => EventsPosted binding.task binding.events s r t

/-- It fails with the task of the binding only, and has then done nothing. -/
theorem BoundPosted.refused_eq {binding : Option Binding} {error : Error} {t : Section}
    (h : BoundPosted binding s (.error error) t) : (∃ task, error = .invalidTask task) ∧ t = s := by
  cases binding with
  | none => cases h.1
  | some =>
    obtain ⟨rfl, rfl⟩ := EventsPosted.refused_eq h
    exact ⟨⟨_, rfl⟩, rfl⟩

/-- How a post of a message to a queue ends. -/
inductive MessagePosted (id : QueueId) (message : Message) (mode : PostMode) (s : Section) :
    Except Error Unit → Section → Prop
  | refused {error : Error}
    (hpush : (s.kernel.queues.push id message mode).run = .ok (.error error)) :
    MessagePosted id message mode s (.error error) s
  | pushed {queue : Queue} {chain : Chain} {pool : MessagePool} {r : Except Error Unit} {t : Section}
    (hget : s.kernel.queues.get id = .ok queue) (hroom : queue.count < queue.depth)
    (hpush : (s.kernel.queues.push id message mode).run =
      .ok (.ok (s.kernel.queues.put id { queue with chain, count := queue.count + 1 } pool)))
    (hbound : BoundPosted queue.binding
      ⟨s.kernel.putQueue id (extended queue chain) pool, s.signals ++ receiverSignals id queue⟩ r t) :
    MessagePosted id message mode s r t

theorem postMessage_spec (h : s.kernel.WellFormed) (id : QueueId) (message : Message)
    (mode : PostMode) :
    (postMessage id message mode).Ends s fun r t =>
      t.kernel.WellFormed ∧ MessagePosted id message mode s r t := by
  rcases push_cases h id message mode with ⟨error, hpush⟩ | ⟨queue, chain, pool, hget, hroom, hpush, hwf⟩
  · simpa [postMessage, Service.attempt, hpush] using ⟨h, .refused hpush⟩
  obtain ⟨-, hentry, hbusy⟩ := QueueTable.get_eq_ok.1 hget
  have hput : (s.kernel.queues.put id { queue with chain, count := queue.count + 1 } pool).get id =
    .ok { queue with chain, count := queue.count + 1 } := QueueTable.get_put hget hbusy
  have hpushed := getElem?_putQueue hentry { queue with chain, count := queue.count + 1 } pool
  have hgate := hasGate_queue (getElem?_putQueue hentry (extended queue chain) pool)
  have hwf' : (s.kernel.putQueue id (extended queue chain) pool).WellFormed := by
    have := @WellFormed.setQueue _ hwf id _ (extended queue chain) hpushed rfl rfl rfl rfl
    rwa [setQueue_putQueue] at this
  -- what comes next is the same whether or not a receiver was waiting
  have hrest {next : Service Unit} (hnone : queue.binding = none → next = pure ())
      (hsome : ∀ binding, queue.binding = some binding → next = postEvents binding.task binding.events) :
      next.Ends ⟨s.kernel.putQueue id (extended queue chain) pool, s.signals ++ receiverSignals id queue⟩
        fun r t => t.kernel.WellFormed ∧ MessagePosted id message mode s r t := by
    cases hb : queue.binding with
    | none =>
      rw [hnone hb, Service.ends_pure]
      exact ⟨hwf', .pushed hget hroom hpush (by rw [hb]; exact ⟨rfl, rfl⟩)⟩
    | some binding =>
      rw [hsome binding hb]
      refine (postEvents_spec ..).mono fun r t hp => ⟨hp.wellFormed hwf', ?_⟩
      exact .pushed hget hroom hpush (by rw [hb]; exact hp)
  simp only [postMessage, Service.attempt, hpush, Service.ends_bind, Service.ends_lift,
    Service.ends_checked, Service.ends_result, Except.ok.injEq, exists_eq_left', ends_kernel,
    ends_setQueues, Service.ends_pure, queues_setQueues, hput, setQueues_put]
  by_cases hw : queue.waiting = true
  · simp only [hw, reduceIte, Service.ends_bind, Service.ends_lift, ends_updateQueue, ends_notify]
    refine ⟨_, hw ▸ hpushed, ?_⟩
    rw [setQueue_putQueue]
    refine ⟨hgate, ?_⟩
    unfold receiverSignals at hrest
    rw [if_pos hw] at hrest
    exact hrest (fun hb => by simp only [hb]) fun binding hb => by simp only [hb]
  · have hsame : extended queue chain = { queue with chain, count := queue.count + 1 } := by
      unfold extended
      rw [← Bool.eq_false_iff.2 hw]
    unfold receiverSignals at hrest
    rw [if_neg hw, List.append_nil, hsame] at hrest
    rw [if_neg hw]
    exact hrest (fun hb => by simp only [hb]) fun binding hb => by simp only [hb]

/-! ## Receiving -/

/-- How the first message of a queue is taken. -/
inductive MessageTaken (id : QueueId) (s : Section) : Option Message → Section → Prop
  | empty {queue : Queue} (hentry : s.kernel.queues.queues[id.index]? = some queue)
    (hcount : queue.count = 0) : MessageTaken id s none s
  | taken {queue : Queue} {chain : Chain} {pool : MessagePool} {message : Message}
    (hentry : s.kernel.queues.queues[id.index]? = some queue) (hcount : 0 < queue.count)
    (hpop : s.kernel.queues.pop id = .ok (some message,
      s.kernel.queues.put id { queue with chain, count := queue.count - 1 } pool)) :
    MessageTaken id s (some message)
      ⟨s.kernel.putQueue id { queue with chain, count := queue.count - 1 } pool, s.signals⟩

theorem takeMessage?_spec (h : s.kernel.WellFormed)
    (hentry : s.kernel.queues.queues[id.index]? = some queue) :
    (takeMessage? id).Ends s fun r t => t.kernel.WellFormed ∧ MessageTaken id s r t := by
  obtain ⟨free, members, hholds⟩ := h.queues
  have hqueue := hholds.queue id.index queue hentry
  cases hlist : members id.index with
  | nil =>
    rw [hlist] at hqueue
    simp only [takeMessage?, ends_bind, ends_kernel, ends_liftM, ends_setQueues, ends_pure,
      QueueTable.pop_nil hentry hqueue, Except.ok.injEq, exists_eq_left']
    exact ⟨h, .empty hentry hqueue.count⟩
  | cons i list =>
    obtain ⟨container, chain, pool, -, hpop, hholds', hre⟩ := QueueTable.pop_cons hholds hentry hlist
    simp only [takeMessage?, ends_bind, ends_kernel, ends_liftM, ends_setQueues, ends_pure, hpop,
      Except.ok.injEq, exists_eq_left']
    refine ⟨h.putQueue hholds' hre.size, .taken hentry ?_ hpop⟩
    rw [hqueue.count, hlist]; exact Nat.succ_pos _

/-- How a blocked receive that looks again ends for the time being. -/
inductive ReceiveResumed (id : QueueId) (generation : UInt64) (s : Section) :
    Except Error (Progress Message) → Section → Prop
  | lost {queue : Queue} (hentry : s.kernel.queues.queues[id.index]? = some queue)
    (hlost : queue.generation ≠ generation) :
    ReceiveResumed id generation s (.error .queueDeleted)
      ⟨s.kernel, s.signals ++ [.report (.queueLost id)]⟩
  | served {queue : Queue} {message : Message} {t : Section}
    (hentry : s.kernel.queues.queues[id.index]? = some queue) (hkept : queue.generation = generation)
    (hwaiting : queue.waiting = false)
    (htaken : MessageTaken id ⟨s.kernel.setQueue id { queue with interrupted := false }, s.signals⟩
      (some message) t) : ReceiveResumed id generation s (.ok (.returned message)) t
  | unserved {queue : Queue} {t : Section}
    (hentry : s.kernel.queues.queues[id.index]? = some queue) (hkept : queue.generation = generation)
    (hwaiting : queue.waiting = false)
    (htaken : MessageTaken id ⟨s.kernel.setQueue id { queue with interrupted := false }, s.signals⟩
      none t) : ReceiveResumed id generation s (.error .wokenWithoutMessage) t
  | interrupted {queue : Queue} (hentry : s.kernel.queues.queues[id.index]? = some queue)
    (hkept : queue.generation = generation) (hwaiting : queue.waiting = true)
    (hinterrupted : queue.interrupted = true) :
    ReceiveResumed id generation s (.error .interrupted)
      ⟨s.kernel.setQueue id { queue with interrupted := false, waiting := false },
        s.signals ++ [.report (.receiveInterrupted id)]⟩
  | waits {queue : Queue} (hentry : s.kernel.queues.queues[id.index]? = some queue)
    (hkept : queue.generation = generation) (hwaiting : queue.waiting = true)
    (hinterrupted : queue.interrupted = false) :
    ReceiveResumed id generation s (.ok (.parked (.message id generation))) s

theorem resumeReceive_spec (h : s.kernel.WellFormed) (generation : UInt64)
    (hentry : s.kernel.queues.queues[id.index]? = some queue) :
    (resumeReceive id generation).Ends s fun r t =>
      t.kernel.WellFormed ∧ ReceiveResumed id generation s r t := by
  simp only [resumeReceive, Service.ends_bind, Service.ends_lift, ends_queueEntry, hentry,
    Option.some.injEq, exists_eq_left']
  by_cases hgen : queue.generation = generation
  · subst hgen
    cases hw : queue.waiting with
    | false =>
      have hwf : (s.kernel.setQueue id { queue with interrupted := false }).WellFormed :=
        h.setQueue hentry rfl rfl rfl rfl
      have hentry' := getElem?_putQueue hentry { queue with interrupted := false } s.kernel.queues.pool
      simp only [bne_self_eq_false, Bool.false_eq_true, Bool.not_false, reduceIte,
        Service.ends_bind, Service.ends_lift, ends_updateQueue, hentry, Option.some.injEq,
        exists_eq_left']
      refine Critical.Ends.mono (takeMessage?_spec hwf hentry') fun message t htaken => ?_
      cases message with
      | none => exact (Service.ends_throw _).2 ⟨htaken.1, .unserved hentry rfl hw htaken.2⟩
      | some message => exact (Service.ends_pure _).2 ⟨htaken.1, .served hentry rfl hw htaken.2⟩
    | true =>
      cases hi : queue.interrupted with
      | false => simpa [hw, hi] using ⟨h, .waits hentry rfl hw hi⟩
      | true =>
        have hwf : (s.kernel.setQueue id { queue with interrupted := false, waiting := false }).WellFormed :=
          h.setQueue hentry rfl rfl rfl rfl
        simpa [hw, hi, hentry] using ⟨hwf, .interrupted hentry rfl hw hi⟩
  · simpa [hgen] using ⟨h, .lost hentry hgen⟩

/-- How a receive ends for the time being. -/
inductive Received (id : QueueId) (timeout : Timeout) (s : Section) :
    Except Error (Progress Message) → Section → Prop
  | refused {error : Error} (hget : s.kernel.queues.get id = .error error) :
    Received id timeout s (.error error) s
  | served {queue : Queue} {message : Message} {t : Section} (hget : s.kernel.queues.get id = .ok queue)
    (htaken : MessageTaken id s (some message) t) : Received id timeout s (.ok (.returned message)) t
  | empty {queue : Queue} (hget : s.kernel.queues.get id = .ok queue) (hcount : queue.count = 0)
    (htimeout : timeout = .noBlock) : Received id timeout s (.error .queueEmpty) s
  | interrupted {queue : Queue} (hget : s.kernel.queues.get id = .ok queue) (hcount : queue.count = 0)
    (htimeout : timeout ≠ .noBlock) (hinterrupted : queue.interrupted = true) :
    Received id timeout s (.error .interrupted)
      ⟨s.kernel.setQueue id { queue with interrupted := false, waiting := false },
        s.signals ++ [.report (.receiveInterrupted id)]⟩
  | waits {queue : Queue} (hget : s.kernel.queues.get id = .ok queue) (hcount : queue.count = 0)
    (htimeout : timeout ≠ .noBlock) (hinterrupted : queue.interrupted = false) :
    Received id timeout s (.ok (.parked (.message id queue.generation)))
      ⟨s.kernel.setQueue id { queue with waiting := true }, s.signals⟩

theorem receive_spec (h : s.kernel.WellFormed) (id : QueueId) (timeout : Timeout) :
    (receive id timeout).Ends s fun r t => t.kernel.WellFormed ∧ Received id timeout s r t := by
  cases hget : s.kernel.queues.get id with
  | error error => simpa [receive, hget] using ⟨h, .refused hget⟩
  | ok queue =>
    obtain ⟨-, hentry, -⟩ := QueueTable.get_eq_ok.1 hget
    simp only [receive, Service.ends_bind, Service.ends_lift, Service.ends_result, ends_kernel, hget]
    refine Critical.Ends.mono (takeMessage?_spec h hentry) ?_
    rintro message t ⟨hwf, htaken⟩
    cases message with
    | some message => exact (Service.ends_pure _).2 ⟨hwf, .served hget htaken⟩
    | none =>
      cases htaken with
      | empty hentry' hcount =>
        rw [hentry] at hentry'
        cases hentry'
        by_cases htimeout : timeout = .noBlock
        · subst htimeout
          exact (Service.ends_throw _).2 ⟨hwf, .empty hget hcount rfl⟩
        · have hwf' : (s.kernel.setQueue id { queue with waiting := true }).WellFormed :=
            h.setQueue hentry rfl rfl rfl rfl
          have hentry' := getElem?_putQueue hentry { queue with waiting := true } s.kernel.queues.pool
          simp only [htimeout, reduceIte, Service.ends_bind, Service.ends_lift, ends_updateQueue,
            hentry, Option.some.injEq, exists_eq_left']
          refine Service.Ends.mono (resumeReceive_spec
            (s := ⟨s.kernel.setQueue id { queue with waiting := true }, s.signals⟩) hwf'
            queue.generation hentry') fun r t hr => ⟨hr.1, ?_⟩
          -- the queue that the receiver looks at is the one it has just begun to wait for
          have hentry₁ {found : Queue} (hfound : (s.kernel.setQueue id
              { queue with waiting := true }).queues.queues[id.index]? = some found) :
              found = { queue with waiting := true } := Option.some.inj (hfound.symm.trans hentry')
          cases hr.2 with
          | lost hfound hlost => exact absurd (by rw [hentry₁ hfound]) hlost
          | served hfound _ hw => rw [hentry₁ hfound] at hw; cases hw
          | unserved hfound _ hw => rw [hentry₁ hfound] at hw; cases hw
          | interrupted hfound hkept hw hi =>
            rw [hentry₁ hfound] at hi ⊢
            simpa using Received.interrupted hget hcount htimeout hi
          | waits hfound hkept hw hi =>
            rw [hentry₁ hfound] at hi
            exact .waits hget hcount htimeout hi

/-- How an interrupt of the receiver of a queue ends. -/
inductive ReceiverInterrupted (id : QueueId) (s : Section) : Except Error Bool → Section → Prop
  | refused {error : Error} (hget : s.kernel.queues.get id = .error error) :
    ReceiverInterrupted id s (.error error) s
  | unblocked {queue : Queue} (hget : s.kernel.queues.get id = .ok queue)
    (hwaiting : queue.waiting = false) : ReceiverInterrupted id s (.ok false) s
  | interrupted {queue : Queue} (hget : s.kernel.queues.get id = .ok queue)
    (hwaiting : queue.waiting = true) :
    ReceiverInterrupted id s (.ok true)
      ⟨s.kernel.setQueue id { queue with interrupted := true }, s.signals ++ [.notify (.queue id)]⟩

theorem interruptReceiver_spec (h : s.kernel.WellFormed) (id : QueueId) :
    (interruptReceiver id).Ends s fun r t => t.kernel.WellFormed ∧ ReceiverInterrupted id s r t := by
  cases hget : s.kernel.queues.get id with
  | error error => simpa [interruptReceiver, hget] using ⟨h, .refused hget⟩
  | ok queue =>
    obtain ⟨-, hentry, -⟩ := QueueTable.get_eq_ok.1 hget
    have hgate := hasGate_queue
      (getElem?_putQueue hentry { queue with interrupted := true } s.kernel.queues.pool)
    have hwf : (s.kernel.setQueue id { queue with interrupted := true }).WellFormed :=
      h.setQueue hentry rfl rfl rfl rfl
    cases hw : queue.waiting with
    | false => simpa [interruptReceiver, hget, hw] using ⟨h, .unblocked hget hw⟩
    | true =>
      have hinterrupted := ReceiverInterrupted.interrupted hget hw
      simp only [hw] at hgate hwf hinterrupted
      simpa [interruptReceiver, hget, hw, hentry] using ⟨hgate, hwf, hinterrupted⟩

/-! ## Questions -/

theorem identifyQueue_spec (name : String) :
    (identifyQueue name).Ends s fun r t => r = s.kernel.queues.find name ∧ t = s := by
  simp [identifyQueue]

theorem queueLength_spec (id : QueueId) :
    (queueLength id).Ends s fun r t => r = (s.kernel.queues.get id).map Queue.count ∧ t = s := by
  cases hget : s.kernel.queues.get id with
  | error error => simp [queueLength, hget, Except.map]
  | ok queue => simp [queueLength, hget, Except.map]

theorem freeContainers_spec :
    freeContainers.Ends s fun r t => r = s.kernel.queues.pool.available ∧ t = s := by
  simp [freeContainers]

end Executive.Kernel
