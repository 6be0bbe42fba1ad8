/-
A table of queues is a family of bounded lists (`run_keeps_lists`). `QueueTable.lists` reads the
messages of each entry along the chain, from its head on. `QueueLists` has the four operations on
such a family: a push or a pop at one entry, and the deletion and the creation of a queue. Each
operation on the table does to its lists what the one on the lists does, and so touches no list but
one.

That the other lists stay is one lemma (`Holds.lists_put`): an operation touches free containers and
those of one queue, and no other queue has any of these.
-/
import Executive.Proofs.Conservation

namespace Executive

/-! ## Bounded lists -/

/-- A queue as a bounded list: its entry with the chain left out, and its messages, first to last. -/
structure QueueList where
  entry : Queue
  messages : List Message
  deriving DecidableEq, Repr

instance : Named QueueList := ⟨(·.entry.busy), (·.entry.name)⟩

/-- The queues of a table as bounded lists. -/
abbrev QueueLists := Array QueueList

namespace QueueLists

/-- The number of messages in all lists. -/
def total (lists : QueueLists) : Nat := (lists.toList.map fun list => list.messages.length).sum

/-- The list of a queue in use. -/
def get (lists : QueueLists) (id : QueueId) : Except Error QueueList :=
  match Registry.get? lists id.index with
  | some list => .ok list
  | none => .error (.invalidQueue id)

/-- Adds a message to a list below its depth, as long as there are not `limit` messages in all. -/
def push (lists : QueueLists) (limit : Nat) (id : QueueId) (message : Message) (mode : PostMode) :
    Except Error QueueLists := do
  let list ← lists.get id
  if list.entry.depth ≤ list.messages.length then .error .queueFull
  else if lists.total = limit then .error .noFreeMessage
  else .ok (lists.setIfInBounds id.index
    { entry := { list.entry with count := list.entry.count + 1 }
      messages := mode.add list.messages message })

theorem getElem?_of_get {lists : QueueLists} {id : QueueId} {list : QueueList} (h : lists.get id = .ok list) :
    lists[id.index]? = some list := by
  unfold get at h
  split at h
  · rename_i hfound
    cases h
    exact (Registry.get?_eq_some.1 hfound).2.1
  · cases h

theorem push_of_get {lists : QueueLists} {limit : Nat} {id : QueueId} {list : QueueList}
    {message : Message} {mode : PostMode} (h : lists.get id = .ok list) :
    lists.push limit id message mode =
      if list.entry.depth ≤ list.messages.length then .error .queueFull
      else if lists.total = limit then .error .noFreeMessage
      else .ok (lists.setIfInBounds id.index
        { entry := { list.entry with count := list.entry.count + 1 }
          messages := mode.add list.messages message }) := by
  unfold push
  rw [h]; rfl

/-- Takes the first message off a list. -/
def pop (lists : QueueLists) (id : QueueId) : Option Message × QueueLists :=
  match lists[id.index]? with
  | some { entry, messages := message :: rest } =>
    (some message, lists.setIfInBounds id.index
      { entry := { entry with count := entry.count - 1 }, messages := rest })
  | _ => (none, lists)

theorem pop_eq_some {lists lists' : QueueLists} {id : QueueId} {message : Message}
    (h : lists.pop id = (some message, lists')) : ∃ entry rest,
      lists[id.index]? = some { entry, messages := message :: rest } ∧
      lists' = lists.setIfInBounds id.index
        { entry := { entry with count := entry.count - 1 }, messages := rest } := by
  unfold pop at h
  split at h
  · rename_i hlist
    simp only [Prod.mk.injEq, Option.some.injEq] at h
    obtain ⟨rfl, rfl⟩ := h
    exact ⟨_, _, hlist, rfl⟩
  · cases h

/-- Empties a list whose queue is deleted. -/
def delete (lists : QueueLists) (id : QueueId) : QueueLists :=
  lists.modify id.index fun list => { entry := list.entry.closed, messages := [] }

/-- Gives the first vacant entry an empty list. -/
def create (lists : QueueLists) (name : String) (options : QueueOptions) :
    Except Error (QueueId × QueueLists) := do
  let i ← Registry.place lists name .noFreeQueue
  return (⟨i⟩, lists.modify i fun list => { entry := list.entry.opened name options, messages := [] })

end QueueLists

/-! ## The lists of a table -/

/-- The messages from a container on, along the links to the next one, and at most `count`. -/
def messagesFrom (containers : Array Container) : (count : Nat) → (first : Option Nat) → List Message
  | 0, _ | _, none => []
  | count + 1, some i =>
    match containers[i]? with
    | some container => container.message :: messagesFrom containers count container.next
    | none => []

/-- What a queue holds; no chain has more members than there are containers. -/
def Queue.list (queue : Queue) (containers : Array Container) : QueueList where
  entry := { queue with chain := {} }
  messages := messagesFrom containers containers.size queue.chain.head

/-- What all queues hold. -/
def QueueTable.lists (table : QueueTable) : QueueLists :=
  table.queues.map (·.list table.pool.containers)

section View

variable {containers a b : Array Container} {members : List Nat} {i : Nat} {queue : Queue}

/-- The message in a container. -/
def messageAt (containers : Array Container) (i : Nat) : Message :=
  (containers[i]?.map Container.message).getD 0

@[simp] theorem messagesFrom_none (containers : Array Container) (count : Nat) :
    messagesFrom containers count none = [] := by
  cases count with
  | zero => rfl
  | succ => rfl

theorem messagesFrom_eq (members : List Nat) : ∀ {count : Nat} {before : Option Nat},
    Linked containers before members → members.length ≤ count →
    messagesFrom containers count members.head? = members.map (messageAt containers) := by
  induction members with
  | nil =>
    intro count before _ _
    exact messagesFrom_none ..
  | cons i rest ih =>
    intro count before h hle
    obtain ⟨⟨container, hi, -, hnext⟩, hrest⟩ := h
    obtain ⟨count, rfl⟩ := Nat.exists_eq_add_of_lt (Nat.lt_of_lt_of_le (Nat.succ_pos _) hle)
    rw [Nat.zero_add] at hle ⊢
    rw [List.head?_cons, messagesFrom, hi]
    dsimp only
    rw [hnext, ih hrest (Nat.le_of_succ_le_succ hle), List.map_cons, messageAt, hi]
    rfl

/-- A chain cannot have more members than there are containers. -/
theorem Chain.Holds.length_le {chain : Chain} (h : chain.Holds containers members) :
    members.length ≤ containers.size := by
  have hsub : members ⊆ List.range containers.size := fun j hj => List.mem_range.2 (h.lt_size hj)
  have := (List.subperm_of_subset h.nodup hsub).length_le
  rwa [List.length_range] at this

/-- A queue holds the messages in its members. -/
theorem Queue.Holds.list_eq (h : queue.Holds containers members) :
    queue.list containers = ⟨{ queue with chain := {} }, members.map (messageAt containers)⟩ := by
  unfold Queue.list
  rw [h.chain.head, messagesFrom_eq members h.chain.linked h.chain.length_le]

theorem messageAt_congr (h : b[i]? = a[i]?) : messageAt b i = messageAt a i := by
  unfold messageAt
  rw [h]

/-- A queue that has none of the containers that change holds what it held. -/
theorem Queue.Holds.list_congr (h : queue.Holds a members) (heq : ∀ j ∈ members, b[j]? = a[j]?) :
    queue.list b = queue.list a := by
  rw [h.list_eq, (h.congr heq).list_eq]
  exact congrArg _ (List.map_congr_left fun j hj => messageAt_congr (heq j hj))

theorem Refilled.messageAt_self {message : Message} (h : Refilled i message members a b) :
    messageAt b i = message := by
  unfold messageAt
  rw [h.self]; rfl

/-- Of the messages in the containers only one changes. -/
theorem Refilled.map_messageAt {message : Message} {list : List Nat}
    (h : Refilled i message members a b) (hi : i ∉ list) :
    list.map (messageAt b) = list.map (messageAt a) := by
  refine List.map_congr_left fun j hj => ?_
  unfold messageAt
  rw [h.others j (by rintro rfl; exact hi hj)]

theorem PostMode.map_add {α β : Type} (f : α → β) (mode : PostMode) (list : List α) (x : α) :
    (mode.add list x).map f = mode.add (list.map f) (f x) := by
  cases mode with
  | fifo => exact List.map_append
  | jam => rfl

end View

namespace QueueTable

variable {table : QueueTable} {free : List Nat} {members : Nat → List Nat} {id : QueueId}
  {queue queue' : Queue} {pool' : MessagePool}

@[simp] theorem getElem?_lists (table : QueueTable) (i : Nat) :
    table.lists[i]? = table.queues[i]?.map (·.list table.pool.containers) := Array.getElem?_map

@[simp] theorem size_lists (table : QueueTable) : table.lists.size = table.queues.size :=
  Array.size_map

theorem lists_setQueue (table : QueueTable) (id : QueueId) (queue : Queue) :
    (table.setQueue id queue).lists =
      table.lists.setIfInBounds id.index (queue.list table.pool.containers) :=
  Array.map_setIfInBounds

/-- Only the list of the queue whose entry is replaced changes. -/
theorem Holds.lists_put (h : table.Holds free members) (hid : id.index < table.queues.size)
    (hsame : SameOutside (free ++ members id.index) table.pool.containers pool'.containers) :
    (table.put id queue' pool').lists =
      table.lists.setIfInBounds id.index (queue'.list pool'.containers) := by
  refine Array.ext_getElem? fun i => ?_
  rw [getElem?_lists, QueueTable.put, Array.getElem?_setIfInBounds, Array.getElem?_setIfInBounds, size_lists,
    getElem?_lists]
  by_cases hi : id.index = i
  · rw [if_pos hi, if_pos hi, if_pos hid, if_pos hid]; rfl
  · rw [if_neg hi, if_neg hi]
    cases hqueue : table.queues[i]? with
    | none => rfl
    | some queue =>
      -- this queue has no container that is free or belongs to the changed queue
      have hlt := (Array.getElem?_eq_some_iff.1 hqueue).1
      refine congrArg some ((h.queue i queue hqueue).list_congr fun j hj => hsame.outside j ?_)
      rw [List.mem_append, not_or]
      exact ⟨h.not_mem_free hlt hj, h.not_mem_other hid hlt (Ne.symm hi) hj⟩

/-! ## Counting the messages -/

theorem Holds.total_lists (h : table.Holds free members) :
    free.length + table.lists.total = table.pool.containers.size := by
  have hlists : table.lists.toList.map (fun list => list.messages.length) =
      (List.range table.queues.size).map fun i => (members i).length := by
    refine List.ext_getElem? fun i => ?_
    rw [List.getElem?_map, Array.getElem?_toList, getElem?_lists, List.getElem?_map]
    cases hqueue : table.queues[i]? with
    | none =>
      rw [List.getElem?_eq_none]
      · rfl
      · rw [List.length_range]; exact Array.getElem?_eq_none_iff.1 hqueue
    | some queue =>
      rw [List.getElem?_range (Array.getElem?_eq_some_iff.1 hqueue).1]
      simp [(h.queue i queue hqueue).list_eq]
  have hlen := h.shared.length_eq
  rw [List.length_append, List.length_flatMap, List.length_range] at hlen
  rw [QueueLists.total, hlists]
  exact hlen

/-- There are messages in all containers exactly when none is free. -/
theorem Holds.total_eq_iff (h : table.Holds free members) :
    table.lists.total = table.pool.containers.size ↔ free = [] := by
  have := h.total_lists
  rw [← List.length_eq_zero_iff]
  omega

end QueueTable

/-! ## Looking up -/

namespace Registry

variable {α β : Type} [Named α] [Named β] {f : α → β}

omit [Named α] [Named β] in
theorem first?_map (entries : Array α) (test : β → Bool) :
    first? (entries.map f) test = first? entries fun entry => test (f entry) := by
  unfold first?
  simp only [Array.size_map, Array.getElem?_map, Option.any_map]

variable (hbusy : ∀ entry, Named.busy (f entry) = Named.busy entry)

include hbusy

theorem get?_map (entries : Array α) (i : Nat) :
    get? (entries.map f) i = (get? entries i).map f := by
  unfold get?
  split
  · rw [Array.getElem?_map]
    cases entries[i]? with
    | none => rfl
    | some entry =>
      rw [Option.map_some, Option.filter_some, Option.filter_some, hbusy]
      split
      · rfl
      · rfl
  · rfl

/-- A newcomer gets the same place in two registries in which the same names are in use. -/
theorem place_map (hname : ∀ entry, Named.name (f entry) = Named.name entry) (entries : Array α)
    (name : String) (full : Error) : place (entries.map f) name full = place entries name full := by
  unfold place find? vacant?
  simp only [first?_map, hbusy, hname]

end Registry

namespace QueueTable

variable {table : QueueTable} {free : List Nat} {members : Nat → List Nat} {id : QueueId}
  {queue : Queue}

theorem get_lists (table : QueueTable) (id : QueueId) :
    table.lists.get id = (table.get id).map (·.list table.pool.containers) := by
  unfold QueueLists.get get lists
  have hbusy (queue : Queue) :
      Named.busy (queue.list table.pool.containers) = Named.busy queue := rfl
  rw [Registry.get?_map hbusy]
  cases Registry.get? table.queues id.index with
  | none => rfl
  | some queue => rfl

/-! ## The operations -/

/-- A push to the table is a push to its lists. -/
theorem Holds.push_lists (h : table.Holds free members) (id : QueueId) (message : Message)
    (mode : PostMode) : ∃ result, (table.push id message mode).run = .ok result ∧
      result.map lists = table.lists.push table.pool.containers.size id message mode := by
  have hlists := get_lists table id
  cases hget : table.get id with
  | error error =>
    refine ⟨_, push_of_get_error hget, ?_⟩
    unfold QueueLists.push
    rw [hlists, hget]; rfl
  | ok queue =>
    obtain ⟨-, hentry, -⟩ := get_eq_ok.1 hget
    have hlt := (Array.getElem?_eq_some_iff.1 hentry).1
    have hqueue := h.queue id.index queue hentry
    have hlist := hqueue.list_eq
    rw [hget, Except.map, hlist] at hlists
    rw [QueueLists.push_of_get hlists, List.length_map, ← hqueue.count]
    rcases Nat.lt_or_ge queue.count queue.depth with hroom | hfull
    · rw [if_neg (Nat.not_le.2 hroom)]
      cases free with
      | nil =>
        refine ⟨_, push_exhausted h hget hroom, ?_⟩
        rw [if_pos (h.total_eq_iff.2 rfl)]; rfl
      | cons i free =>
        obtain ⟨chain, pool', hpush, hholds, hre⟩ :=
          @push_spec _ _ _ _ _ message mode _ h hget hroom
        refine ⟨_, hpush, ?_⟩
        have hqueue' : Queue.Holds _ pool'.containers _ :=
          hholds.queue id.index _ (getElem?_put_self hlt)
        have hnew : i ∉ members id.index := fun hm => h.not_mem_free hlt hm (List.mem_cons_self ..)
        rw [if_neg (fun heq => nomatch h.total_eq_iff.1 heq), Except.map,
          h.lists_put hlt hre.toSameOutside, hqueue'.list_eq, reassign_self, PostMode.map_add,
          hre.messageAt_self, hre.map_messageAt hnew]
    · refine ⟨_, push_full hget hfull, ?_⟩
      rw [if_pos hfull]; rfl

/-- A pop from the table is a pop from its lists. -/
theorem Holds.pop_lists (h : table.Holds free members) (hid : id.index < table.queues.size) :
    ∃ message table', table.pop id = .ok (message, table') ∧
      (message, table'.lists) = table.lists.pop id := by
  have hentry := Array.getElem?_eq_getElem hid
  have hqueue := h.queue id.index _ hentry
  unfold QueueLists.pop
  rw [getElem?_lists, hentry, Option.map_some, hqueue.list_eq]
  cases hlist : members id.index with
  | nil =>
    rw [hlist] at hqueue
    exact ⟨none, table, pop_nil hentry hqueue, rfl⟩
  | cons i list =>
    obtain ⟨container, chain, pool', hcontainer, hpop, hholds, hre⟩ := pop_cons h hentry hlist
    have hqueue' : Queue.Holds _ pool'.containers _ :=
      hholds.queue id.index _ (getElem?_put_self hid)
    have hnew : i ∉ list := by
      have := hqueue.chain.nodup
      rw [hlist] at this
      exact (List.nodup_cons.1 this).1
    have hmessage : messageAt table.pool.containers i = container.message := by
      rw [messageAt, hcontainer]; rfl
    refine ⟨_, _, hpop, ?_⟩
    rw [h.lists_put hid (by rw [hlist]; exact hre.toSameOutside), hqueue'.list_eq, reassign_self,
      hre.map_messageAt hnew, List.map_cons, hmessage]

/-- The deletion of a queue empties its list. -/
theorem Holds.delete_lists (h : table.Holds free members)
    (hentry : table.queues[id.index]? = some queue) :
    ∃ table', table.delete id = .ok (queue.waiting, table') ∧
      table'.lists = table.lists.delete id := by
  have hid := (Array.getElem?_eq_some_iff.1 hentry).1
  obtain ⟨pool', hdelete, hholds, hsame⟩ := delete_spec h hentry
  have hqueue : Queue.Holds _ pool'.containers _ :=
    hholds.queue id.index _ (getElem?_put_self hid)
  refine ⟨_, hdelete, ?_⟩
  have hlist : table.lists[id.index]? = some (queue.list table.pool.containers) := by
    rw [getElem?_lists, hentry]; rfl
  rw [h.lists_put hid hsame, hqueue.list_eq, reassign_self, QueueLists.delete,
    Checked.modify_of_getElem? hlist]
  rfl

/-- The creation of a queue gives it an empty list. -/
theorem Holds.create_lists (h : table.Holds free members) (name : String) (options : QueueOptions) :
    (table.create name options).map (fun created => (created.1, created.2.lists)) =
      table.lists.create name options := by
  have hplace : Registry.place table.lists name .noFreeQueue =
      Registry.place table.queues name .noFreeQueue := by
    have hbusy (queue : Queue) :
        Named.busy (queue.list table.pool.containers) = Named.busy queue := rfl
    have hname (queue : Queue) :
        Named.name (queue.list table.pool.containers) = Named.name queue := rfl
    exact Registry.place_map hbusy hname ..
  unfold QueueLists.create
  rw [hplace]
  cases hfree : Registry.place table.queues name .noFreeQueue with
  | error error =>
    unfold QueueTable.create
    rw [hfree]; rfl
  | ok i =>
    obtain ⟨table', hcreate⟩ : ∃ table', table.create name options = .ok (⟨i⟩, table') := by
      unfold QueueTable.create
      rw [hfree]
      exact ⟨_, rfl⟩
    obtain ⟨-, old, hentry, -, htable, hholds⟩ := create_spec h hcreate
    have hid := (Array.getElem?_eq_some_iff.1 hentry).1
    have hlist : table.lists[i]? = some (old.list table.pool.containers) := by
      rw [getElem?_lists, hentry]; rfl
    rw [hcreate, Except.map, htable, QueueTable.setQueue, h.lists_put hid (.refl _ _)]
    have hempty : (old.opened name options).list table.pool.containers =
        ⟨(old.list table.pool.containers).entry.opened name options, []⟩ :=
      congrArg (QueueList.mk _) (messagesFrom_none ..)
    show _ = Except.ok (_, _)
    rw [Checked.modify_of_getElem? hlist, hempty]

/-! ## Every run -/

/-- The lists of a table are bounded, and every operation on the table does to them what the
operation on lists does, where there are `limit` messages at most. -/
structure ActsOnLists (limit : Nat) (table : QueueTable) : Prop where
  bounded : ∀ (i : Nat) (list : QueueList), table.lists[i]? = some list →
    list.entry.count = list.messages.length ∧ list.messages.length ≤ list.entry.depth ∧
      (list.entry.busy = false → list.messages = [])
  total_le : table.lists.total ≤ limit
  push : ∀ id message mode, ∃ result, (table.push id message mode).run = .ok result ∧
    result.map lists = table.lists.push limit id message mode
  pop : ∀ id : QueueId, id.index < table.queues.size →
    ∃ message table', table.pop id = .ok (message, table') ∧
      (message, table'.lists) = table.lists.pop id
  delete : ∀ (id : QueueId) (queue : Queue), table.queues[id.index]? = some queue →
    ∃ table', table.delete id = .ok (queue.waiting, table') ∧ table'.lists = table.lists.delete id
  create : ∀ name options,
    (table.create name options).map (fun created => (created.1, created.2.lists)) =
      table.lists.create name options

theorem Holds.bounded (h : table.Holds free members) {i : Nat} {list : QueueList}
    (hlist : table.lists[i]? = some list) :
    list.entry.count = list.messages.length ∧ list.messages.length ≤ list.entry.depth ∧
      (list.entry.busy = false → list.messages = []) := by
  rw [getElem?_lists] at hlist
  obtain ⟨queue, hentry, rfl⟩ := Option.map_eq_some_iff.1 hlist
  have hqueue := h.queue i queue hentry
  rw [hqueue.list_eq, List.length_map, ← hqueue.count]
  refine ⟨rfl, hqueue.depth, fun hvacant => ?_⟩
  rw [hqueue.vacant hvacant]; rfl

theorem Holds.actsOnLists (h : table.Holds free members) :
    table.ActsOnLists table.pool.containers.size where
  bounded _ _ := h.bounded
  total_le := by have := h.total_lists; omega
  push := h.push_lists
  pop _ := h.pop_lists
  delete _ _ := h.delete_lists
  create := h.create_lists

end QueueTable

namespace System

open Kernel

variable {system : System} {error : Error}

/-- An operation is refused with an error and changes nothing. -/
def Refuses (system : System) (operation : Operation) (error : Error) : Prop :=
  system.call operation = .ok (.returned (.error error), [], system)

theorem refuses_postMessage {id : QueueId} {message : Message} {mode : PostMode}
    (hpush : (system.kernel.queues.push id message mode).run = .ok (.error error)) :
    system.Refuses (.postMessage id message mode) error :=
  call_eq_of_ends (by simp [perform, postMessage, Service.attempt, hpush, Except.map])

theorem refuses_createQueue {name : String} {options : QueueOptions}
    (hcreate : system.kernel.queues.create name options = .error error) :
    system.Refuses (.createQueue name options) error :=
  call_eq_of_ends (by simp [perform, createQueue, hcreate, Except.map])

theorem refuses_deleteQueue {id : QueueId} (hget : system.kernel.queues.get id = .error error) :
    system.Refuses (.deleteQueue id) error :=
  call_eq_of_ends (by simp [perform, deleteQueue, hget, Except.map])

theorem refuses_receive {id : QueueId} (hget : system.kernel.queues.get id = .error error)
    (timeout : Timeout) : system.Refuses (.receive id timeout) error :=
  call_eq_of_ends (by simp [perform, receive, hget, Except.map])

/-- In every state that a run reaches, each operation on the queue table does to the messages of the
queues, read along the chains, what it does to a family of bounded lists: it changes the list of one
queue, and what it is refused it leaves all as it was. -/
theorem run_keeps_lists {config : Config} (h : config.fault? = none) (moves : List Move) :
    ∃ system, run { kernel := .ofConfig config } moves = .ok system ∧
      system.kernel.queues.ActsOnLists config.maxMessages ∧
      (∀ id message mode error,
        (system.kernel.queues.push id message mode).run = .ok (.error error) →
        system.Refuses (.postMessage id message mode) error) ∧
      (∀ name options error, system.kernel.queues.create name options = .error error →
        system.Refuses (.createQueue name options) error) ∧
      ∀ id error, system.kernel.queues.get id = .error error →
        system.Refuses (.deleteQueue id) error ∧
        ∀ timeout, system.Refuses (.receive id timeout) error := by
  obtain ⟨system, hrun, hwf, rfl⟩ := run_wellFormed h moves
  obtain ⟨free, members, hholds⟩ := hwf.kernel.queues
  have hacts := hholds.actsOnLists
  rw [hwf.kernel.containers_size] at hacts
  refine ⟨system, hrun, hacts, ?_, ?_, ?_⟩
  · intro id message mode error hpush
    exact refuses_postMessage hpush
  · intro name options error hcreate
    exact refuses_createQueue hcreate
  · intro id error hget
    exact ⟨refuses_deleteQueue hget, refuses_receive hget⟩

/-- A container goes from one queue to the free ones and on to the front of the same queue. -/
def recycling : List Move :=
  [.call (.createQueue "queue" { depth := 2 }), .call (.postMessage ⟨1⟩ 7 .fifo),
    .call (.postMessage ⟨1⟩ 8 .fifo), .call (.receive ⟨1⟩ .noBlock),
    .call (.postMessage ⟨1⟩ 9 .jam)]

theorem recycling_keeps_lists :
    small.fault? = none ∧ ∃ system, run { kernel := .ofConfig small } recycling = .ok system ∧
      system.kernel.queues.lists.map (·.messages) = #[[], [9, 8]] ∧
      system.kernel.queues.ActsOnLists 2 := by
  obtain ⟨system, hrun, hacts, -⟩ :=
    run_keeps_lists (show small.fault? = none by decide) recycling
  have hmessages : (run { kernel := .ofConfig small } recycling).toOption.map
      (·.kernel.queues.lists.map (·.messages)) = some #[[], [9, 8]] := by decide +kernel
  rw [hrun] at hmessages
  exact ⟨by decide, system, hrun, Option.some.inj hmessages, hacts⟩

end System

end Executive
