/-
Message queues: named entries of a fixed table. Each has a depth, the number of messages it holds
at most, and a chain of containers from the shared pool. A queue may be bound to a task, which then
gets an event with every post.
-/
import Executive.Event
import Executive.Message.Pool
import Executive.Registry

namespace Executive

/-- Where a posted message goes. -/
inductive PostMode where
  /-- Behind all messages. -/
  | fifo
  /-- Before all messages. -/
  | jam
  deriving DecidableEq, Repr

/-- Which of several waiters of a queue is meant to be served first. A queue has one waiter at most,
so the choice is recorded and nothing else. -/
inductive WaiterOrder where
  | fifo
  | priority
  deriving DecidableEq, Repr

/-- The events that every post to a queue also posts to a task. -/
structure Binding where
  task : TaskId
  events : EventBits
  deriving DecidableEq, Repr

/-- How a queue is created. -/
structure QueueOptions where
  depth : Nat
  binding : Option Binding := none
  order : WaiterOrder := .fifo
  deriving DecidableEq, Repr

/-- An entry of the queue table. -/
structure Queue where
  busy : Bool := false
  name : String := ""
  depth : Nat := 0
  /-- The number of messages held. -/
  count : Nat := 0
  binding : Option Binding := none
  order : WaiterOrder := .fifo
  /-- A receiver is blocked and no message has been posted since. -/
  waiting : Bool := false
  /-- The blocked receiver is to give up. -/
  interrupted : Bool := false
  /-- The number of deletions of this entry, modulo `2 ^ 64`, by which a blocked receiver can tell
  that its queue is gone. -/
  generation : UInt64 := 0
  chain : Chain := {}
  deriving DecidableEq, Repr

instance : Named Queue := ⟨Queue.busy, Queue.name⟩

/-- The table of all queues and the containers they share. -/
structure QueueTable where
  queues : Array Queue
  pool : MessagePool
  deriving DecidableEq, Repr

namespace QueueTable

/-- A table of vacant entries over a pool of free containers. -/
def ofSize (queues messages : Nat) : QueueTable where
  queues := Array.replicate queues {}
  pool := .ofSize messages

/-- The queue in use under a number. -/
def get (table : QueueTable) (id : QueueId) : Except Error Queue :=
  match Registry.get? table.queues id.index with
  | some queue => .ok queue
  | none => .error (.invalidQueue id)

/-- The queue in use under a name. -/
def find (table : QueueTable) (name : String) : Except Error QueueId :=
  match Registry.find? table.queues name with
  | some i => .ok ⟨i⟩
  | none => .error .invalidName

/-- The numbers of the queues in use. -/
def live (table : QueueTable) : List QueueId :=
  (Registry.inUse table.queues).map (⟨·.1⟩)

/-- Gives the first vacant entry to a new and empty queue. The entry keeps its generation. -/
def create (table : QueueTable) (name : String) (options : QueueOptions) :
    Except Error (QueueId × QueueTable) := do
  let i ← Registry.place table.queues name .noFreeQueue
  let queues := table.queues.modify i fun old =>
    { busy := true, name, depth := options.depth, binding := options.binding, order := options.order
      generation := old.generation }
  return (⟨i⟩, { table with queues })

/-- Moves the containers of a chain to the free ones, first to last, `count` of them at most. -/
def reclaim (chain : Chain) (pool : MessagePool) : (count : Nat) → Checked (Chain × MessagePool)
  | 0 => return (chain, pool)
  | count + 1 => do
    match ← chain.popFront pool.containers with
    | (none, _, _) => return (chain, pool)
    | (some i, chain, containers) =>
      reclaim chain (← { pool with containers }.give i) count

/-- Makes an entry vacant and drops its messages; the result holds whether a receiver was waiting. A
chain has no more members than there are containers. -/
def delete (table : QueueTable) (id : QueueId) : Checked (Bool × QueueTable) := do
  let queue ← Checked.read table.queues id.index
  let (chain, pool) ← reclaim queue.chain table.pool table.pool.containers.size
  let queues ← Checked.write table.queues id.index { queue with
    chain, busy := false, count := 0, waiting := false, interrupted := false, binding := none
    generation := queue.generation + 1 }
  return (queue.waiting, { queues, pool })

/-- Adds a message to a queue that is not full, in a container from the pool. -/
def push (table : QueueTable) (id : QueueId) (message : Message) (mode : PostMode) :
    ExceptT Error Checked QueueTable := do
  let queue ← table.get id
  if queue.depth ≤ queue.count then throw .queueFull
  match ← table.pool.take message with
  | (none, _) => throw .noFreeMessage
  | (some i, pool) =>
    let (chain, containers) ← match mode with
      | .fifo => queue.chain.pushBack pool.containers i
      | .jam => queue.chain.pushFront pool.containers i
    let queues ← Checked.write table.queues id.index { queue with chain, count := queue.count + 1 }
    return { queues, pool := { pool with containers } }

/-- Takes the first message out of the queue in an entry. -/
def pop (table : QueueTable) (id : QueueId) : Checked (Option Message × QueueTable) := do
  let queue ← Checked.read table.queues id.index
  match ← queue.chain.popFront table.pool.containers with
  | (none, _, _) => return (none, table)
  | (some i, chain, containers) =>
    let count ← Checked.sub queue.count 1
    let message := (← Checked.read containers i).message
    let pool ← { table.pool with containers }.give i
    let queues ← Checked.write table.queues id.index { queue with chain, count }
    return (some message, { queues, pool })

end QueueTable

end Executive
