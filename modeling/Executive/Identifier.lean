/-
Names of things: tasks, queues and application timers are numbered by their place in a fixed
table. The number 0 belongs to no task and to no queue. An object name has between 1 and 15 bytes.
-/

namespace Executive

/-- The place of a task in the task table. -/
structure TaskId where
  index : Nat
  deriving DecidableEq, Repr

/-- The place of a queue in the queue table. -/
structure QueueId where
  index : Nat
  deriving DecidableEq, Repr

/-- The place of an application timer in the timer table. -/
structure TimerId where
  index : Nat
  deriving DecidableEq, Repr

/-- A message is one opaque word that its sender and receiver agree on. -/
abbrev Message := UInt64

/-- The longest object name, counted in bytes of UTF-8. -/
def maxNameLength : Nat := 15

/-- Whether an object may carry this name. -/
def isObjectName (name : String) : Bool :=
  0 < name.utf8ByteSize && name.utf8ByteSize ≤ maxNameLength

end Executive
