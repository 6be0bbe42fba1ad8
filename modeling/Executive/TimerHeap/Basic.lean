/-
The timer heap: objects that are due at a tick, in a binary heap ordered by that tick.

An object is known by its place in a fixed arena and remembers the heap slot it sits in. The slots
are numbered from 1, and the object in slot `k` is due no later than those in the slots `2 * k` and
`2 * k + 1`. Slot 0 is no part of the heap, so an object whose slot is 0 is not scheduled.
-/
import Executive.Checked
import Executive.Identifier

namespace Executive

/-- What is to be done when an object is due. -/
inductive TimerAction where
  /-- End the sleep of a task. -/
  | wakeTask (task : TaskId)
  /-- Let an application timer act. -/
  | fireTimer (timer : TimerId)
  deriving DecidableEq, Repr

/-- The place of an object in the arena of a timer heap. -/
abbrev ObjectId := Nat

/-- An object that can be scheduled. -/
structure TimerObject where
  /-- The heap slot it sits in, 0 while it is not scheduled. -/
  slot : Nat := 0
  /-- The clock value at which it is due, if it is scheduled. -/
  wake : Nat := 0
  /-- What its latest start asked for. -/
  action : Option TimerAction := none
  /-- It was started, and has since neither expired nor been deleted. -/
  pending : Bool := false
  deriving DecidableEq, Repr, Inhabited

/-- A heap of timer objects and the clock that drives it. -/
structure TimerHeap where
  objects : Array TimerObject
  /-- The object in each slot; slot 0 and those above `inUse` mean nothing. -/
  slots : Array ObjectId
  /-- How many objects are scheduled. -/
  inUse : Nat := 0
  /-- The clock, which `rebase` sets back to 0. -/
  clock : Nat := 0
  /-- All ticks ever delivered. -/
  ticks : Nat := 0
  /-- The clock value from which on the clock is set back. -/
  maxTick : Nat
  deriving DecidableEq, Repr

namespace TimerHeap

/-- The largest value of the clock and of the tick counter, at which both stay. -/
def clockLimit : Nat := UInt64.size - 1

/-- An empty heap over `objects` objects, of which `capacity` can be scheduled at once. -/
def ofSize (objects capacity maxTick : Nat) : TimerHeap where
  objects := Array.replicate objects {}
  slots := Array.replicate (capacity + 1) 0
  maxTick := maxTick

variable (heap : TimerHeap)

/-- How many objects can be scheduled at once. -/
def capacity : Nat := heap.slots.size - 1

/-- Whether an object sits in the heap. -/
def isScheduled (id : ObjectId) : Checked Bool :=
  return (← Checked.read heap.objects id).slot != 0

/-- Whether an object waits for its expiry, even in vain for want of a free slot. -/
def isPending (id : ObjectId) : Checked Bool :=
  return (← Checked.read heap.objects id).pending

/-- The due tick of an object. -/
def wakeOf (id : ObjectId) : Checked Nat :=
  return (← Checked.read heap.objects id).wake

/-- The due tick of the object in a slot. -/
def wakeAt (slot : Nat) : Checked Nat := do
  heap.wakeOf (← Checked.read heap.slots slot)

/-- Puts an object into a slot and notes the slot in the object. -/
def place (slot : Nat) (id : ObjectId) : Checked TimerHeap := do
  let slots ← Checked.write heap.slots slot id
  let objects ← Checked.update heap.objects id ({ · with slot })
  return { heap with slots, objects }

/-- The objects that satisfy a test, in the order of the arena. -/
def objectsWhere (test : TimerObject → Bool) : List ObjectId :=
  (List.range heap.objects.size).filter fun id => heap.objects[id]?.any test

end TimerHeap

end Executive
