/-
Scheduling on a timer heap: starting and deleting objects, delivering ticks, taking out what is due
in the order of the due ticks, and setting the clock back without a change to what is still ahead.
-/
import Executive.TimerHeap.Sift

namespace Executive.TimerHeap

/-- Takes an object out of the heap, if it is in, and off the pending ones. The object in the last
slot fills the gap. -/
def delete (heap : TimerHeap) (id : ObjectId) : Checked TimerHeap := do
  let slot := (← Checked.read heap.objects id).slot
  let objects ← Checked.update heap.objects id ({ · with slot := 0, pending := false })
  let heap := { heap with objects }
  if slot = 0 then return heap
  let last ← Checked.read heap.slots heap.inUse
  let heap := { heap with inUse := ← Checked.sub heap.inUse 1 }
  if slot ≤ heap.inUse then
    let heap ← heap.place slot last
    let (slot, heap) ← heap.siftDown slot
    return (← heap.siftUp slot).2
  else
    return heap

/-- What became of a start. -/
inductive Start where
  /-- The object is scheduled for a clock value. -/
  | armed (wake : Nat)
  /-- There was no free slot: the object is pending and not scheduled. -/
  | full
  deriving DecidableEq, Repr

/-- Schedules an object `delay` ticks from now, where `delay` is first brought into the range from 1
to `maxTick - 1`. An object that is already scheduled is moved. -/
def start (heap : TimerHeap) (id : ObjectId) (delay : Nat) (action : TimerAction) :
    Checked (Start × TimerHeap) := do
  let heap ← heap.delete id
  let delay ← Checked.clamp delay 1 (← Checked.sub heap.maxTick 1)
  let wake := min (heap.clock + delay) clockLimit
  let objects ← Checked.update heap.objects id
    ({ · with wake, action := some action, pending := true })
  let heap := { heap with objects }
  if heap.capacity ≤ heap.inUse then return (.full, heap)
  let slot := heap.inUse + 1
  let heap ← { heap with inUse := slot }.place slot id
  return (.armed wake, (← heap.siftUp slot).2)

/-- Adds ticks to the clock and to the tick counter. -/
def advanceClock (heap : TimerHeap) (delta : Nat) : TimerHeap :=
  { heap with
    ticks := min (heap.ticks + delta) clockLimit
    clock := min (heap.clock + delta) clockLimit }

/-- Takes out the object in the root slot, if the clock has reached its due tick. -/
def popDue (heap : TimerHeap) : Checked (Option (ObjectId × TimerAction) × TimerHeap) := do
  if heap.inUse = 0 then return (none, heap)
  let root ← Checked.read heap.slots 1
  if heap.clock < (← heap.wakeOf root) then return (none, heap)
  let last ← Checked.read heap.slots heap.inUse
  let heap := { heap with inUse := ← Checked.sub heap.inUse 1 }
  let heap ←
    if 0 < heap.inUse then do
      let heap ← heap.place 1 last
      pure (← heap.siftDown 1).2
    else pure heap
  let objects ← Checked.update heap.objects root ({ · with slot := 0, pending := false })
  let action := (← Checked.read objects root).action
  return (action.map (root, ·), { heap with objects })

/-- Takes out at most `count` due objects. -/
def popDueUpTo : (count : Nat) → TimerHeap → Checked (List (ObjectId × TimerAction) × TimerHeap)
  | 0, heap => return ([], heap)
  | count + 1, heap => do
    match ← heap.popDue with
    | (none, heap) => return ([], heap)
    | (some entry, heap) =>
      let (entries, heap) ← heap.popDueUpTo count
      return (entry :: entries, heap)

/-- Takes out every due object; there are no more of them than scheduled ones. -/
def drain (heap : TimerHeap) : Checked (List (ObjectId × TimerAction) × TimerHeap) :=
  heap.popDueUpTo heap.inUse

/-- Lowers the due ticks of the objects in the slots from `slot` to `slot + count - 1`. -/
def lowerWakes (heap : TimerHeap) (amount : Nat) : (slot count : Nat) → Checked TimerHeap
  | _, 0 => return heap
  | slot, count + 1 => do
    let id ← Checked.read heap.slots slot
    let wake ← Checked.sub (← heap.wakeOf id) amount
    let objects ← Checked.update heap.objects id ({ · with wake })
    lowerWakes { heap with objects } amount (slot + 1) count

/-- Sets the clock back to 0 once it has reached `maxTick`, and every due tick back by as much; the
result holds that amount. It is meant for a heap without due objects. -/
def rebase (heap : TimerHeap) : Checked (Option Nat × TimerHeap) := do
  if heap.clock < heap.maxTick then return (none, heap)
  let lowered ← heap.lowerWakes heap.clock 1 heap.inUse
  return (some heap.clock, { lowered with clock := 0 })

end Executive.TimerHeap
