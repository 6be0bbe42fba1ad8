/-
Sifting: one object of a timer heap that may be out of order with its parent or with its children
moves along a path of the tree until it is in order, and each object it passes moves one step the
other way. The moved object is written back at the end of the path.
-/
import Executive.TimerHeap.Basic

namespace Executive.TimerHeap

/-- Moves object `id`, due at `wake`, from the vacant `slot` towards the root, past each parent due
later; the result holds the slot where it comes to rest. -/
def rise (heap : TimerHeap) (id : ObjectId) (wake slot : Nat) : Checked (Nat × TimerHeap) := do
  if _inner : 1 < slot then
    let parent ← Checked.read heap.slots (slot / 2)
    if wake < (← heap.wakeOf parent) then
      let heap ← heap.place slot parent
      heap.rise id wake (slot / 2)
    else
      return (slot, ← heap.place slot id)
  else
    return (slot, ← heap.place slot id)
termination_by slot
decreasing_by omega

/-- Whether `slot` has a right child that is due before its left one; `last` is the last slot of the
heap, and the left child lies within it. -/
def rightFirst (heap : TimerHeap) (last slot : Nat) : Checked Bool := do
  if 2 * slot < last then
    return (← heap.wakeAt (2 * slot + 1)) < (← heap.wakeAt (2 * slot))
  else
    return false

/-- Moves object `id`, due at `wake`, from the vacant `slot` away from the root, past each earlier
child due before it; the result holds the slot where it comes to rest. -/
def sink (heap : TimerHeap) (last : Nat) (id : ObjectId) (wake slot : Nat) :
    Checked (Nat × TimerHeap) := do
  if _inner : 0 < slot ∧ slot ≤ last / 2 then
    let child := 2 * slot + (← heap.rightFirst last slot).toNat
    if wake ≤ (← heap.wakeAt child) then
      return (slot, ← heap.place slot id)
    else
      let heap ← heap.place slot (← Checked.read heap.slots child)
      heap.sink last id wake child
  else
    return (slot, ← heap.place slot id)
termination_by last + 1 - slot
decreasing_by omega

/-- Brings the object in `slot` into order with its parents; the result holds its new slot. -/
def siftUp (heap : TimerHeap) (slot : Nat) : Checked (Nat × TimerHeap) := do
  let id ← Checked.read heap.slots slot
  heap.rise id (← heap.wakeOf id) slot

/-- Brings the object in `slot` into order with its children; the result holds its new slot. -/
def siftDown (heap : TimerHeap) (slot : Nat) : Checked (Nat × TimerHeap) := do
  let id ← Checked.read heap.slots slot
  heap.sink heap.inUse id (← heap.wakeOf id) slot

end Executive.TimerHeap
