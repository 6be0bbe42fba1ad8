/-
Requests to a timer heap, as data: a request has an answer and leaves a heap behind, and a list of
requests is carried out in order up to the first that breaks a rule.
-/
import Executive.TimerHeap.Schedule

namespace Executive.TimerHeap

/-- A request to a timer heap. -/
inductive Request where
  | start (id : ObjectId) (delay : Nat) (action : TimerAction)
  | delete (id : ObjectId)
  | advanceClock (delta : Nat)
  | popDue
  | drain
  | rebase
  | isScheduled (id : ObjectId)
  | isPending (id : ObjectId)
  | survey
  deriving DecidableEq, Repr

/-- The answer to a request. -/
inductive Answer where
  | done
  | flag (value : Bool)
  | popped (entry : Option (ObjectId × TimerAction))
  | drained (entries : List (ObjectId × TimerAction))
  | survey (scheduled pending : List ObjectId) (capacity : Nat)
  deriving DecidableEq, Repr

/-- Whether a start found a free slot. -/
def Start.isArmed : Start → Bool
  | .armed _ => true
  | .full => false

/-- Carries out one request. -/
def perform (heap : TimerHeap) : Request → Checked (Answer × TimerHeap)
  | .start id delay action => do
    let (start, heap) ← heap.start id delay action
    return (.flag start.isArmed, heap)
  | .delete id => return (.done, ← heap.delete id)
  | .advanceClock delta => return (.done, heap.advanceClock delta)
  | .popDue => do
    let (entry, heap) ← heap.popDue
    return (.popped entry, heap)
  | .drain => do
    let (entries, heap) ← heap.drain
    return (.drained entries, heap)
  | .rebase => return (.done, (← heap.rebase).2)
  | .isScheduled id => return (.flag (← heap.isScheduled id), heap)
  | .isPending id => return (.flag (← heap.isPending id), heap)
  | .survey =>
    return (.survey (heap.objectsWhere (·.slot != 0)) (heap.objectsWhere (·.pending)) heap.capacity,
      heap)

/-- Carries out requests in order. Each has its answer and the heap after it; a request that breaks
a rule is the last. -/
def performAll (heap : TimerHeap) : List Request → List (Checked (Answer × TimerHeap))
  | [] => []
  | request :: requests =>
    match heap.perform request with
    | .ok (answer, next) => .ok (answer, next) :: performAll next requests
    | .error trap => [.error trap]

end Executive.TimerHeap
