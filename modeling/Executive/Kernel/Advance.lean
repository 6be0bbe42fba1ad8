/-
The progress of time. Ticks are delivered in several critical sections: the first moves the clock
and takes the first due object out of the heap, and then, one at a time, what the object stands for
is done and the next due object is taken out. When none is due any more the clock is rebased if
needed.
-/
import Executive.Kernel.Timers

namespace Executive.Kernel

open Critical

/-- Takes out the next due object and gives its action, or ends the delivery. -/
def nextDue : Critical (Option TimerAction) := do
  match ← (← kernel).heap.popDue with
  | (some (object, action), heap) =>
    setHeap heap
    report (.objectExpired object heap.clock)
    return some action
  | (none, heap) =>
    let (rebased, heap) ← heap.rebase
    setHeap heap
    match rebased with
    | some amount => report (.clockRebased amount)
    | none => pure ()
    return none

/-- Delivers ticks and takes out the first due object. -/
def beginAdvance (delta : Nat) : Critical (Option TimerAction) := do
  setHeap ((← kernel).heap.advanceClock delta)
  nextDue

/-- Does what an expired object stands for. An error is reported and changes nothing else. -/
def runAction : TimerAction → Critical Unit
  | .wakeTask task => notify (.task task)
  | .fireTimer timer => do
    match ← (fireTimer timer).run with
    | .ok () => return
    | .error error => report (.timerFailed timer error)

/-- All ticks ever delivered. -/
def ticks : Critical Nat := return (← kernel).heap.ticks

/-- The number of scheduled timer objects. -/
def scheduledObjects : Critical Nat := return (← kernel).heap.inUse

end Executive.Kernel
