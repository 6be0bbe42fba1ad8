/-
The system: a kernel, the calls that are blocked on it and the deliveries of ticks in progress. It
changes by moves, each of which is one critical section. Which move comes next is not fixed, so a
list of moves is one way in which the users of the kernel may be interleaved.

A call that has to wait parks at its gate. A notification makes the calls parked at a gate ready,
those parked first coming first, and a ready call looks again whether its wait is over, and returns
or parks again behind the others.
-/
import Executive.Kernel.Operation

namespace Executive

/-- A blocked call. -/
structure Call where
  /-- Blocked calls are numbered in the order in which they first parked. -/
  number : Nat
  wait : Wait
  deriving DecidableEq, Repr

/-- A kernel and everything that is going on in it. -/
structure System where
  kernel : Kernel
  /-- The calls parked at the gates, the one parked longest first. -/
  parked : List Call := []
  /-- The notified calls that have not looked again yet, the one notified longest ago first. -/
  ready : List Call := []
  /-- The deliveries of ticks in progress, the latest first. Each holds the action of the object
  that it has taken out, until that action is done. -/
  deliveries : List (Option TimerAction) := []
  /-- The number of calls that have ever parked. -/
  callCount : Nat := 0
  deriving DecidableEq, Repr

/-- How a call ends for the time being. -/
inductive Outcome where
  | returned (result : Except Error Value)
  /-- The call parked under this number. -/
  | blocked (call : Nat)

namespace System

/-- Makes the calls parked at a gate ready. -/
def notify (system : System) (gate : Gate) : System :=
  { system with
    parked := system.parked.filter (·.wait.gate != gate)
    ready := system.ready ++ system.parked.filter (·.wait.gate == gate) }

/-- What a signal does to the calls. -/
def obey (system : System) : Signal → System
  | .notify gate => system.notify gate
  | .report _ => system

/-- Carries out a critical section, with the signals it gave and their effect. -/
def enter {α : Type} (system : System) (action : Critical α) :
    Checked (α × List Signal × System) := do
  let (value, inside) ← action.run { kernel := system.kernel }
  return (value, inside.signals,
    inside.signals.foldl obey { system with kernel := inside.kernel })

/-- Parks a call at its gate. -/
def park (system : System) (call : Call) : System :=
  { system with parked := system.parked ++ [call] }

/-- Carries out an operation until it returns or parks. -/
def call (system : System) (operation : Operation) :
    Checked (Outcome × List Signal × System) := do
  match ← system.enter (Kernel.perform operation).run with
  | (.ok (.parked wait), signals, system) =>
    let number := system.callCount
    return (.blocked number, signals, { system with callCount := number + 1 }.park { number, wait })
  | (.ok (.returned value), signals, system) => return (.returned (.ok value), signals, system)
  | (.error error, signals, system) => return (.returned (.error error), signals, system)

/-- Lets a ready call, which stands in the result, look again; without an outcome it has parked once
more. Where no call is ready at that place nothing happens. -/
def resume (system : System) (i : Nat) :
    Checked (Option (Call × Option (Except Error Value)) × List Signal × System) := do
  match system.ready[i]? with
  | none => return (none, [], system)
  | some call =>
    let system := { system with ready := system.ready.eraseIdx i }
    match ← system.enter (Kernel.resume call.wait).run with
    | (.ok (.parked wait), signals, system) =>
      return (some (call, none), signals, system.park { call with wait })
    | (.ok (.returned value), signals, system) =>
      return (some (call, some (.ok value)), signals, system)
    | (.error error, signals, system) =>
      return (some (call, some (.error error)), signals, system)

/-- Begins a delivery of ticks. It goes on if there is a due object, whose action stands in the
result. -/
def beginAdvance (system : System) (delta : Nat) :
    Checked (Option TimerAction × List Signal × System) := do
  match ← system.enter (Kernel.beginAdvance delta) with
  | (none, signals, system) => return (none, signals, system)
  | (some action, signals, system) =>
    return (some action, signals, { system with deliveries := some action :: system.deliveries })

/-- Does the action that a delivery has taken out; nothing happens where there is none. -/
def act (system : System) (i : Nat) : Checked (List Signal × System) := do
  match system.deliveries[i]? with
  | some (some action) =>
    let system := { system with deliveries := system.deliveries.set i none }
    return (← system.enter (Kernel.runAction action)).2
  | _ => return ([], system)

/-- Takes out the next due object for a delivery whose latest action is done, or ends the delivery;
nothing happens where there is none. -/
def proceed (system : System) (i : Nat) :
    Checked (Option TimerAction × List Signal × System) := do
  match system.deliveries[i]? with
  | some none =>
    match ← system.enter Kernel.nextDue with
    | (none, signals, system) =>
      return (none, signals, { system with deliveries := system.deliveries.eraseIdx i })
    | (some action, signals, system) =>
      return (some action, signals,
        { system with deliveries := system.deliveries.set i (some action) })
  | _ => return (none, [], system)

/-- One critical section of one of the users of a kernel. -/
inductive Move where
  /-- An operation is called. -/
  | call (operation : Operation)
  /-- A ready call looks again. -/
  | resume (i : Nat)
  /-- A delivery of ticks begins. -/
  | advance (delta : Nat)
  /-- A delivery does the action it has taken out. -/
  | act (i : Nat)
  /-- A delivery takes out the next due object. -/
  | proceed (i : Nat)
  deriving DecidableEq, Repr

/-- The system after a move; a move that is not possible changes nothing. -/
def step (system : System) : Move → Checked System
  | .call operation => return (← system.call operation).2.2
  | .resume i => return (← system.resume i).2.2
  | .advance delta => return (← system.beginAdvance delta).2.2
  | .act i => return (← system.act i).2
  | .proceed i => return (← system.proceed i).2.2

/-- The system after a list of moves. -/
def run (system : System) (moves : List Move) : Checked System := moves.foldlM step system

end System

end Executive
