/-
Scripts: scenarios for a system, played step by step. After each step of a script the ready calls
go on until none is ready; between the steps of a batch, or of a window, they do not. A window is
what happens in a delivery of ticks between the moment when an object was taken out and its action.
-/
import Executive.System

namespace Executive

/-- A step of a script. -/
inductive Step where
  | call (operation : Operation)
  | advance (delta : Nat)
  /-- A delivery of ticks with a window for each of the first objects that it takes out. -/
  | advanceThrough (delta : Nat) (windows : List (List Step))
  /-- A ticker that delivers single ticks until a number of them has been delivered in all. -/
  | ticker (target : Nat)
  | batch (steps : List Step)

namespace Script

/-- The result of a step. -/
inductive Result where
  | returned (result : Except Error Value)
  | blocked (call : Nat)
  /-- The results of the window of each object that a delivery took out. -/
  | windows (results : List (List Result))
  | tickerStopped
  | batch (results : List Result)

/-- Why a script cannot be played to its end. -/
inductive Halt where
  | trap (trap : Trap)
  /-- A delivery of ticks takes out objects that are due again at once, without an end. -/
  | unending
  deriving DecidableEq, Repr

/-- The system that a script is played on, and the records since the current step began. -/
structure Stage where
  system : System
  records : List Record := []

/-- A part of a script being played. -/
abbrev Play := StateT Stage (Except Halt)

namespace Play

/-- Adds a record. -/
def report (record : Record) : Play Unit :=
  modify fun stage => { stage with records := stage.records ++ [record] }

/-- Makes a move and keeps its records. -/
def move {α : Type} (f : System → Checked (α × List Signal × System)) : Play α := do
  let stage ← get
  match f stage.system with
  | .error trap => throw (.trap trap)
  | .ok (value, signals, system) =>
    let records := signals.filterMap fun
      | .report record => some record
      | .notify _ => none
    set { stage with system, records := stage.records ++ records }
    return value

/-- The system as it is. -/
def system : Play System := return (← get).system

/-- Calls an operation. -/
def call (operation : Operation) : Play Result := do
  match ← move (·.call operation) with
  | .returned result => return .returned result
  | .blocked number => return .blocked number

/-- Does the action that the latest delivery has taken out and takes out the next due object; the
result says whether there was one. -/
def actAndProceed : Play Bool := do
  move fun system => return ((), ← system.act 0)
  return (← move (·.proceed 0)).isSome

/-- Lets the latest delivery take out `limit` objects at most, the one at hand included, until no
object is due; the result is their number. -/
def deliver : (limit : Nat) → Play Nat
  | 0 => throw .unending
  | limit + 1 => do
    if ← actAndProceed then return (← deliver limit) + 1
    else return 1

/-- Lets the latest delivery go on. If it ends, it takes out no object twice from here on. -/
def finish : Play Nat := do
  deliver ((← system).kernel.heap.inUse + 1)

/-- Delivers ticks. -/
def advance (delta : Nat) : Play Unit := do
  if (← move (·.beginAdvance delta)).isSome then
    let _ ← finish

/-- Delivers a number of single ticks. -/
def tickTimes : (count : Nat) → Play Unit
  | 0 => return
  | count + 1 => do
    advance 1
    tickTimes count

/-- Runs a ticker until `target` ticks have been delivered in all. -/
def ticker (target : Nat) : Play Unit := do
  let kernel := (← system).kernel
  report (.tickerStarted kernel.config.ticksPerSec)
  tickTimes (target - kernel.heap.ticks)
  report .tickerStopped

mutual

/-- Plays a step. -/
def step : Step → Play Result
  | .call operation => call operation
  | .advance delta => do
    advance delta
    return .returned (.ok .done)
  | .advanceThrough delta windows => do
    if (← move (·.beginAdvance delta)).isSome then return .windows (← through windows)
    else return .windows []
  | .ticker target => do
    ticker target
    return .tickerStopped
  | .batch list => return .batch (← steps list)

/-- Plays steps one after the other. -/
def steps : List Step → Play (List Result)
  | [] => return []
  | first :: rest => do
    let result ← step first
    return result :: (← steps rest)

/-- Lets the latest delivery go on through windows, and then to its end. -/
def through : List (List Step) → Play (List (List Result))
  | [] => return List.replicate (← finish) []
  | window :: rest => do
    let results ← steps window
    if ← actAndProceed then return results :: (← through rest)
    else return [results]

end

/-- Lets the calls that are ready now look again, in order. -/
def settle : (count : Nat) → Play (List (Nat × Except Error Value))
  | 0 => return []
  | count + 1 => do
    match ← move (·.resume 0) with
    | some (call, some result) => return (call.number, result) :: (← settle count)
    | _ => settle count

end Play

/-- What a script is to show. -/
structure View where
  /-- Snapshots after each step. -/
  snapshots : Bool := false
  /-- Records down to this level. -/
  level : Option Level := none

/-- The records that a view includes. -/
def View.select (view : View) (records : List Record) : Option (List Record) :=
  view.level.map fun level => records.filter (level.includes ·.level)

/-- What a step of a script shows. -/
structure Entry where
  result : Result
  /-- The blocked calls that returned during the step, with their results. -/
  woken : List (Nat × Except Error Value)
  records : Option (List Record)
  snapshots : Option (CoreSnapshot × QueueSnapshot)

/-- Plays a step of a script and lets the ready calls go on. A call that looks again makes no other
call ready, so there are as many looks as there are ready calls. -/
def Play.entry (view : View) (next : Step) : Play Entry := do
  let result ← step next
  let woken ← settle (← system).ready.length
  let stage ← get
  set { stage with records := [] }
  let kernel := stage.system.kernel
  return {
    result
    woken
    records := view.select stage.records
    snapshots := if view.snapshots then some (kernel.coreSnapshot, kernel.queueSnapshot) else none }

/-- What a script shows. -/
structure Transcript where
  /-- The records of building the kernel. -/
  opening : Option (List Record)
  entries : List Entry
  /-- The calls that are still blocked. -/
  blocked : List Nat

/-- Plays a script on a new kernel. -/
def play (view : View) (kernel : Kernel) (script : List Step) : Except Halt Transcript := do
  let (entries, stage) ← (script.mapM (Play.entry view)).run { system := { kernel } }
  let parked := stage.system.parked.map Call.number
  return {
    opening := view.select [.started kernel.config]
    entries
    blocked := (List.range stage.system.callCount).filter parked.contains }

end Script

end Executive
