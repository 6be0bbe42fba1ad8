/-
Application timers: entries of a fixed table. A timer in use has a target on which it acts when it
fires; while it runs it may have a period after which it is armed again.
-/
import Executive.Error
import Executive.Event
import Executive.Timeout

namespace Executive

/-- On what a timer acts when it fires. -/
inductive TimerTarget where
  /-- Events are posted to a task. -/
  | event (task : TaskId) (events : EventBits)
  /-- A message is posted to a queue, behind all others. -/
  | message (queue : QueueId) (message : Message)
  deriving DecidableEq, Repr

/-- What a timer in use is doing. -/
inductive TimerPhase where
  /-- It is not running. -/
  | idle
  /-- It is running, and with a reload period it will run again. -/
  | active (reload : Option Nat)
  /-- It has run once and expired. -/
  | fired
  deriving DecidableEq, Repr

/-- A timer in use. -/
structure Timer where
  target : TimerTarget
  phase : TimerPhase := .idle
  deriving DecidableEq, Repr

/-- The state of an entry of the timer table. -/
inductive TimerState where
  | free
  | idle
  | active
  | fired
  deriving DecidableEq, Repr

/-- The state of an entry that may be vacant. -/
def TimerState.ofEntry : Option Timer → TimerState
  | none => .free
  | some timer =>
    match timer.phase with
    | .idle => .idle
    | .active _ => .active
    | .fired => .fired

/-- The period that makes a timer periodic: any but 0 and the raw word for an indefinite time. -/
def Timer.period? (reload : Option Nat) : Option Nat :=
  reload.filter fun ticks => ticks != 0 && ticks != Timeout.rawIndefinite.toNat

/-- The table of all application timers; a vacant entry holds none. -/
abbrev TimerTable := Array (Option Timer)

namespace TimerTable

/-- A table of vacant entries. -/
def ofSize (size : Nat) : TimerTable := Array.replicate size none

/-- The number of timers in use. -/
def inUse (timers : TimerTable) : Nat := timers.countP Option.isSome

/-- The timer in use under a number. -/
def get (timers : TimerTable) (id : TimerId) : Except Error Timer :=
  match timers[id.index]? with
  | some (some timer) => .ok timer
  | _ => .error (.invalidTimer id)

/-- The state of an entry, vacant ones included. -/
def state (timers : TimerTable) (id : TimerId) : Except Error TimerState :=
  match timers[id.index]? with
  | some entry => .ok (.ofEntry entry)
  | none => .error (.invalidTimer id)

/-- The first vacant entry. -/
def vacant? (timers : TimerTable) : Option Nat :=
  (List.range timers.size).find? fun i => timers[i]?.any Option.isNone

/-- Gives the first vacant entry to a new idle timer. -/
def create (timers : TimerTable) (target : TimerTarget) : Except Error (TimerId × TimerTable) :=
  match timers.vacant? with
  | some i => .ok (⟨i⟩, timers.setIfInBounds i (some { target }))
  | none => .error .noFreeTimer

end TimerTable

end Executive
