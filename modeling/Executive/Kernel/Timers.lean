/-
Operations on application timers, and what a timer does when it fires.
-/
import Executive.Kernel.Queues

namespace Executive.Kernel

open Critical

/-- Creates an idle timer that will act on a target. -/
def createTimer (target : TimerTarget) : Service TimerId := do
  let (id, timers) ← (← kernel).timers.create target
  setTimers timers
  report (.timerCreated id target)
  return id

/-- Lets a timer fire in a number of ticks, and again after each period; a running timer starts
anew. -/
def startTimer (id : TimerId) (delay : Nat) (reload : Option Nat) : Service Unit := do
  let timer ← (← kernel).timers.get id
  setTimer id (some { timer with phase := .active (Timer.period? reload) })
  arm ((← kernel).timerObject id) delay (.fireTimer id)
  report (.timerStarted id delay reload)

/-- Stops a timer. One that is not running gives an error, and is idle after it. -/
def abortTimer (id : TimerId) : Service Unit := do
  let timer ← (← kernel).timers.get id
  setTimer id (some { timer with phase := .idle })
  match timer.phase with
  | .active _ => disarm ((← kernel).timerObject id)
  | .fired => throw .timerExpired
  | .idle => throw .timerIdle

/-- Stops a timer and makes its entry vacant. -/
def deleteTimer (id : TimerId) : Service Unit := do
  let _ ← (← kernel).timers.get id
  setTimer id none
  disarm ((← kernel).timerObject id)
  report (.timerDeleted id)

/-- The state of an entry of the timer table. -/
def timerState (id : TimerId) : Service TimerState := do
  (← kernel).timers.state id

/-- Acts on the target of a timer. -/
def actOn : TimerTarget → Service Unit
  | .event task events => postEvents task events
  | .message queue message => postMessage queue message .fifo

/-- Lets an expired timer fire. A timer that was stopped, deleted or started anew after its object
expired is left alone. -/
def fireTimer (id : TimerId) : Service Unit := do
  let object := (← kernel).timerObject id
  if ← (← kernel).heap.isScheduled object then return
  match (← kernel).timers.get id with
  | .ok { target, phase := .active reload } =>
    match reload with
    | none => setTimer id (some { target, phase := .fired })
    | some period => arm object period (.fireTimer id)
    report (.timerFired id)
    actOn target
  | _ => return

end Executive.Kernel
