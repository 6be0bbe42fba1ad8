/-
Sizing and timing of an executive. Every table is built once, with the sizes given here. Task 0
and queue 0 are never handed out, so a table of tasks or of queues holds at least two entries.
-/

namespace Executive

/-- Sizes of the tables of an executive, and the rate of its clock. -/
structure Config where
  name : String := "RTX"
  maxTasks : Nat := 128
  maxQueues : Nat := 1024
  maxMessages : Nat := 16384
  maxTimerObjects : Nat := 1023
  maxAppTimers : Nat := 650
  /-- The clock value at which pending wake ticks are rebased to zero. -/
  maxTick : Nat := 0x7FFFFFFF
  ticksPerSec : Nat := 200
  deriving DecidableEq, Repr

namespace Config

/-- The highest tick rate. -/
def maxTicksPerSec : Nat := 10000

/-- The highest `maxTick`; twice as much still fits a 64-bit clock. -/
def maxTickLimit : Nat := (UInt64.size - 1) / 2

/-- A setting with a least value. -/
inductive Setting where
  | maxTasks | maxQueues | maxMessages | maxTimerObjects | maxAppTimers | maxTick
  deriving DecidableEq, Repr

/-- The name under which a setting is reported. -/
def Setting.label : Setting → String
  | .maxTasks => "max_tasks"
  | .maxQueues => "max_queues"
  | .maxMessages => "max_messages"
  | .maxTimerObjects => "max_timer_objects"
  | .maxAppTimers => "max_app_timers"
  | .maxTick => "max_tick"

/-- The value of a setting. -/
def get (config : Config) : Setting → Nat
  | .maxTasks => config.maxTasks
  | .maxQueues => config.maxQueues
  | .maxMessages => config.maxMessages
  | .maxTimerObjects => config.maxTimerObjects
  | .maxAppTimers => config.maxAppTimers
  | .maxTick => config.maxTick

/-- Why a configuration is refused. -/
inductive Fault where
  | tooSmall (setting : Setting) (least value : Nat)
  | tickRate (value : Nat)
  | tickLimit (value : Nat)
  deriving DecidableEq, Repr

/-- The wording of a refusal. -/
def Fault.message : Fault → String
  | .tooSmall setting least value => s!"{setting.label} must be at least {least}, got {value}"
  | .tickRate value => s!"ticks_per_sec must be within 1..=10000, got {value}"
  | .tickLimit value => s!"max_tick must not exceed u64::MAX / 2, got {value}"

/-- The least values, in the order in which they are checked. -/
def leastValues : List (Setting × Nat) :=
  [(.maxTasks, 2), (.maxQueues, 2), (.maxMessages, 1), (.maxTimerObjects, 1), (.maxAppTimers, 1),
    (.maxTick, 2)]

/-- The first fault of a configuration: a setting below its least value, then a clock bound or a
tick rate above its highest. -/
def fault? (config : Config) : Option Fault :=
  match leastValues.find? (fun (setting, least) => config.get setting < least) with
  | some (setting, least) => some (.tooSmall setting least (config.get setting))
  | none =>
    if maxTickLimit < config.maxTick then some (.tickLimit config.maxTick)
    else if config.ticksPerSec = 0 ∨ maxTicksPerSec < config.ticksPerSec then
      some (.tickRate config.ticksPerSec)
    else none

end Config

end Executive
