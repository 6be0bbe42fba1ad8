/-
How long a waiting call is ready to wait, and how a raw word says so.
-/

namespace Executive

/-- The patience of a waiting call. -/
inductive Timeout where
  /-- Fail rather than wait. -/
  | noBlock
  /-- Wait until woken. -/
  | indefinite
  /-- Wait for a number of ticks. -/
  | ticks (count : UInt32)
  deriving DecidableEq, Repr

namespace Timeout

/-- The raw word for `noBlock`. -/
def rawNoBlock : UInt32 := 0

/-- The raw word for `indefinite`. -/
def rawIndefinite : UInt32 := 0xFFFFFFFF

/-- The timeout that a raw word stands for; all but two words count ticks. -/
def ofRaw (raw : UInt32) : Timeout :=
  if raw = rawNoBlock then .noBlock
  else if raw = rawIndefinite then .indefinite
  else .ticks raw

end Timeout

end Executive
