/-
Event words and what a task waits for: a mask of bits, of which all or any must be posted.
-/

namespace Executive

/-- A word of event flags. -/
abbrev EventBits := UInt32

/-- How a mask is matched against the posted bits. -/
inductive Condition where
  /-- Every bit of the mask is posted. -/
  | all
  /-- Some bit of the mask is posted. -/
  | any
  deriving DecidableEq, Repr

namespace Condition

/-- Whether the posted bits satisfy the condition for a mask. -/
def isMet : Condition → (posted mask : EventBits) → Bool
  | .all, posted, mask => posted &&& mask == mask
  | .any, posted, mask => posted &&& mask != 0

/-- The bits that a satisfied waiter takes from the posted ones. -/
def consumed : Condition → (posted mask : EventBits) → EventBits
  | .all, _, mask => mask
  | .any, posted, mask => posted &&& mask

/-- The name under which a condition is reported. -/
def label : Condition → String
  | .all => "And"
  | .any => "Or"

end Condition

end Executive
