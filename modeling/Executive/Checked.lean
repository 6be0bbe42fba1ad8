/-
Guarded arithmetic and table access. Reading or writing an array, taking one count from another
and bringing a number into a range either have a result or name the rule that was broken; in a
well-formed kernel none of the rules is ever broken.
-/

namespace Executive

/-- A rule of table access or of arithmetic that an operation broke. -/
inductive Trap where
  /-- No entry of the table has that position. -/
  | outOfRange
  /-- More was to be taken away than there was. -/
  | underflow
  /-- The lower end of a range lies above its upper end. -/
  | emptyRange
  deriving DecidableEq, Repr

/-- A result, or the rule that was broken on the way to it. -/
abbrev Checked := Except Trap

namespace Checked

variable {α : Type}

/-- Entry `i` of a table. -/
def read (xs : Array α) (i : Nat) : Checked α :=
  if h : i < xs.size then .ok xs[i] else .error .outOfRange

/-- The table with entry `i` replaced. -/
def write (xs : Array α) (i : Nat) (x : α) : Checked (Array α) :=
  if h : i < xs.size then .ok (xs.set i x h) else .error .outOfRange

/-- The table with entry `i` changed by `f`. -/
def update (xs : Array α) (i : Nat) (f : α → α) : Checked (Array α) :=
  if i < xs.size then .ok (xs.modify i f) else .error .outOfRange

/-- The difference `a - b`, which a count smaller than `b` does not have. -/
def sub (a b : Nat) : Checked Nat :=
  if b ≤ a then .ok (a - b) else .error .underflow

/-- The number of `lo..hi` nearest to `n`. -/
def clamp (n lo hi : Nat) : Checked Nat :=
  if lo ≤ hi then .ok (max lo (min n hi)) else .error .emptyRange

end Checked

end Executive
