/-
The pool of message containers that all queues share. A container is free, and then on the chain of
free containers, or it holds a message and is on the chain of a queue. The container that has been
free the longest is taken first.
-/
import Executive.Message.Chain

namespace Executive

/-- All containers, the chain of the free ones and their number. -/
structure MessagePool where
  containers : Array Container
  free : Chain
  available : Nat
  deriving DecidableEq, Repr

namespace MessagePool

/-- A pool of free containers, chained in the order of their positions. -/
def ofSize (size : Nat) : MessagePool where
  containers := Array.ofFn fun i : Fin size =>
    { prev := if i.val = 0 then none else some (i.val - 1)
      next := if i.val + 1 < size then some (i.val + 1) else none }
  free := if size = 0 then {} else { head := some 0, tail := some (size - 1) }
  available := size

/-- Takes a container off the free ones and puts a message into it, unless none is free. -/
def take (pool : MessagePool) (message : Message) : Checked (Option Nat × MessagePool) := do
  let (taken, free, containers) ← pool.free.popFront pool.containers
  match taken with
  | none => return (none, pool)
  | some i =>
    let available ← Checked.sub pool.available 1
    let containers ← Checked.update containers i ({ · with message })
    return (some i, { containers, free, available })

/-- Empties a container and puts it behind the free ones. -/
def give (pool : MessagePool) (i : Nat) : Checked MessagePool := do
  let containers ← Checked.update pool.containers i ({ · with message := 0 })
  let (free, containers) ← pool.free.pushBack containers i
  return { containers, free, available := pool.available + 1 }

end MessagePool

end Executive
