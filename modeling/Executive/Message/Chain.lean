/-
Chains: doubly linked lists threaded by position through one array of containers. A container is on
at most one chain; its links are those of that chain.
-/
import Executive.Checked
import Executive.Identifier

namespace Executive

/-- A container for one message, with the links of the chain it is on. -/
structure Container where
  message : Message := 0
  prev : Option Nat := none
  next : Option Nat := none
  deriving DecidableEq, Repr

/-- The two ends of a chain, absent when it is empty. -/
structure Chain where
  head : Option Nat := none
  tail : Option Nat := none
  deriving DecidableEq, Repr

namespace Chain

/-- Links container `i` in after the last one. -/
def pushBack (chain : Chain) (containers : Array Container) (i : Nat) :
    Checked (Chain × Array Container) := do
  let containers ← Checked.update containers i ({ · with prev := chain.tail, next := none })
  match chain.tail with
  | some tail =>
    let containers ← Checked.update containers tail ({ · with next := some i })
    return ({ chain with tail := some i }, containers)
  | none => return ({ head := some i, tail := some i }, containers)

/-- Links container `i` in before the first one. -/
def pushFront (chain : Chain) (containers : Array Container) (i : Nat) :
    Checked (Chain × Array Container) := do
  let containers ← Checked.update containers i ({ · with prev := none, next := chain.head })
  match chain.head with
  | some head =>
    let containers ← Checked.update containers head ({ · with prev := some i })
    return ({ chain with head := some i }, containers)
  | none => return ({ head := some i, tail := some i }, containers)

/-- Unlinks the first container, which stands in the result. -/
def popFront (chain : Chain) (containers : Array Container) :
    Checked (Option Nat × Chain × Array Container) := do
  match chain.head with
  | none => return (none, chain, containers)
  | some i =>
    match (← Checked.read containers i).next with
    | some head =>
      let containers ← Checked.update containers head ({ · with prev := none })
      let containers ← Checked.update containers i ({ · with next := none })
      return (some i, { chain with head := some head }, containers)
    | none =>
      let containers ← Checked.update containers i ({ · with next := none })
      return (some i, {}, containers)

end Chain

end Executive
