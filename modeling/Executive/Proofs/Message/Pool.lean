/-
What the pool does with its free containers: it takes the first one off and puts a returned one
behind the others, and it counts them. `Refilled` says what a chain of containers that is not the
free one may see of this, which is nothing.
-/
import Executive.Message.Pool
import Executive.Proofs.Message.Chain

namespace Executive

variable {a b c : Array Container} {members : List Nat} {i : Nat} {message : Message}

/-- Containers `b` are containers `a` but for the links of some members and the message in one of
them. -/
structure Refilled (i : Nat) (message : Message) (members : List Nat) (a b : Array Container) : Prop
    extends SameOutside members a b where
  self : b[i]?.map Container.message = some message
  others : ∀ j : Nat, j ≠ i → b[j]?.map Container.message = a[j]?.map Container.message

namespace Refilled

theorem modify (hi : i ∈ members) (hlt : i < a.size) :
    Refilled i message members a (a.modify i ({ · with message })) where
  toSameOutside := .modify hi _
  self := by rw [getElem?_modify_self hlt]; rfl
  others j hj := by rw [getElem?_modify_ne (Ne.symm hj)]

theorem trans_relinked (h : Refilled i message members a b) (k : Relinked members b c) :
    Refilled i message members a c where
  toSameOutside := h.toSameOutside.trans k.toSameOutside
  self := (k.message i).trans h.self
  others j hj := (k.message j).trans (h.others j hj)

theorem relinked_trans (h : Relinked members a b) (k : Refilled i message members b c) :
    Refilled i message members a c where
  toSameOutside := h.toSameOutside.trans k.toSameOutside
  self := k.self
  others j hj := (k.others j hj).trans (h.message j)

end Refilled

/-- The message in a container is no link. -/
theorem Linked.setMessage {before : Option Nat} (h : Linked a before members) (i : Nat)
    (message : Message) : Linked (a.modify i ({ · with message })) before members := by
  induction members generalizing before with
  | nil => trivial
  | cons j rest ih =>
    obtain ⟨⟨container, hj, hprev, hnext⟩, hrest⟩ := h
    refine ⟨?_, ih hrest⟩
    rw [Array.getElem?_modify, hj]
    split
    · exact ⟨_, rfl, hprev, hnext⟩
    · exact ⟨_, rfl, hprev, hnext⟩

theorem Chain.Holds.setMessage {chain : Chain} (h : chain.Holds a members) (i : Nat)
    (message : Message) : chain.Holds (a.modify i ({ · with message })) members :=
  ⟨h.head, h.tail, h.linked.setMessage i message, h.nodup⟩

namespace MessagePool

variable {pool : MessagePool} {free : List Nat}

/-- A pool whose free containers are those of a list. -/
structure Holds (pool : MessagePool) (free : List Nat) : Prop where
  chain : pool.free.Holds pool.containers free
  available : pool.available = free.length

/-- Neighbours in the order of the positions point at each other. -/
theorem linked_range' (size : Nat) : ∀ (count first : Nat), first + count = size →
    Linked (ofSize size).containers (if first = 0 then none else some (first - 1))
      (List.range' first count)
  | 0, _, _ => trivial
  | count + 1, first, hsize => by
    have hget : (ofSize size).containers[first]? = some
        { prev := if first = 0 then none else some (first - 1)
          next := if first + 1 < size then some (first + 1) else none } := by
      unfold ofSize
      rw [Array.getElem?_ofFn, dif_pos (by omega)]
    have hrest := linked_range' size count (first + 1) (by omega)
    rw [if_neg (Nat.succ_ne_zero first)] at hrest
    rw [List.range'_succ]
    refine ⟨⟨_, hget, rfl, ?_⟩, hrest⟩
    cases count with
    | zero => exact if_neg (by omega)
    | succ count => exact if_pos (by omega)

theorem ofSize_holds (size : Nat) : (ofSize size).Holds (List.range size) := by
  refine ⟨⟨?_, ?_, ?_, List.nodup_range⟩, List.length_range.symm⟩
  · unfold ofSize
    cases size with
    | zero => rfl
    | succ size => rw [if_neg (Nat.succ_ne_zero _), List.range_succ_eq_map]; rfl
  · unfold ofSize
    cases size with
    | zero => rfl
    | succ size => rw [if_neg (Nat.succ_ne_zero _), List.range_succ, List.getLast?_concat]; rfl
  · have := linked_range' size size 0 (Nat.zero_add _)
    rwa [← List.range_eq_range'] at this

theorem take_nil (h : pool.Holds []) (message : Message) : pool.take message = .ok (none, pool) := by
  unfold take
  rw [Chain.popFront_nil h.chain]; rfl

theorem take_cons (h : pool.Holds (i :: free)) (message : Message) :
    ∃ pool', pool.take message = .ok (some i, pool') ∧ pool'.Holds free ∧
      Refilled i message (i :: free) pool.containers pool'.containers := by
  have hi := h.chain.lt_size (List.mem_cons_self ..)
  obtain ⟨chain, containers, hpop, hchain, hre⟩ := Chain.popFront_cons h.chain
  unfold take
  rw [hpop, Checked.ok_bind]
  dsimp only
  rw [Checked.sub_eq (by rw [h.available]; exact Nat.succ_pos _), Checked.ok_bind,
    Checked.update_eq _ (by rw [hre.size]; exact hi)]
  refine ⟨_, rfl, ⟨hchain.setMessage i message, ?_⟩, .relinked_trans hre ?_⟩
  · show pool.available - 1 = free.length
    rw [h.available]; rfl
  · exact .modify (List.mem_cons_self ..) (by rw [hre.size]; exact hi)

theorem give_spec (h : pool.Holds free) (hi : i < pool.containers.size) (hnew : i ∉ free) :
    ∃ pool', pool.give i = .ok pool' ∧ pool'.Holds (free ++ [i]) ∧
      Refilled i 0 (i :: free) pool.containers pool'.containers := by
  have hset : Refilled i 0 (i :: free) pool.containers
      (pool.containers.modify i ({ · with message := 0 })) := .modify (List.mem_cons_self ..) hi
  obtain ⟨chain, containers, hpush, hchain, hre⟩ :=
    Chain.pushBack_spec (h.chain.setMessage i 0) (by rw [hset.size]; exact hi) hnew
  unfold give
  rw [Checked.update_eq _ hi, Checked.ok_bind, hpush]
  refine ⟨_, rfl, ⟨hchain, ?_⟩, hset.trans_relinked hre⟩
  show pool.available + 1 = (free ++ [i]).length
  rw [h.available, List.length_append]; rfl

end MessagePool

end Executive
