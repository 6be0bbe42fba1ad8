/-
What the operations on chains do to the lists that the chains hold. `Chain.Holds` says that a chain
threads the members of a list through the containers: each is linked to the one before it and to the
one after it, the ends of the chain are the ends of the list, and no container comes up twice. A
push adds a member at one end, `popFront` takes the first one off, and `Relinked` says that nothing
else is touched.
-/
import Executive.Message.Chain
import Executive.Proofs.Checked

namespace Executive

variable {containers a b c : Array Container} {members others : List Nat} {before : Option Nat} {i j : Nat}

/-- The members are linked up in order; `before` is what comes before the first one. -/
def Linked (containers : Array Container) : (before : Option Nat) → (members : List Nat) → Prop
  | _, [] => True
  | before, i :: rest =>
    (∃ container, containers[i]? = some container ∧ container.prev = before ∧
      container.next = rest.head?) ∧ Linked containers (some i) rest

theorem Linked.congr (heq : ∀ j ∈ members, b[j]? = a[j]?) (h : Linked a before members) :
    Linked b before members := by
  induction members generalizing before with
  | nil => trivial
  | cons i rest ih =>
    obtain ⟨hi, hrest⟩ := h
    exact ⟨by rw [heq i (List.mem_cons_self ..)]; exact hi,
      ih (fun j hj => heq j (List.mem_cons_of_mem _ hj)) hrest⟩

theorem Linked.lt_size (h : Linked containers before members) (hj : j ∈ members) :
    j < containers.size := by
  induction members generalizing before with
  | nil => exact nomatch hj
  | cons i rest ih =>
    obtain ⟨⟨container, hi, -⟩, hrest⟩ := h
    rcases List.mem_cons.1 hj with rfl | hj
    · exact (Array.getElem?_eq_some_iff.1 hi).1
    · exact ih hrest hj

/-- Another container may come after the last one, if the two point at each other. -/
theorem Linked.concat {last : Nat} {container : Container} (h : Linked a before members)
    (hnodup : members.Nodup) (hlast : members.getLast? = some last)
    (hi : b[i]? = some container) (hprev : container.prev = some last) (hnext : container.next = none)
    (htail : b[last]? = a[last]?.map ({ · with next := some i }))
    (heq : ∀ j ∈ members, j ≠ last → b[j]? = a[j]?) : Linked b before (members ++ [i]) := by
  induction members generalizing before with
  | nil => exact nomatch hlast
  | cons x rest ih =>
    obtain ⟨⟨old, hx, hold, hrest⟩, h⟩ := h
    cases rest with
    | nil =>
      obtain rfl : x = last := by simpa using hlast
      rw [hx] at htail
      exact ⟨⟨_, htail, hold, rfl⟩, ⟨container, hi, hprev, hnext⟩, trivial⟩
    | cons y rest =>
      rw [List.getLast?_cons_cons] at hlast
      have hne : x ≠ last := by
        rintro rfl
        exact (List.nodup_cons.1 hnodup).1 (List.mem_of_getLast? hlast)
      refine ⟨⟨old, ?_, hold, hrest⟩, ?_⟩
      · rw [heq x (List.mem_cons_self ..) hne, hx]
      · exact ih h (List.nodup_cons.1 hnodup).2 hlast fun j hj => heq j (List.mem_cons_of_mem _ hj)

theorem getElem?_modify_self (hi : i < a.size) (f : Container → Container) :
    (a.modify i f)[i]? = some (f a[i]) := by
  rw [Array.getElem?_modify, if_pos rfl, Array.getElem?_eq_getElem hi]; rfl

theorem getElem?_modify_ne (hne : i ≠ j) (f : Container → Container) : (a.modify i f)[j]? = a[j]? := by
  rw [Array.getElem?_modify, if_neg hne]

/-- A chain that holds a list of containers. -/
structure Chain.Holds (chain : Chain) (containers : Array Container) (members : List Nat) : Prop where
  head : chain.head = members.head?
  tail : chain.tail = members.getLast?
  linked : Linked containers none members
  nodup : members.Nodup

/-- Containers `b` are containers `a` but for some members. -/
structure SameOutside (members : List Nat) (a b : Array Container) : Prop where
  size : b.size = a.size
  outside : ∀ j : Nat, j ∉ members → b[j]? = a[j]?

namespace SameOutside

theorem refl (members : List Nat) (a : Array Container) : SameOutside members a a :=
  ⟨rfl, fun _ _ => rfl⟩

theorem trans (h : SameOutside members a b) (k : SameOutside members b c) : SameOutside members a c :=
  ⟨k.size.trans h.size, fun j hj => (k.outside j hj).trans (h.outside j hj)⟩

theorem mono (h : SameOutside members a b) (hsub : members ⊆ others) : SameOutside others a b :=
  ⟨h.size, fun j hj => h.outside j fun hm => hj (hsub hm)⟩

/-- A member may change. -/
theorem modify (hi : i ∈ members) (f : Container → Container) :
    SameOutside members a (a.modify i f) :=
  ⟨Array.size_modify .., fun j hj => getElem?_modify_ne (by rintro rfl; exact hj hi) f⟩

end SameOutside

/-- Containers `b` are containers `a` but for the links of some members. -/
structure Relinked (members : List Nat) (a b : Array Container) : Prop
    extends SameOutside members a b where
  message : ∀ j : Nat, b[j]?.map Container.message = a[j]?.map Container.message

namespace Relinked

theorem trans (h : Relinked members a b) (k : Relinked members b c) : Relinked members a c :=
  ⟨h.toSameOutside.trans k.toSameOutside, fun j => (k.message j).trans (h.message j)⟩

/-- The links of a member may change. -/
theorem modify (hi : i ∈ members) {f : Container → Container}
    (hf : ∀ x, (f x).message = x.message) : Relinked members a (a.modify i f) := by
  refine ⟨.modify hi f, fun j => ?_⟩
  rw [Array.getElem?_modify]
  split
  · cases a[j]? with
    | none => rfl
    | some x => exact congrArg some (hf x)
  · rfl

end Relinked

namespace Chain

variable {chain : Chain}

theorem Holds.lt_size (h : chain.Holds containers members) (hj : j ∈ members) : j < containers.size :=
  h.linked.lt_size hj

/-- A chain does not notice what happens to containers that are not on it. -/
theorem Holds.congr (h : chain.Holds a members) (heq : ∀ j ∈ members, b[j]? = a[j]?) :
    chain.Holds b members :=
  ⟨h.head, h.tail, h.linked.congr heq, h.nodup⟩

theorem holds_nil : ({} : Chain).Holds containers [] := ⟨rfl, rfl, trivial, List.nodup_nil⟩

theorem Holds.eq_empty (h : chain.Holds containers []) : chain = {} := by
  obtain ⟨head, tail⟩ := chain
  obtain ⟨rfl, rfl, -, -⟩ := h
  rfl

theorem pushBack_spec (h : chain.Holds containers members) (hi : i < containers.size)
    (hnew : i ∉ members) :
    ∃ chain' containers', chain.pushBack containers i = .ok (chain', containers') ∧
      chain'.Holds containers' (members ++ [i]) ∧ Relinked (i :: members) containers containers' := by
  have hself : i ∈ i :: members := List.mem_cons_self ..
  have hne {j : Nat} (hj : j ∈ members) : i ≠ j := by rintro rfl; exact hnew hj
  have hnodup : (members ++ [i]).Nodup := by
    rw [List.nodup_append]
    exact ⟨h.nodup, List.pairwise_singleton _ i, fun j hj k hk => by
      rw [List.mem_singleton.1 hk]; exact Ne.symm (hne hj)⟩
  unfold pushBack
  rw [Checked.update_eq _ hi, Checked.ok_bind]
  cases htail : chain.tail with
  | none =>
    -- the chain is empty, and the container becomes both its ends
    have hnil : members = [] := List.getLast?_eq_none_iff.1 (h.tail ▸ htail)
    subst hnil
    have hset := getElem?_modify_self hi ({ · with prev := none, next := none })
    exact ⟨_, _, rfl, ⟨rfl, rfl, ⟨⟨_, hset, rfl, rfl⟩, trivial⟩, hnodup⟩, .modify hself fun _ => rfl⟩
  | some last =>
    have hlast : members.getLast? = some last := h.tail ▸ htail
    have hmem : last ∈ members := List.mem_of_getLast? hlast
    have hset := getElem?_modify_self hi ({ · with prev := some last, next := none })
    dsimp only
    -- the container points back at the last member before that one is made to point at it
    rw [Checked.update_eq _ (by rw [Array.size_modify]; exact h.lt_size hmem)]
    refine ⟨_, _, rfl, ⟨?_, ?_, ?_, hnodup⟩, ?_⟩
    · show chain.head = (members ++ [i]).head?
      obtain ⟨first, rest, rfl⟩ := List.exists_cons_of_ne_nil (List.ne_nil_of_mem hmem)
      exact h.head
    · show some i = (members ++ [i]).getLast?
      rw [List.getLast?_concat]
    · rw [← getElem?_modify_ne (Ne.symm (hne hmem))] at hset
      refine h.linked.concat h.nodup hlast hset rfl rfl ?_ fun j hj hjl => ?_
      · rw [Array.getElem?_modify, if_pos rfl, getElem?_modify_ne (hne hmem)]
      · rw [getElem?_modify_ne (Ne.symm hjl), getElem?_modify_ne (hne hj)]
    · refine (Relinked.modify hself ?_).trans (.modify (List.mem_cons_of_mem _ hmem) ?_)
      · exact fun _ => rfl
      · exact fun _ => rfl

theorem pushFront_spec (h : chain.Holds containers members) (hi : i < containers.size)
    (hnew : i ∉ members) :
    ∃ chain' containers', chain.pushFront containers i = .ok (chain', containers') ∧
      chain'.Holds containers' (i :: members) ∧ Relinked (i :: members) containers containers' := by
  have hself : i ∈ i :: members := List.mem_cons_self ..
  have hne {j : Nat} (hj : j ∈ members) : i ≠ j := by rintro rfl; exact hnew hj
  have hnodup : (i :: members).Nodup := List.nodup_cons.2 ⟨hnew, h.nodup⟩
  unfold pushFront
  rw [Checked.update_eq _ hi, Checked.ok_bind]
  cases members with
  | nil =>
    have hset := getElem?_modify_self hi ({ · with prev := none, next := none })
    rw [show chain.head = none from h.head]
    exact ⟨_, _, rfl, ⟨rfl, rfl, ⟨⟨_, hset, rfl, rfl⟩, trivial⟩, hnodup⟩, .modify hself fun _ => rfl⟩
  | cons head rest =>
    have hmem : head ∈ head :: rest := List.mem_cons_self ..
    obtain ⟨⟨first, hfirst, hprev, hnext⟩, hrest⟩ := h.linked
    have hset := getElem?_modify_self hi ({ · with prev := none, next := some head })
    rw [show chain.head = some head from h.head]
    dsimp only
    rw [Checked.update_eq _ (by rw [Array.size_modify]; exact h.lt_size hmem)]
    rw [← getElem?_modify_ne (Ne.symm (hne hmem))] at hset
    refine ⟨_, _, rfl, ⟨rfl, h.tail, ⟨⟨_, hset, rfl, rfl⟩, ⟨{ first with prev := some i }, ?_, rfl,
      hnext⟩, ?_⟩, hnodup⟩, ?_⟩
    · rw [Array.getElem?_modify, if_pos rfl, getElem?_modify_ne (hne hmem), hfirst]; rfl
    · refine hrest.congr fun j hj => ?_
      have hjh : head ≠ j := by rintro rfl; exact (List.nodup_cons.1 h.nodup).1 hj
      rw [getElem?_modify_ne hjh, getElem?_modify_ne (hne (List.mem_cons_of_mem _ hj))]
    · refine (Relinked.modify hself ?_).trans (.modify (List.mem_cons_of_mem _ hmem) ?_)
      · exact fun _ => rfl
      · exact fun _ => rfl

theorem popFront_nil (h : chain.Holds containers []) :
    chain.popFront containers = .ok (none, chain, containers) := by
  unfold popFront
  rw [show chain.head = none from h.head]; rfl

theorem popFront_cons (h : chain.Holds containers (i :: members)) :
    ∃ chain' containers', chain.popFront containers = .ok (some i, chain', containers') ∧
      chain'.Holds containers' members ∧ Relinked (i :: members) containers containers' := by
  have hself : i ∈ i :: members := List.mem_cons_self ..
  have hi := h.lt_size hself
  obtain ⟨⟨first, hfirst, hprev, hnext⟩, hrest⟩ := h.linked
  obtain ⟨hnew, hnodup⟩ := List.nodup_cons.1 h.nodup
  have hne {j : Nat} (hj : j ∈ members) : i ≠ j := by rintro rfl; exact hnew hj
  rw [Array.getElem?_eq_getElem hi] at hfirst
  have hread : containers[i].next = members.head? := by rw [Option.some.inj hfirst, hnext]
  unfold popFront
  rw [show chain.head = some i from h.head]
  dsimp only
  rw [Checked.read_eq hi, Checked.ok_bind, hread]
  cases members with
  | nil =>
    dsimp only [List.head?_nil]
    rw [Checked.update_eq _ hi]
    exact ⟨_, _, rfl, holds_nil, .modify hself fun _ => rfl⟩
  | cons head rest =>
    have hmem : head ∈ head :: rest := List.mem_cons_self ..
    have hhead := h.lt_size (List.mem_cons_of_mem i hmem)
    obtain ⟨⟨second, hsecond, -, hnext'⟩, hrest'⟩ := hrest
    dsimp only [List.head?_cons]
    -- the second member has no predecessor any more, and the first one no links at all
    rw [Checked.update_eq _ hhead, Checked.ok_bind,
      Checked.update_eq _ (by rw [Array.size_modify]; exact hi)]
    refine ⟨_, _, rfl, ⟨rfl, ?_, ⟨⟨{ second with prev := none }, ?_, rfl, hnext'⟩, ?_⟩, hnodup⟩, ?_⟩
    · rw [h.tail, List.getLast?_cons_cons]
    · rw [getElem?_modify_ne (hne hmem), Array.getElem?_modify, if_pos rfl, hsecond]; rfl
    · refine hrest'.congr fun j hj => ?_
      have hjh : head ≠ j := by rintro rfl; exact (List.nodup_cons.1 hnodup).1 hj
      rw [getElem?_modify_ne (hne (List.mem_cons_of_mem _ hj)), getElem?_modify_ne hjh]
    · refine (Relinked.modify (List.mem_cons_of_mem _ hmem) ?_).trans (.modify hself ?_)
      · exact fun _ => rfl
      · exact fun _ => rfl

end Chain

end Executive
