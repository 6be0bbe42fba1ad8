/-
The queues of a table and the pool under them share out the containers: each container is free or on
the chain of one queue, and each queue counts its messages (`QueueTable.Holds`). Every operation of
the table keeps this. Each moves containers between the free ones and the members of one queue, so
that one lemma, `Holds.put`, carries all of them.
-/
import Executive.Proofs.Message.Pool
import Executive.Proofs.Registry
import Mathlib.Algebra.GroupWithZero.Nat

namespace Executive

/-! ## Lists of members -/

section Members

variable {f : Nat → List Nat} {size q : Nat} {free free' list target : List Nat}

/-- The same lists but for the one of queue `q`. -/
def reassign (f : Nat → List Nat) (q : Nat) (list : List Nat) : Nat → List Nat :=
  fun k => if k = q then list else f k

@[simp] theorem reassign_self : reassign f q list q = list := if_pos rfl

theorem reassign_eq_self (h : f q = list) : reassign f q list = f := by
  funext k
  unfold reassign
  split
  · rename_i hk; rw [hk, h]
  · rfl

theorem reassign_ne {k : Nat} (h : k ≠ q) : reassign f q list k = f k := if_neg h

/-- The lists of all queues hold what the one of queue `q` holds, and what the others hold. -/
theorem count_flatMap_reassign (hq : q < size) (list : List Nat) (c : Nat) :
    ((List.range size).flatMap (reassign f q list)).count c + (f q).count c =
      ((List.range size).flatMap f).count c + list.count c := by
  have hperm := List.perm_cons_erase (List.mem_range.2 hq)
  have hsame : ((List.range size).erase q).flatMap (reassign f q list) =
      ((List.range size).erase q).flatMap f := by
    rw [List.flatMap_def, List.flatMap_def]
    refine congrArg List.flatten (List.map_congr_left fun k hk => reassign_ne ?_)
    exact ((List.nodup_range.mem_erase_iff).1 hk).1
  have hf := (hperm.flatMap_right f).count_eq c
  have hg := (hperm.flatMap_right (reassign f q list)).count_eq c
  rw [List.flatMap_cons, List.count_append] at hf hg
  rw [reassign_self, hsame] at hg
  omega

/-- Containers that move between the free ones and the list of queue `q` stay shared out. -/
theorem perm_reassign (hq : q < size) (h : (free ++ (List.range size).flatMap f).Perm target)
    (hmove : (free' ++ list).Perm (free ++ f q)) :
    (free' ++ (List.range size).flatMap (reassign f q list)).Perm target := by
  rw [List.perm_iff_count] at h hmove ⊢
  intro c
  have hc := h c
  have hm := hmove c
  have hcount := count_flatMap_reassign (f := f) hq list c
  rw [List.count_append] at hc hm ⊢
  rw [List.count_append] at hm
  omega

end Members

/-! ## Posting into a list -/

namespace PostMode

/-- A list with what is posted. -/
def add {α : Type} (list : List α) (x : α) : PostMode → List α
  | .fifo => list ++ [x]
  | .jam => x :: list

variable {α : Type} (mode : PostMode) (list : List α) (x : α)

theorem add_perm : (mode.add list x).Perm (x :: list) := by
  cases mode with
  | fifo => exact List.perm_append_singleton x list
  | jam => exact .refl _

theorem length_add : (mode.add list x).length = list.length + 1 :=
  (mode.add_perm list x).length_eq

end PostMode

/-! ## The invariant -/

/-- A queue whose messages are in the containers of a list. -/
structure Queue.Holds (queue : Queue) (containers : Array Container) (members : List Nat) : Prop where
  chain : queue.chain.Holds containers members
  count : queue.count = members.length
  depth : queue.count ≤ queue.depth
  vacant : queue.busy = false → members = []

/-- A table whose free containers are those of a list and whose queue `i` holds its messages in the
containers `members i`. Every container is in exactly one of these lists. -/
structure QueueTable.Holds (table : QueueTable) (free : List Nat) (members : Nat → List Nat) :
    Prop where
  pool : table.pool.Holds free
  queue : ∀ (i : Nat) (queue : Queue), table.queues[i]? = some queue →
    queue.Holds table.pool.containers (members i)
  reserved : ∀ queue, table.queues[0]? = some queue → queue.busy = false
  shared : (free ++ (List.range table.queues.size).flatMap members).Perm
    (List.range table.pool.containers.size)

namespace Queue

/-- A vacant entry given to a new queue. -/
def opened (old : Queue) (name : String) (options : QueueOptions) : Queue where
  busy := true
  name := name
  depth := options.depth
  binding := options.binding
  order := options.order
  generation := old.generation

/-- The entry of a deleted queue. -/
def closed (old : Queue) : Queue :=
  { old with
    chain := {}, busy := false, count := 0, waiting := false, interrupted := false, binding := none
    generation := old.generation + 1 }

end Queue

/-- The table with one of its entries and its pool replaced. -/
def QueueTable.put (table : QueueTable) (id : QueueId) (queue : Queue) (pool : MessagePool) :
    QueueTable where
  queues := table.queues.setIfInBounds id.index queue
  pool := pool

/-- The table with one of its entries replaced. -/
def QueueTable.setQueue (table : QueueTable) (id : QueueId) (queue : Queue) : QueueTable :=
  table.put id queue table.pool

theorem Queue.Holds.congr {queue : Queue} {a b : Array Container} {members : List Nat}
    (h : queue.Holds a members) (heq : ∀ j ∈ members, b[j]? = a[j]?) : queue.Holds b members :=
  ⟨h.chain.congr heq, h.count, h.depth, h.vacant⟩

namespace QueueTable

variable {table : QueueTable} {free free' : List Nat} {members : Nat → List Nat} {q : Nat}
  {queue : Queue}

/-- The entries of a new table. -/
theorem eq_of_ofSize {queues messages i : Nat} (h : (ofSize queues messages).queues[i]? = some queue) :
    queue = {} := by
  unfold ofSize at h
  rw [Array.getElem?_replicate, Option.ite_none_right_eq_some] at h
  exact (Option.some.inj h.2).symm

theorem ofSize_holds (queues messages : Nat) :
    (ofSize queues messages).Holds (List.range messages) fun _ => [] := by
  refine ⟨MessagePool.ofSize_holds messages, fun i queue hq => ?_, fun queue hq => ?_, ?_⟩
  · rw [eq_of_ofSize hq]
    exact ⟨Chain.holds_nil, rfl, Nat.le_refl _, fun _ => rfl⟩
  · rw [eq_of_ofSize hq]
  · rw [List.flatMap_eq_nil_iff.2 fun _ _ => rfl, List.append_nil]
    simp [ofSize, MessagePool.ofSize]

theorem Holds.nodup (h : table.Holds free members) :
    (free ++ (List.range table.queues.size).flatMap members).Nodup :=
  h.shared.nodup_iff.2 List.nodup_range

theorem Holds.not_mem_free (h : table.Holds free members) (hq : q < table.queues.size) {j : Nat}
    (hj : j ∈ members q) : j ∉ free := by
  intro hf
  exact (List.nodup_append.1 h.nodup).2.2 j hf j
    (List.mem_flatMap.2 ⟨q, List.mem_range.2 hq, hj⟩) rfl

/-- A queue in use is not entry 0. -/
theorem Holds.index_pos (h : table.Holds free members) (hq : table.queues[q]? = some queue)
    (hbusy : queue.busy = true) : 0 < q := by
  refine Nat.pos_of_ne_zero fun h0 => ?_
  subst h0
  rw [h.reserved queue hq] at hbusy
  cases hbusy

/-- A container is on the chain of one queue at most. -/
theorem Holds.not_mem_other (h : table.Holds free members) (hq : q < table.queues.size) {i j : Nat}
    (hi : i < table.queues.size) (hne : i ≠ q) (hj : j ∈ members i) : j ∉ members q := by
  intro hjq
  have hle := List.nodup_iff_count.1 (List.nodup_append.1 h.nodup).2.1 j
  have hcount := count_flatMap_reassign (f := members) hq [] j
  have hrest : j ∈ (List.range table.queues.size).flatMap (reassign members q []) :=
    List.mem_flatMap.2 ⟨i, List.mem_range.2 hi, by rwa [reassign_ne hne]⟩
  have h1 := List.count_pos_iff.2 hjq
  have h2 := List.count_pos_iff.2 hrest
  rw [List.count_nil] at hcount
  omega

/-- Containers may move between the free ones and the members of one queue. -/
theorem Holds.put (h : table.Holds free members) {id : QueueId} (hq : id.index < table.queues.size)
    {queue' : Queue} {pool' : MessagePool} {list : List Nat} (hpool : pool'.Holds free')
    (hqueue : queue'.Holds pool'.containers list) (hpos : queue'.busy = true → 0 < id.index)
    (hsame : SameOutside (free ++ members id.index) table.pool.containers pool'.containers)
    (hmove : (free' ++ list).Perm (free ++ members id.index)) :
    (table.put id queue' pool').Holds free' (reassign members id.index list) := by
  refine ⟨hpool, fun i queue hi => ?_, fun queue hi => ?_, ?_⟩
  · unfold QueueTable.put at hi
    rw [Array.getElem?_setIfInBounds] at hi
    by_cases hiq : id.index = i
    · subst hiq
      rw [if_pos rfl, if_pos hq] at hi
      cases hi
      rw [reassign_self]; exact hqueue
    · rw [if_neg hiq] at hi
      rw [reassign_ne (Ne.symm hiq)]
      have hlt := (Array.getElem?_eq_some_iff.1 hi).1
      refine (h.queue i queue hi).congr fun j hj => hsame.outside j fun hmem => ?_
      rcases List.mem_append.1 hmem with hf | hm
      · exact h.not_mem_free hlt hj hf
      · exact h.not_mem_other hq hlt (Ne.symm hiq) hj hm
  · unfold QueueTable.put at hi
    rw [Array.getElem?_setIfInBounds] at hi
    split at hi
    · rename_i h0
      cases hi
      exact Bool.eq_false_iff.2 fun hbusy => by have := hpos hbusy; omega
    · exact h.reserved queue hi
  · unfold QueueTable.put
    rw [Array.size_setIfInBounds, hsame.size]
    exact perm_reassign hq h.shared hmove

/-- An entry may change as long as its messages stay. -/
theorem Holds.setQueue (h : table.Holds free members) {id : QueueId} (hq : id.index < table.queues.size)
    (hqueue : queue.Holds table.pool.containers (members id.index))
    (hpos : queue.busy = true → 0 < id.index) : (table.setQueue id queue).Holds free members := by
  have := h.put hq h.pool hqueue hpos (.refl _ _) (.refl _)
  rwa [reassign_eq_self rfl] at this

theorem getElem?_put_self {id : QueueId} {pool : MessagePool} (hid : id.index < table.queues.size) :
    (table.put id queue pool).queues[id.index]? = some queue := by
  rw [put, Array.getElem?_setIfInBounds, if_pos rfl, if_pos hid]

/-- Of two changes of one entry the latter counts. -/
theorem put_put {id : QueueId} (other : Queue) (pool pool' : MessagePool) :
    (table.put id queue pool).put id other pool' = table.put id other pool' := by
  simp [put]

theorem put_self {id : QueueId} (hentry : table.queues[id.index]? = some queue) :
    table.put id queue table.pool = table :=
  congrArg (QueueTable.mk · table.pool) (Checked.setIfInBounds_self hentry)

theorem get_put {id : QueueId} {old : Queue} {pool : MessagePool} (hget : table.get id = .ok old)
    (hbusy : queue.busy = true) : (table.put id queue pool).get id = .ok queue :=
  get_eq_ok.2 ⟨(get_eq_ok.1 hget).1, getElem?_put_self (lt_size_of_get hget), hbusy⟩

/-- A table that results from changing an entry tells what the entry was changed to. -/
theorem put_inj {id : QueueId} {queue₁ queue₂ : Queue} {pool₁ pool₂ : MessagePool}
    (hid : id.index < table.queues.size) (heq : table.put id queue₁ pool₁ = table.put id queue₂ pool₂) :
    queue₁ = queue₂ ∧ pool₁ = pool₂ := by
  have hput : (table.put id queue₁ pool₁).queues[id.index]? = some queue₁ := getElem?_put_self hid
  rw [heq, getElem?_put_self hid] at hput
  exact ⟨(Option.some.inj hput).symm, congrArg QueueTable.pool heq⟩

/-! ## Counting -/

theorem mem_live (h : table.Holds free members) {id : QueueId} :
    id ∈ table.live ↔ ∃ queue, table.get id = .ok queue := by
  simp only [live, Registry.inUse, List.mem_map, List.mem_filterMap, List.mem_range]
  constructor
  · rintro ⟨⟨i, queue⟩, ⟨k, -, hk⟩, rfl⟩
    obtain ⟨found, hfound, heq⟩ := Option.map_eq_some_iff.1 hk
    cases heq
    obtain ⟨hq, hbusy⟩ := Option.filter_eq_some_iff.1 hfound
    exact ⟨queue, get_eq_ok.2 ⟨h.index_pos hq hbusy, hq, hbusy⟩⟩
  · rintro ⟨queue, hget⟩
    obtain ⟨-, hq, hbusy⟩ := get_eq_ok.1 hget
    refine ⟨(id.index, queue), ⟨id.index, (Array.getElem?_eq_some_iff.1 hq).1, ?_⟩, rfl⟩
    exact Option.map_eq_some_iff.2 ⟨queue, Option.filter_eq_some_iff.2 ⟨hq, hbusy⟩, rfl⟩

theorem nodup_live : table.live.Nodup := by
  unfold live
  rw [Registry.inUse, List.Nodup, List.pairwise_map]
  refine List.Pairwise.filterMap _ (fun i j hij p hp q hq => ?_) List.nodup_range
  obtain ⟨-, -, rfl⟩ := Option.map_eq_some_iff.1 hp
  obtain ⟨-, -, rfl⟩ := Option.map_eq_some_iff.1 hq
  exact fun heq => hij (congrArg QueueId.index heq)

/-- A sum over the queues in use is a sum over all entries, if vacant ones count for nothing. -/
theorem sum_live (f : Nat → Nat) (hvacant : ∀ i : Nat, i < table.queues.size →
      table.queues[i]?.filter Named.busy = none → f i = 0) :
    (table.live.map fun id => f id.index).sum = ((List.range table.queues.size).map f).sum := by
  replace hvacant : ∀ i ∈ List.range table.queues.size,
      table.queues[i]?.filter Named.busy = none → f i = 0 :=
    fun i hi => hvacant i (List.mem_range.1 hi)
  unfold live
  rw [Registry.inUse, List.map_map]
  generalize List.range table.queues.size = places at hvacant ⊢
  induction places with
  | nil => rfl
  | cons i rest ih =>
    rw [List.filterMap_cons, List.map_cons, List.sum_cons,
      ← ih fun k hk => hvacant k (List.mem_cons_of_mem _ hk)]
    cases hi : table.queues[i]?.filter Named.busy with
    | none => rw [hvacant i (List.mem_cons_self ..) hi, Nat.zero_add]; rfl
    | some queue => rfl

/-- Free containers and messages in queues make up the pool. -/
theorem Holds.total (h : table.Holds free members) :
    table.pool.available + (table.live.map fun id => (members id.index).length).sum =
      table.pool.containers.size := by
  have hlen := h.shared.length_eq
  rw [List.length_append, List.length_flatMap, List.length_range] at hlen
  rw [h.pool.available, sum_live (fun i => (members i).length), hlen]
  intro i hi hnone
  have hq := Array.getElem?_eq_getElem hi
  have hbusy := Option.filter_eq_none_iff.1 hnone _ hq
  rw [(h.queue i _ hq).vacant (Bool.eq_false_iff.2 hbusy), List.length_nil]

/-! ## The operations -/

theorem create_spec (h : table.Holds free members) {name : String} {options : QueueOptions}
    {id : QueueId} {table' : QueueTable} (hc : table.create name options = .ok (id, table')) :
    0 < id.index ∧ ∃ old, table.queues[id.index]? = some old ∧ old.busy = false ∧
      table' = table.setQueue id (old.opened name options) ∧ table'.Holds free members := by
  unfold create at hc
  cases hplace : Registry.place table.queues name .noFreeQueue with
  | error error => rw [hplace] at hc; cases hc
  | ok i =>
    obtain ⟨h0, old, hold, hbusy⟩ := Registry.place_eq_ok hplace
    have hempty := (h.queue i old hold).vacant hbusy
    have hset : QueueTable.mk (table.queues.modify i (·.opened name options)) table.pool =
        table.setQueue ⟨i⟩ (old.opened name options) :=
      congrArg (QueueTable.mk · table.pool) (Checked.modify_of_getElem? hold _)
    have hnew : (old.opened name options).Holds table.pool.containers (members i) := by
      rw [hempty]; exact ⟨Chain.holds_nil, rfl, Nat.zero_le _, fun _ => rfl⟩
    have hholds : (table.setQueue ⟨i⟩ (old.opened name options)).Holds free members :=
      h.setQueue (Array.getElem?_eq_some_iff.1 hold).1 hnew fun _ => h0
    rw [hplace] at hc
    cases hc
    exact ⟨h0, old, hold, hbusy, hset, hset ▸ hholds⟩

/-- The members of a chain go behind the free containers. -/
theorem reclaim_spec : ∀ (list : List Nat) (chain : Chain) (pool : MessagePool) (free : List Nat)
    (count : Nat), chain.Holds pool.containers list → pool.Holds free → (∀ j ∈ list, j ∉ free) →
    list.length ≤ count →
    ∃ pool', reclaim chain pool count = .ok ({}, pool') ∧ pool'.Holds (free ++ list) ∧
      SameOutside (free ++ list) pool.containers pool'.containers
  | [], chain, pool, free, count, hchain, hpool, _, _ => by
    refine ⟨pool, ?_, by rwa [List.append_nil], .refl _ _⟩
    cases count with
    | zero => rw [reclaim, hchain.eq_empty]; rfl
    | succ count => rw [reclaim, Chain.popFront_nil hchain, hchain.eq_empty]; rfl
  | i :: rest, chain, pool, free, 0, _, _, _, hle => absurd hle (Nat.not_succ_le_zero _)
  | i :: rest, chain, pool, free, count + 1, hchain, hpool, hdisj, hle => by
    have hi := hchain.lt_size (List.mem_cons_self ..)
    have hfree : i ∉ free := hdisj i (List.mem_cons_self ..)
    have hnew := (List.nodup_cons.1 hchain.nodup).1
    -- one member moves behind the free containers, and the rest of the chain stays apart from them
    obtain ⟨chain₁, containers₁, hpop, hchain₁, hre₁⟩ := Chain.popFront_cons hchain
    have hpool₁ : ({ pool with containers := containers₁ } : MessagePool).Holds free :=
      ⟨hpool.chain.congr fun j hj => hre₁.outside j fun hm => hdisj j hm hj, hpool.available⟩
    obtain ⟨pool₂, hgive, hpool₂, hre₂⟩ :=
      MessagePool.give_spec hpool₁ (by rw [hre₁.size]; exact hi) hfree
    have hchain₂ : chain₁.Holds pool₂.containers rest := hchain₁.congr fun j hj =>
      hre₂.outside j fun hm => by
        rcases List.mem_cons.1 hm with rfl | hm
        · exact hnew hj
        · exact hdisj j (List.mem_cons_of_mem _ hj) hm
    have hdisj₂ : ∀ j ∈ rest, j ∉ free ++ [i] := fun j hj hm => by
      rcases List.mem_append.1 hm with hm | hm
      · exact hdisj j (List.mem_cons_of_mem _ hj) hm
      · rw [List.mem_singleton.1 hm] at hj; exact hnew hj
    obtain ⟨pool', hrec, hpool', hsame⟩ :=
      reclaim_spec rest chain₁ pool₂ (free ++ [i]) count hchain₂ hpool₂ hdisj₂ (Nat.le_of_succ_le_succ hle)
    rw [List.append_assoc, List.singleton_append] at hpool' hsame
    refine ⟨pool', ?_, hpool', ((hre₁.mono ?_).trans (hre₂.mono ?_)).trans hsame⟩
    · unfold reclaim
      rw [hpop, Checked.ok_bind]
      dsimp only
      rw [hgive, Checked.ok_bind, hrec]
    · exact List.subset_append_right ..
    · exact List.cons_subset.2 ⟨List.mem_append_right _ (List.mem_cons_self ..), List.subset_append_left ..⟩

/-- A deletion frees the containers of the queue. -/
theorem delete_spec (h : table.Holds free members) {id : QueueId}
    (hq : table.queues[id.index]? = some queue) :
    ∃ pool', table.delete id = .ok (queue.waiting, table.put id queue.closed pool') ∧
      (table.put id queue.closed pool').Holds (free ++ members id.index)
        (reassign members id.index []) ∧
      SameOutside (free ++ members id.index) table.pool.containers pool'.containers := by
  have hlt := (Array.getElem?_eq_some_iff.1 hq).1
  have hqueue := h.queue id.index queue hq
  -- the chain is no longer than the pool, so that the count of the loop suffices
  have hle : (members id.index).length ≤ table.pool.containers.size := by
    have hperm := (List.perm_cons_erase (List.mem_range.2 hlt)).flatMap_right members
    have hlen := hperm.length_eq
    have htotal := h.shared.length_eq
    rw [List.flatMap_cons, List.length_append] at hlen
    rw [List.length_append, List.length_range] at htotal
    omega
  obtain ⟨pool', hrec, hpool', hsame⟩ := reclaim_spec _ _ _ _ _ hqueue.chain h.pool
    (fun j hj => h.not_mem_free hlt hj) hle
  refine ⟨pool', ?_, h.put hlt hpool' ?_ (fun hbusy => nomatch hbusy) hsame (by rw [List.append_nil]), hsame⟩
  · unfold delete
    rw [Checked.read_of_getElem? hq, Checked.ok_bind, hrec, Checked.ok_bind]
    dsimp only
    rw [Checked.write_eq _ hlt]; rfl
  · exact ⟨Chain.holds_nil, rfl, Nat.zero_le _, fun _ => rfl⟩

/-! ### Push -/

section Push

variable {id : QueueId} {message : Message} {mode : PostMode}

theorem lift_ok {α : Type} (a : α) :
    (liftM (Except.ok a : Checked α) : ExceptT Error Checked α) = pure a := rfl

theorem push_of_get_error {error : Error} (hget : table.get id = .error error) :
    (table.push id message mode).run = .ok (.error error) := by
  unfold push
  rw [hget]; rfl

/-- Links a container in where a message goes. -/
def link (mode : PostMode) (chain : Chain) (containers : Array Container) (i : Nat) :
    Checked (Chain × Array Container) :=
  match mode with
  | .fifo => chain.pushBack containers i
  | .jam => chain.pushFront containers i

/-- A push to a queue in use looks for room in the queue first and for a container then. -/
theorem push_of_get (hget : table.get id = .ok queue) :
    table.push id message mode = if queue.depth ≤ queue.count then throw .queueFull else do
      match ← table.pool.take message with
      | (none, _) => throw .noFreeMessage
      | (some i, pool) =>
        let (chain, containers) ← link mode queue.chain pool.containers i
        let queues ← Checked.write table.queues id.index { queue with chain, count := queue.count + 1 }
        return { queues, pool := { pool with containers } } := by
  unfold push
  rw [hget]
  cases mode with
  | fifo => rfl
  | jam => rfl

theorem link_spec {chain : Chain} {containers : Array Container} {list : List Nat} {i : Nat}
    (mode : PostMode) (h : chain.Holds containers list) (hi : i < containers.size) (hnew : i ∉ list) :
    ∃ chain' containers', link mode chain containers i = .ok (chain', containers') ∧
      chain'.Holds containers' (mode.add list i) ∧ Relinked (i :: list) containers containers' := by
  cases mode with
  | fifo => exact Chain.pushBack_spec h hi hnew
  | jam => exact Chain.pushFront_spec h hi hnew

theorem push_full (hget : table.get id = .ok queue) (hfull : queue.depth ≤ queue.count) :
    (table.push id message mode).run = .ok (.error .queueFull) := by
  rw [push_of_get hget, if_pos hfull]; rfl

theorem push_exhausted (h : table.Holds [] members) (hget : table.get id = .ok queue)
    (hroom : queue.count < queue.depth) :
    (table.push id message mode).run = .ok (.error .noFreeMessage) := by
  rw [push_of_get hget, if_neg (Nat.not_le.2 hroom), MessagePool.take_nil h.pool]
  rfl

theorem push_spec {i : Nat} (h : table.Holds (i :: free) members) (hget : table.get id = .ok queue)
    (hroom : queue.count < queue.depth) :
    ∃ chain pool', (table.push id message mode).run =
        .ok (.ok (table.put id { queue with chain, count := queue.count + 1 } pool')) ∧
      (table.put id { queue with chain, count := queue.count + 1 } pool').Holds free
        (reassign members id.index (mode.add (members id.index) i)) ∧
      Refilled i message (i :: free ++ members id.index) table.pool.containers pool'.containers := by
  obtain ⟨h0, hq, hbusy'⟩ := get_eq_ok.1 hget
  have hlt := (Array.getElem?_eq_some_iff.1 hq).1
  have hqueue := h.queue id.index queue hq
  -- the first free container is taken off the free chain, which no queue notices
  obtain ⟨pool₁, htake, hpool₁, hre₁⟩ := MessagePool.take_cons h.pool message
  have hnew : i ∉ members id.index := fun hm => h.not_mem_free hlt hm (List.mem_cons_self ..)
  have hchain₁ : queue.chain.Holds pool₁.containers (members id.index) :=
    hqueue.chain.congr fun j hj => hre₁.outside j (h.not_mem_free hlt hj)
  have hi : i < pool₁.containers.size := by
    rw [hre₁.size]; exact h.pool.chain.lt_size (List.mem_cons_self ..)
  -- then it is linked into the chain of the queue, which the free chain does not notice
  obtain ⟨chain, containers, hlink, hchain, hre₂⟩ := link_spec mode hchain₁ hi hnew
  have hre : Refilled i message (i :: free ++ members id.index) table.pool.containers containers := by
    refine .trans_relinked ⟨hre₁.mono ?_, hre₁.self, hre₁.others⟩ ⟨hre₂.mono ?_, hre₂.message⟩
    · exact List.subset_append_left ..
    · exact List.cons_subset.2 ⟨List.mem_append_left _ (List.mem_cons_self ..), List.subset_append_right ..⟩
  have hpool : ({ pool₁ with containers } : MessagePool).Holds free := by
    refine ⟨hpool₁.chain.congr fun j hj => hre₂.outside j fun hm => ?_, hpool₁.available⟩
    rcases List.mem_cons.1 hm with rfl | hm
    · exact (List.nodup_cons.1 h.pool.chain.nodup).1 hj
    · exact h.not_mem_free hlt hm (List.mem_cons_of_mem _ hj)
  refine ⟨chain, { pool₁ with containers }, ?_, h.put hlt hpool ⟨hchain, ?_, hroom, ?_⟩
    (fun _ => h0) hre.toSameOutside ?_, hre⟩
  · rw [push_of_get hget, if_neg (Nat.not_le.2 hroom), htake, lift_ok, pure_bind]
    dsimp only
    rw [hlink, lift_ok, pure_bind, Checked.write_eq _ hlt]; rfl
  · rw [PostMode.length_add, ← hqueue.count]
  · intro hbusy
    rw [show queue.busy = false from hbusy] at hbusy'
    cases hbusy'
  · refine ((mode.add_perm _ _).append_left free).trans ?_
    exact List.perm_middle

end Push

/-! ### Pop -/

theorem pop_nil (hq : table.queues[q]? = some queue)
    (hqueue : queue.Holds table.pool.containers []) : table.pop ⟨q⟩ = .ok (none, table) := by
  unfold pop
  rw [Checked.read_of_getElem? hq, Checked.ok_bind, Chain.popFront_nil hqueue.chain]; rfl

theorem pop_cons {id : QueueId} {i : Nat} {list : List Nat} (h : table.Holds free members)
    (hq : table.queues[id.index]? = some queue) (hlist : members id.index = i :: list) :
    ∃ container chain pool', table.pool.containers[i]? = some container ∧
      table.pop id = .ok (some container.message,
        table.put id { queue with chain, count := queue.count - 1 } pool') ∧
      (table.put id { queue with chain, count := queue.count - 1 } pool').Holds (free ++ [i])
        (reassign members id.index list) ∧
      Refilled i 0 (free ++ i :: list) table.pool.containers pool'.containers := by
  have hlt := (Array.getElem?_eq_some_iff.1 hq).1
  have hqueue := h.queue id.index queue hq
  have hfree {j : Nat} (hj : j ∈ members id.index) : j ∉ free := h.not_mem_free hlt hj
  rw [hlist] at hqueue hfree
  have hself : i ∈ i :: list := List.mem_cons_self ..
  have hi := hqueue.chain.lt_size hself
  have hpos : 1 ≤ queue.count := by rw [hqueue.count]; exact Nat.succ_pos _
  -- the first member is taken off the chain of the queue and put behind the free containers
  obtain ⟨chain, containers, hpop, hchain, hre₁⟩ := Chain.popFront_cons hqueue.chain
  have hpool₁ : ({ table.pool with containers } : MessagePool).Holds free :=
    ⟨h.pool.chain.congr fun j hj => hre₁.outside j fun hm => hfree hm hj, h.pool.available⟩
  obtain ⟨pool', hgive, hpool', hre₂⟩ :=
    MessagePool.give_spec hpool₁ (by rw [hre₁.size]; exact hi) (hfree hself)
  have hre : Refilled i 0 (free ++ i :: list) table.pool.containers pool'.containers := by
    refine .relinked_trans ⟨hre₁.mono ?_, hre₁.message⟩ ⟨hre₂.mono ?_, hre₂.self, hre₂.others⟩
    · exact List.subset_append_right ..
    · exact List.cons_subset.2 ⟨List.mem_append_right _ hself, List.subset_append_left ..⟩
  have hchain' : chain.Holds pool'.containers list := by
    refine hchain.congr fun j hj => hre₂.outside j fun hm => ?_
    rcases List.mem_cons.1 hm with rfl | hm
    · exact (List.nodup_cons.1 hqueue.chain.nodup).1 hj
    · exact hfree (List.mem_cons_of_mem _ hj) hm
  have hmessage := hre₁.message i
  rw [Array.getElem?_eq_getElem hi, Array.getElem?_eq_getElem (by rw [hre₁.size]; exact hi)] at hmessage
  refine ⟨_, chain, pool', Array.getElem?_eq_getElem hi, ?_, h.put hlt hpool' ⟨hchain', ?_, ?_, ?_⟩
    (fun hbusy => h.index_pos hq hbusy) (by rw [hlist]; exact hre.toSameOutside) ?_, hre⟩
  · unfold pop
    rw [Checked.read_of_getElem? hq, Checked.ok_bind, hpop, Checked.ok_bind]
    dsimp only
    rw [Checked.sub_eq hpos, Checked.ok_bind, Checked.read_eq (by rw [hre₁.size]; exact hi),
      Checked.ok_bind, hgive, Checked.ok_bind, Checked.write_eq _ hlt, Checked.ok_bind,
      Option.some.inj hmessage]
    rfl
  · show queue.count - 1 = list.length
    rw [hqueue.count]; rfl
  · exact Nat.le_trans (Nat.sub_le ..) hqueue.depth
  · intro hbusy
    cases hqueue.vacant hbusy
  · rw [hlist, List.append_assoc, List.singleton_append]

end QueueTable

end Executive
