/-
What a look-up in a registry finds: entries in use by their number, and a vacant entry for a
newcomer, which is never entry 0. In a registry whose names are distinct an entry is found by its
name, and what becomes of a newcomer is settled by the names in use.
-/
import Executive.Queue
import Executive.Task

namespace Executive

namespace Registry

variable {α : Type} [Named α] {entries : Array α} {i : Nat} {entry : α}

theorem get?_eq_some : get? entries i = some entry ↔
    0 < i ∧ entries[i]? = some entry ∧ Named.busy entry = true := by
  unfold get?
  split
  · rename_i h0
    rw [Option.filter_eq_some_iff]
    constructor
    · intro h; exact ⟨h0, h⟩
    · rintro ⟨-, h⟩; exact h
  · rename_i h0
    constructor
    · intro h; cases h
    · rintro ⟨hpos, -⟩; exact absurd hpos h0

/-- A change of all entries that leaves those in use in use changes what is found. -/
theorem get?_mapIdx {f : Nat → α → α} (hbusy : ∀ i entry, Named.busy (f i entry) = Named.busy entry) :
    get? (entries.mapIdx f) i = (get? entries i).map (f i) := by
  unfold get?
  rw [Array.getElem?_mapIdx, Option.filter_map]
  split
  · exact congrArg (Option.map (f i)) (congrArg (Option.filter · _) (funext (hbusy i)))
  · rfl

omit [Named α] in
theorem first?_eq_some {test : α → Bool} (h : first? entries test = some i) :
    0 < i ∧ ∃ entry, entries[i]? = some entry ∧ test entry = true := by
  have hfound := List.find?_some h
  rw [Bool.and_eq_true, decide_eq_true_eq, Option.any_eq_true] at hfound
  exact hfound

/-- A newcomer gets a vacant entry. -/
theorem place_eq_ok {name : String} {full : Error} (h : place entries name full = .ok i) :
    0 < i ∧ ∃ entry, entries[i]? = some entry ∧ Named.busy entry = false := by
  unfold place at h
  split at h
  · cases h
  split at h
  · cases h
  split at h
  · rename_i hvacant
    cases h
    obtain ⟨h0, entry, hentry, hbusy⟩ := first?_eq_some hvacant
    exact ⟨h0, entry, hentry, by simpa using hbusy⟩
  · cases h

/-- A newcomer is refused for its name or for want of room. -/
theorem place_eq_error {name : String} {full error : Error} (h : place entries name full = .error error) :
    error = .invalidName ∨ error = .nameAlreadyAssigned ∨ error = full := by
  unfold place at h
  split at h
  · cases h
    exact Or.inl rfl
  split at h
  · cases h
    exact Or.inr (Or.inl rfl)
  split at h
  · cases h
  · cases h
    exact Or.inr (Or.inr rfl)

/-! ## Names -/

/-- The name under which an entry is in use. -/
def nameAt? (entries : Array α) (i : Nat) : Option String :=
  (entries[i]?.filter Named.busy).map Named.name

theorem nameAt?_eq_some {name : String} : nameAt? entries i = some name ↔
    ∃ entry, entries[i]? = some entry ∧ Named.busy entry = true ∧ Named.name entry = name := by
  unfold nameAt?
  rw [Option.map_eq_some_iff]
  refine exists_congr fun entry => ?_
  rw [Option.filter_eq_some_iff, and_assoc]

theorem nameAt?_eq_none (hentry : entries[i]? = some entry) :
    nameAt? entries i = none ↔ Named.busy entry = false := by
  unfold nameAt?
  rw [Option.map_eq_none_iff, Option.filter_eq_none_iff, hentry]
  simp

/-- Entry 0 is vacant, and the entries in use have object names, no two of them the same. -/
structure Distinct (entries : Array α) : Prop where
  reserved : nameAt? entries 0 = none
  named : ∀ i name, nameAt? entries i = some name → isObjectName name = true
  unique : ∀ i j name, nameAt? entries i = some name → nameAt? entries j = some name → i = j

theorem Distinct.pos (h : Distinct entries) {name : String} (hname : nameAt? entries i = some name) :
    0 < i := by
  refine Nat.pos_of_ne_zero fun h0 => ?_
  rw [h0, h.reserved] at hname
  cases hname

/-- No name is in use in a registry whose entries are vacant. -/
theorem distinct_of_vacant (h : ∀ (i : Nat) (entry : α), entries[i]? = some entry → Named.busy entry = false) :
    Distinct entries := by
  have hnone (i : Nat) (name : String) : nameAt? entries i ≠ some name := by
    intro hname
    obtain ⟨entry, hentry, hbusy, -⟩ := nameAt?_eq_some.1 hname
    rw [h i entry hentry] at hbusy
    cases hbusy
  refine ⟨Option.eq_none_iff_forall_ne_some.2 (hnone 0), fun i name hname => ?_, fun i _ name hname => ?_⟩
  · exact absurd hname (hnone i name)
  · exact absurd hname (hnone i name)

omit [Named α] in
theorem first?_eq_none {test : α → Bool} : first? entries test = none ↔
    ∀ i entry, 0 < i → entries[i]? = some entry → test entry = false := by
  unfold first?
  rw [List.find?_eq_none]
  constructor
  · intro h i entry hpos hentry
    have hfails := h i (List.mem_range.2 (Array.getElem?_eq_some_iff.1 hentry).1)
    rw [hentry] at hfails
    simpa [hpos] using hfails
  · intro h i hi htest
    rw [Bool.and_eq_true, decide_eq_true_eq, Option.any_eq_true] at htest
    obtain ⟨hpos, entry, hentry, hpasses⟩ := htest
    rw [h i entry hpos hentry] at hpasses
    cases hpasses

omit [Named α] in
/-- No entry before the one that is found passes the test. -/
theorem first?_least {test : α → Bool} (h : first? entries test = some i) {j : Nat} {other : α}
    (hpos : 0 < j) (hother : entries[j]? = some other) (htest : test other = true) : i ≤ j := by
  unfold first? at h
  rw [List.find?_range_eq_some] at h
  refine Nat.not_lt.1 fun hlt => ?_
  have hfails := h.2.2 j hlt
  rw [hother] at hfails
  simp [hpos, htest] at hfails

/-- A name leads to the entry that is in use under it. -/
theorem Distinct.find?_eq_some (h : Distinct entries) {name : String} :
    find? entries name = some i ↔ nameAt? entries i = some name := by
  have hfound {j : Nat} (hj : find? entries name = some j) : nameAt? entries j = some name := by
    obtain ⟨-, entry, hentry, htest⟩ := first?_eq_some hj
    rw [Bool.and_eq_true, beq_iff_eq] at htest
    exact nameAt?_eq_some.2 ⟨entry, hentry, htest⟩
  refine ⟨hfound, fun hname => ?_⟩
  cases hfind : find? entries name with
  | some j => rw [h.unique j i name (hfound hfind) hname]
  | none =>
    obtain ⟨entry, hentry, hbusy, hsame⟩ := nameAt?_eq_some.1 hname
    have hfails := first?_eq_none.1 hfind i entry (h.pos hname) hentry
    simp [hbusy, hsame] at hfails

theorem Distinct.find?_eq_none (h : Distinct entries) {name : String} :
    find? entries name = none ↔ ∀ i, nameAt? entries i ≠ some name := by
  rw [Option.eq_none_iff_forall_ne_some]
  exact forall_congr' fun i => not_congr h.find?_eq_some

/-! ## Newcomers -/

/-- An entry that may be given to a newcomer. -/
structure Vacant (entries : Array α) (i : Nat) : Prop where
  pos : 0 < i
  lt : i < entries.size
  unnamed : nameAt? entries i = none

theorem vacant_iff : Vacant entries i ↔
    0 < i ∧ ∃ entry, entries[i]? = some entry ∧ Named.busy entry = false := by
  constructor
  · rintro ⟨hpos, hlt, hunnamed⟩
    have hentry := Array.getElem?_eq_getElem hlt
    exact ⟨hpos, _, hentry, (nameAt?_eq_none hentry).1 hunnamed⟩
  · rintro ⟨hpos, entry, hentry, hbusy⟩
    exact ⟨hpos, (Array.getElem?_eq_some_iff.1 hentry).1, (nameAt?_eq_none hentry).2 hbusy⟩

theorem vacant?_eq_none : vacant? entries = none ↔ ∀ i, ¬ Vacant entries i := by
  unfold vacant?
  rw [first?_eq_none]
  constructor
  · intro h i hvacant
    obtain ⟨hpos, entry, hentry, hbusy⟩ := vacant_iff.1 hvacant
    have hfails := h i entry hpos hentry
    rw [hbusy] at hfails
    cases hfails
  · intro h i entry hpos hentry
    cases hbusy : Named.busy entry with
    | true => rfl
    | false => exact absurd (vacant_iff.2 ⟨hpos, entry, hentry, hbusy⟩) (h i)

theorem vacant?_eq_some : vacant? entries = some i ↔
    Vacant entries i ∧ ∀ j, Vacant entries j → i ≤ j := by
  have hfound {k : Nat} (hk : vacant? entries = some k) :
      Vacant entries k ∧ ∀ j, Vacant entries j → k ≤ j := by
    obtain ⟨hpos, entry, hentry, htest⟩ := first?_eq_some hk
    refine ⟨vacant_iff.2 ⟨hpos, entry, hentry, by simpa using htest⟩, fun j hvacant => ?_⟩
    obtain ⟨hposj, other, hother, hbusy⟩ := vacant_iff.1 hvacant
    exact first?_least hk hposj hother (by rw [hbusy]; rfl)
  refine ⟨hfound, fun ⟨hvacant, hleast⟩ => ?_⟩
  cases hfind : vacant? entries with
  | none => exact absurd hvacant (vacant?_eq_none.1 hfind i)
  | some k =>
    obtain ⟨hk, hleastk⟩ := hfound hfind
    rw [Nat.le_antisymm (hleastk i hvacant) (hleast k hk)]

/-- What becomes of a newcomer: its name must be an object name, then a new one, then an entry must be
vacant, and it gets the first one. -/
structure Admits (entries : Array α) (name : String) (full : Error) (r : Except Error Nat) : Prop where
  invalid : r = .error .invalidName ↔ isObjectName name = false
  assigned : r = .error .nameAlreadyAssigned ↔
    isObjectName name = true ∧ ∃ i, nameAt? entries i = some name
  full : r = .error full ↔ isObjectName name = true ∧ (∀ i, nameAt? entries i ≠ some name) ∧
    ∀ i, 0 < i → i < entries.size → nameAt? entries i ≠ none
  placed : ∀ i, r = .ok i ↔ isObjectName name = true ∧ (∀ j, nameAt? entries j ≠ some name) ∧
    Vacant entries i ∧ ∀ j, Vacant entries j → i ≤ j

theorem Distinct.place_admits (h : Distinct entries) (name : String) (full : Error)
    (hinvalid : full ≠ .invalidName) (hassigned : full ≠ .nameAlreadyAssigned) :
    Admits entries name full (place entries name full) := by
  have hfull : (∀ i, 0 < i → i < entries.size → nameAt? entries i ≠ none) ↔ vacant? entries = none := by
    rw [vacant?_eq_none]
    constructor
    · intro hall i hvacant
      exact hall i hvacant.pos hvacant.lt hvacant.unnamed
    · intro hall i hpos hlt hunnamed
      exact hall i ⟨hpos, hlt, hunnamed⟩
  unfold place
  cases hname : isObjectName name with
  | false =>
    constructor <;> simp [hname, hinvalid.symm]
  | true =>
    cases hfind : find? entries name with
    | some k =>
      have hk := h.find?_eq_some.1 hfind
      have hcarried : ¬ ∀ i, nameAt? entries i ≠ some name := fun hnew => hnew k hk
      constructor
      · simp [hname]
      · simpa [hname] using ⟨k, hk⟩
      · simp [hassigned.symm, hcarried]
      · simp [hcarried]
    | none =>
      have hnew := h.find?_eq_none.1 hfind
      have hcarried : ¬ ∃ i, nameAt? entries i = some name := fun ⟨i, hi⟩ => hnew i hi
      cases hvacant : vacant? entries with
      | none =>
        have hnone := vacant?_eq_none.1 hvacant
        constructor
        · simp [hname, hinvalid]
        · simp [hassigned, hcarried]
        · simp [hname, hnew, hfull, hvacant]
        · simp [hnone]
      | some k =>
        constructor
        · simp [hname]
        · simp [hcarried]
        · simp [hfull, hvacant]
        · intro i
          rw [← vacant?_eq_some, hvacant]
          simp [hname, hnew]

/-- The names of one registry are among those of another, in the same entries. -/
def Keeps (a b : Array α) : Prop := ∀ i name, nameAt? b i = some name → nameAt? a i = some name

theorem Keeps.refl (a : Array α) : Keeps a a := fun _ _ hname => hname

theorem Keeps.trans {a b c : Array α} (h : Keeps a b) (k : Keeps b c) : Keeps a c :=
  fun i name hname => h i name (k i name hname)

/-- One entry changes; if it is still in use, it was so before and has kept its name. -/
theorem Keeps.set {old new : α} (hold : entries[i]? = some old)
    (hnew : Named.busy new = true → Named.busy old = true ∧ Named.name old = Named.name new) :
    Keeps entries (entries.setIfInBounds i new) := by
  intro j name hname
  obtain ⟨entry, hentry, hbusy, hsame⟩ := nameAt?_eq_some.1 hname
  rw [Array.getElem?_setIfInBounds] at hentry
  split at hentry
  · rename_i hij
    subst hij
    split at hentry
    · cases hentry
      obtain ⟨hbusyOld, hkept⟩ := hnew hbusy
      exact nameAt?_eq_some.2 ⟨old, hold, hbusyOld, hkept.trans hsame⟩
    · cases hentry
  · exact nameAt?_eq_some.2 ⟨entry, hentry, hbusy, hsame⟩

theorem Distinct.kept {a b : Array α} (h : Distinct a) (hkeeps : Keeps a b) : Distinct b where
  reserved := Option.eq_none_iff_forall_ne_some.2 fun name hname => by
    have hzero := hkeeps 0 name hname
    rw [h.reserved] at hzero
    cases hzero
  named i name hname := h.named i name (hkeeps i name hname)
  unique i j name hi hj := h.unique i j name (hkeeps i name hi) (hkeeps j name hj)

theorem nameAt?_set (hi : i < entries.size) (new : α) (j : Nat) :
    nameAt? (entries.setIfInBounds i new) j =
      if i = j then if Named.busy new then some (Named.name new) else none else nameAt? entries j := by
  unfold nameAt?
  rw [Array.getElem?_setIfInBounds]
  by_cases hij : i = j
  · subst hij
    simp only [if_pos hi]
    cases hbusy : Named.busy new <;> simp [Option.filter, hbusy]
  · simp only [if_neg hij]

/-- A newcomer with a new object name keeps the names distinct. -/
theorem Distinct.joined (h : Distinct entries) {new : α} (hvacant : Vacant entries i)
    (hname : isObjectName (Named.name new) = true)
    (hnew : ∀ j, nameAt? entries j ≠ some (Named.name new)) :
    Distinct (entries.setIfInBounds i new) := by
  -- an entry with a name is the newcomer's, or one that had it before
  have hcases {j : Nat} {name : String} (hj : nameAt? (entries.setIfInBounds i new) j = some name) :
      j = i ∧ name = Named.name new ∨ nameAt? entries j = some name := by
    rw [nameAt?_set hvacant.lt] at hj
    split at hj
    · rename_i hij
      split at hj
      · exact Or.inl ⟨hij.symm, (Option.some.inj hj).symm⟩
      · cases hj
    · exact Or.inr hj
  refine ⟨Option.eq_none_iff_forall_ne_some.2 fun name hzero => ?_, fun j name hj => ?_,
    fun j k name hj hk => ?_⟩
  · rcases hcases hzero with ⟨heq, -⟩ | hold
    · exact absurd heq.symm (Nat.pos_iff_ne_zero.1 hvacant.pos)
    · rw [h.reserved] at hold
      cases hold
  · rcases hcases hj with ⟨-, rfl⟩ | hold
    · exact hname
    · exact h.named j name hold
  · rcases hcases hj with ⟨rfl, rfl⟩ | hold
    · rcases hcases hk with ⟨rfl, -⟩ | hold'
      · rfl
      · exact absurd hold' (hnew k)
    · rcases hcases hk with ⟨rfl, rfl⟩ | hold'
      · exact absurd hold (hnew j)
      · exact h.unique j k name hold hold'

end Registry

theorem QueueTable.get_eq_ok {table : QueueTable} {id : QueueId} {queue : Queue} :
    table.get id = .ok queue ↔
      0 < id.index ∧ table.queues[id.index]? = some queue ∧ queue.busy = true := by
  refine Iff.trans ?_ Registry.get?_eq_some
  unfold QueueTable.get
  cases Registry.get? table.queues id.index with
  | none =>
    constructor
    · intro h; cases h
    · intro h; cases h
  | some found =>
    constructor
    · intro h; cases h; rfl
    · intro h; cases h; rfl

theorem QueueTable.lt_size_of_get {table : QueueTable} {id : QueueId} {queue : Queue}
    (h : table.get id = .ok queue) : id.index < table.queues.size :=
  (Array.getElem?_eq_some_iff.1 (get_eq_ok.1 h).2.1).1

theorem TaskTable.get_eq_ok {tasks : TaskTable} {id : TaskId} {task : Task} :
    tasks.get id = .ok task ↔ 0 < id.index ∧ tasks[id.index]? = some task ∧ task.busy = true := by
  refine Iff.trans ?_ Registry.get?_eq_some
  unfold TaskTable.get
  cases Registry.get? tasks id.index with
  | none =>
    constructor
    · intro h; cases h
    · intro h; cases h
  | some found =>
    constructor
    · intro h; cases h; rfl
    · intro h; cases h; rfl

/-- The one reason why a task is refused. -/
theorem TaskTable.get_eq_error {tasks : TaskTable} {id : TaskId} {error : Error}
    (h : tasks.get id = .error error) : error = .invalidTask id := by
  unfold TaskTable.get at h
  split at h <;> cases h
  rfl

/-- The one reason why a queue is refused. -/
theorem QueueTable.get_eq_error {table : QueueTable} {id : QueueId} {error : Error}
    (h : table.get id = .error error) : error = .invalidQueue id := by
  unfold QueueTable.get at h
  split at h <;> cases h
  rfl

end Executive
