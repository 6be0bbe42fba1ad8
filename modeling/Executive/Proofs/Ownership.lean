/-
Who owns the objects of the timer heap (`run_owns_objects`). The object of a task is put on the heap by a
sleep of the task alone, and it is taken off when the task is freed, so that a task whose object is
scheduled is in use (`Employed`); a timer whose object is scheduled is running (`Live`). What an object
does when it is due tells whose object it is, so that every scheduled object has an owner (`Owned`) and
no heap holds more objects than there are owners.
-/
import Executive.Proofs.Entries
import Executive.Proofs.Kernel.Room
import Executive.Proofs.Sleep

namespace Executive

/-! ## Counting entries -/

section Places

variable {α : Type}

/-- The places of a table whose entries pass a test. -/
def placesWhere (entries : Array α) (test : α → Bool) : List Nat :=
  (List.range entries.size).filter fun i => entries[i]?.any test

theorem mem_placesWhere {entries : Array α} {test : α → Bool} {i : Nat} {entry : α}
    (hentry : entries[i]? = some entry) (htest : test entry = true) : i ∈ placesWhere entries test := by
  have hlt := (Array.getElem?_eq_some_iff.1 hentry).1
  rw [placesWhere, List.mem_filter, List.mem_range, hentry]
  exact ⟨hlt, htest⟩

theorem length_placesWhere (entries : Array α) (test : α → Bool) :
    (placesWhere entries test).length = entries.countP test := by
  have hentries : (List.range entries.size).map (fun i => entries[i]?) = entries.toList.map some := by
    apply List.ext_getElem
    · simp
    · intro i hi _
      simp only [List.length_map, List.length_range] at hi
      simp [hi]
  calc (placesWhere entries test).length
      = ((List.range entries.size).map fun i => entries[i]?).countP (·.any test) := by
        rw [placesWhere, ← List.countP_eq_length_filter, List.countP_map]; rfl
    _ = entries.countP test := by
        rw [hentries, List.countP_map, ← Array.countP_toList]; rfl

end Places

/-! ## Marks of objects -/

/-- A mark of the objects of a heap: objects that are alike have it together, the due tick has nothing to
do with it, and an object that is taken off the heap loses it. -/
structure TimerObject.IsMark (P : TimerObject → Prop) : Prop where
  alike : ∀ {x y : TimerObject}, x.Alike y → P y → P x
  rescheduled : ∀ (x : TimerObject) (wake : Nat), P { x with wake } → P x
  cleared : ∀ x : TimerObject, ¬ P { x with slot := 0, pending := false }

theorem TimerObject.isMark_scheduled : IsMark (·.slot ≠ 0) where
  alike halike hslot h0 := hslot (halike.scheduled.2 h0)
  rescheduled _ _ hslot := hslot
  cleared _ hslot := hslot rfl

theorem TimerObject.isMark_pending : IsMark (·.pending = true) where
  alike halike hpending := halike.pending.symm.trans hpending
  rescheduled _ _ hpending := hpending
  cleared _ hpending := nomatch hpending

namespace Kernel

variable {kernel : Kernel} {s t : Section} {id : TaskId} {object : ObjectId} {P : TimerObject → Prop}

/-! ## The objects of tasks -/

/-- A task is in use if its object has a mark. -/
def Attended (P : TimerObject → Prop) (kernel : Kernel) : Prop :=
  ∀ (id : TaskId) (task : Task), kernel.tasks[id.index]? = some task →
    P (kernel.heap.object (sleepObject id)) → kernel.tasks.get id = .ok task

/-- A task is in use if its object is on the heap. -/
def Employed (kernel : Kernel) : Prop :=
  ∀ (id : TaskId) (task : Task), kernel.tasks[id.index]? = some task →
    (kernel.heap.object (sleepObject id)).slot ≠ 0 → kernel.tasks.get id = .ok task

/-- Only a sleep of a task in use marks the object of the task. -/
theorem Performed.marked (hP : TimerObject.IsMark P) {operation : Operation}
    {r : Except Error (Progress Value)} (hwf : s.kernel.WellFormed) (h : Performed s operation r t)
    (hid : id.index < s.kernel.tasks.size) (hmark : P (t.kernel.heap.object (sleepObject id))) :
    P (s.kernel.heap.object (sleepObject id)) ∨ ∃ task, s.kernel.tasks.get id = .ok task := by
  by_cases hop : sleeperOf operation = some id
  · cases operation with
    | sleep =>
      cases hop
      obtain ⟨_, h, -⟩ := h
      cases h with
      | refused => exact Or.inl hmark
      | interrupted hget => exact Or.inr ⟨_, hget⟩
      | waits hget => exact Or.inr ⟨_, hget⟩
    | freeTask =>
      cases hop
      obtain ⟨_, h, -⟩ := h
      cases h with
      | refused => exact Or.inl hmark
      | freed hget => exact Or.inr ⟨_, hget⟩
    | _ => cases hop
  · exact Or.inl (hP.alike ((h.handled hwf).alike (objectOf_ne hid hop)) hmark)

/-- The object of a task that has been freed has lost its marks. -/
theorem TaskFreed.marked (hP : TimerObject.IsMark P) {r : Except Error Unit} (h : TaskFreed id s r t)
    (hmark : P (t.kernel.heap.object (sleepObject id))) : t = s := by
  cases h with
  | refused => rfl
  | freed _ hremove =>
    rw [heap_setTask, heap_setHeap, hremove.object] at hmark
    exact absurd hmark (hP.cleared _)

theorem Resumed.marked (hP : TimerObject.IsMark P) {wait : Wait} {r : Except Error (Progress Value)}
    (h : Resumed s wait r t) (hmark : P (t.kernel.heap.object (sleepObject id))) :
    P (s.kernel.heap.object (sleepObject id)) := by
  by_cases hwait : wait = .sleep id
  · subst hwait
    obtain ⟨_, h, -⟩ := h
    cases h with
    | woken | waits => exact hmark
    | interrupted _ _ _ hremove =>
      rw [heap_setTask, heap_setHeap, hremove.object] at hmark
      exact absurd hmark (hP.cleared _)
  · exact hP.alike (h.handled.alike (objectOfWait_ne hwait)) hmark

/-- A delivery that goes on or ends marks no object. -/
theorem NextDue.marked (hP : TimerObject.IsMark P) {action : Option TimerAction} (h : NextDue s action t)
    (hmark : P (t.kernel.heap.object object)) : P (s.kernel.heap.object object) := by
  cases h.turned object with
  | kept halike => exact hP.alike halike hmark
  | taken _ _ hobject =>
    rw [hobject] at hmark
    exact absurd hmark (hP.cleared _)
  | setBack _ _ hobject =>
    rw [hobject] at hmark
    exact hP.rescheduled _ _ hmark
  | off _ hobject => rwa [hobject] at hmark

/-! ## Owners -/

/-- The owner of an object: a task in use, whose sleep it ends, or a running timer, which it fires. -/
inductive Owned (kernel : Kernel) (object : ObjectId) : Prop
  | byTask {id : TaskId} {task : Task} (hpos : 0 < id.index) (hlt : id.index < kernel.config.maxTasks)
    (hobject : object = id.index) (haction : (kernel.heap.object object).action = some (.wakeTask id))
    (hbusy : kernel.tasks.get id = .ok task)
  | byTimer {id : TimerId} {reload : Option Nat} (hlt : id.index < kernel.config.maxAppTimers)
    (hobject : object = kernel.config.maxTasks + id.index)
    (haction : (kernel.heap.object object).action = some (.fireTimer id)) (hrunning : kernel.Running id reload)

/-- A scheduled object belongs to whom its action is about. -/
theorem WellFormed.owned (h : kernel.WellFormed) (hlive : ∀ id, Live id kernel)
    (hemployed : kernel.Employed) (hslot : (kernel.heap.object object).slot ≠ 0) :
    kernel.Owned object := by
  obtain ⟨action, haction⟩ := Option.isSome_iff_exists.1 (h.heap.armed object hslot)
  have hserves := h.serves object action haction
  cases action with
  | wakeTask id =>
    obtain ⟨hlt, rfl⟩ := hserves
    have hget := hemployed id _ (Array.getElem?_eq_getElem (h.tasks_size ▸ hlt)) hslot
    exact .byTask (TaskTable.get_eq_ok.1 hget).1 hlt rfl haction hget
  | fireTimer id =>
    have heq := h.eq_timerObject hserves
    subst heq
    obtain ⟨reload, hrunning⟩ := hlive id hslot
    exact .byTimer hserves.1 hserves.2 haction hrunning

/-- Whether an entry of the timer table has a running timer. -/
def isActive (entry : Option Timer) : Bool := TimerState.ofEntry entry = .active

theorem Running.isActive {id : TimerId} {reload : Option Nat} (h : kernel.Running id reload) :
    ∃ entry, kernel.timers[id.index]? = some entry ∧ Kernel.isActive entry = true := by
  obtain ⟨target, hget⟩ := h
  exact ⟨_, TimerTable.get_eq_ok.1 hget, rfl⟩

/-- There are no more scheduled objects than tasks in use and running timers. -/
theorem WellFormed.inUse_le (h : kernel.WellFormed)
    (howned : ∀ object, (kernel.heap.object object).slot ≠ 0 → kernel.Owned object) :
    kernel.heap.inUse ≤ kernel.tasks.countP Task.busy + kernel.timers.countP isActive := by
  have hsubset : kernel.heap.scheduledObjects ⊆ placesWhere kernel.tasks Task.busy ++
      (placesWhere kernel.timers isActive).map (kernel.config.maxTasks + ·) := by
    intro object hobject
    rw [List.mem_append, List.mem_map]
    cases howned object (h.heap.mem_scheduledObjects.1 hobject) with
    | byTask _ _ heq _ hget =>
      obtain ⟨-, hentry, hbusy⟩ := TaskTable.get_eq_ok.1 hget
      exact Or.inl (heq ▸ mem_placesWhere hentry hbusy)
    | byTimer _ heq _ hrunning =>
      obtain ⟨entry, hentry, hactive⟩ := hrunning.isActive
      exact Or.inr ⟨_, mem_placesWhere hentry hactive, heq.symm⟩
  have hle := (List.subperm_of_subset h.heap.nodup_scheduledObjects hsubset).length_le
  simpa [TimerHeap.length_scheduledObjects, length_placesWhere] using hle

end Kernel

namespace System

open Kernel

variable {system system' : System} {signals : List Signal} {move : Move} {answer : Answer} {id : TaskId}
  {P : TimerObject → Prop}

theorem Moved.marked (hP : TimerObject.IsMark P) (hmoved : Moved system move answer signals system')
    (hwf : system.WellFormed) (hid : id.index < system.kernel.tasks.size)
    (hmark : P (system'.kernel.heap.object (sleepObject id))) :
    P (system.kernel.heap.object (sleepObject id)) ∨ ∃ task, system.kernel.tasks.get id = .ok task := by
  cases hmoved with
  | unready | waits | inactive | busy => exact Or.inl hmark
  | @blocked _ _ t hcall =>
    have hkernel := @kernel_leave system t
    exact hcall.marked hP hwf.kernel hid (hkernel ▸ hmark)
  | returned hcall =>
    rw [kernel_leave] at hmark
    exact hcall.marked hP hwf.kernel hid hmark
  | ended _ hlook =>
    rw [kernel_leave] at hmark
    exact Or.inl (hlook.marked hP hmark)
  | acted _ hdone =>
    rw [kernel_leave] at hmark
    exact Or.inl (hP.alike ((hdone.handled hwf.kernel).alike (objectOfAction_ne hid _)) hmark)
  | @began _ _ t hnext | @passed _ t hnext | @wentOn _ _ t _ hnext | @delivered _ t _ hnext =>
    have hkernel := @kernel_leave system t
    have hbefore := hnext.marked hP (hkernel ▸ hmark)
    exact Or.inl hbefore

/-- To free a task takes its object off the heap, unless the task is refused. -/
theorem Moved.freed (hP : TimerObject.IsMark P) (hmoved : Moved system move answer signals system')
    (hfrees : move.frees = some id) (hmark : P (system'.kernel.heap.object (sleepObject id))) :
    system'.kernel = system.kernel := by
  cases hmoved with
  | @returned operation _ _ hcall =>
    rw [kernel_leave] at hmark ⊢
    cases operation with
    | freeTask =>
      cases hfrees
      obtain ⟨_, hfreed, -⟩ := hcall
      rw [hfreed.marked hP hmark]
    | _ => cases hfrees
  | @blocked operation _ _ hcall =>
    cases operation with
    | freeTask => exact absurd hcall Gives.not_parked
    | _ => cases hfrees
  | _ => cases hfrees

/-- A task whose object has a mark stays in use. -/
theorem Moved.attended (hP : TimerObject.IsMark P) (hmoved : Moved system move answer signals system')
    (hwf : system.WellFormed) (hattended : system.kernel.Attended P) : system'.kernel.Attended P := by
  intro id new hnew hmark
  obtain ⟨old, hold, hstep⟩ := hmoved.tasks id.index new hnew
  have hget : system.kernel.tasks.get id = .ok old := by
    rcases hmoved.marked hP hwf (Array.getElem?_eq_some_iff.1 hold).1 hmark with hbefore | ⟨task, hget⟩
    · exact hattended id old hold hbefore
    · obtain ⟨-, hentry, -⟩ := TaskTable.get_eq_ok.1 hget
      cases hold.symm.trans hentry
      exact hget
  by_cases hfrees : move.frees = some id
  · rw [hmoved.freed hP hfrees hmark] at hnew ⊢
    cases hold.symm.trans hnew
    exact hget
  · obtain ⟨hpos, -, hbusy⟩ := TaskTable.get_eq_ok.1 hget
    exact TaskTable.get_eq_ok.2 ⟨hpos, hnew, hstep.busy hbusy hfrees⟩

/-- An action in hand has been there before, or it is that of an object which was on the heap. -/
theorem Moved.mem_deliveries {action : TimerAction} (hmoved : Moved system move answer signals system')
    (haction : some action ∈ system'.deliveries) : some action ∈ system.deliveries ∨
      ∃ object, (system.kernel.heap.object object).slot ≠ 0 ∧
        (system.kernel.heap.object object).action = some action := by
  have hpopped {s t : Section} {next : TimerAction} (hnext : NextDue s (some next) t) : ∃ object,
      (s.kernel.heap.object object).slot ≠ 0 ∧ (s.kernel.heap.object object).action = some next := by
    cases hnext with
    | popped hpop => exact ⟨_, hpop.scheduled, hpop.armed⟩
  cases hmoved with
  | unready | waits | inactive | busy => exact Or.inl haction
  | @blocked _ _ t =>
    have hdeliveries := @deliveries_leave system t
    exact Or.inl (hdeliveries ▸ haction)
  | returned | ended | passed =>
    rw [deliveries_leave] at haction
    exact Or.inl haction
  | began hnext =>
    rcases List.mem_cons.1 haction with heq | hold
    · cases heq
      exact Or.inr (hpopped hnext)
    · exact Or.inl hold
  | acted =>
    rw [deliveries_leave] at haction
    rcases List.mem_or_eq_of_mem_set haction with hold | heq
    · exact Or.inl hold
    · cases heq
  | wentOn _ hnext =>
    rcases List.mem_or_eq_of_mem_set haction with hold | heq
    · exact Or.inl hold
    · cases heq
      exact Or.inr (hpopped hnext)
  | delivered => exact Or.inl ((List.eraseIdx_sublist _ _).mem haction)

/-- Every task with its object on the heap is in use, and no action in hand is about task 0. -/
structure Tenanted (system : System) : Prop where
  employed : system.kernel.Employed
  wakes : ∀ id, some (.wakeTask id) ∈ system.deliveries → 0 < id.index

theorem ofConfig_tenanted (config : Config) : Tenanted { kernel := .ofConfig config } where
  employed _ _ _ hslot := absurd (congrArg TimerObject.slot (TimerHeap.object_ofSize _ _ _ _)) hslot
  wakes _ haction := nomatch haction

theorem Tenanted.moved (h : system.Tenanted) (hwf : system.WellFormed)
    (hmoved : Moved system move answer signals system') : system'.Tenanted where
  employed := hmoved.attended TimerObject.isMark_scheduled hwf h.employed
  wakes id haction := by
    rcases hmoved.mem_deliveries haction with hold | ⟨object, hslot, harmed⟩
    · exact h.wakes id hold
    · obtain ⟨hlt, rfl⟩ := hwf.kernel.serves object _ harmed
      have hentry := Array.getElem?_eq_getElem (hwf.kernel.tasks_size ▸ hlt)
      exact (TaskTable.get_eq_ok.1 (h.employed id _ hentry hslot)).1

theorem call_scheduledObjects (system : System) : system.call .scheduledObjects =
    .ok (.returned (.ok (.count system.kernel.heap.inUse)), [], system) :=
  call_eq_of_ends (by simp [Kernel.perform, Kernel.scheduledObjects, Except.map])

/-- In every run of a valid configuration each scheduled object belongs to a task in use or to a running
timer, and does what its owner is there for; a task that is not in use and a timer that is not running
have no object on the heap. The actions in hand are about tasks and timers that can be in use, and the
scheduled objects are no more than their owners. -/
theorem run_owns_objects {config : Config} (h : config.fault? = none) (moves : List Move) :
    ∃ system, run { kernel := .ofConfig config } moves = .ok system ∧ system.kernel.config = config ∧
      (∀ object, (system.kernel.heap.object object).slot ≠ 0 → system.kernel.Owned object) ∧
      (∀ id, some (.wakeTask id) ∈ system.deliveries → 0 < id.index ∧ id.index < config.maxTasks) ∧
      (∀ id, some (.fireTimer id) ∈ system.deliveries → id.index < config.maxAppTimers) ∧
      (∀ id, id.index < config.maxTasks → (∀ task, system.kernel.tasks.get id ≠ .ok task) →
        (system.kernel.heap.object (sleepObject id)).slot = 0) ∧
      (∀ id state, system.kernel.timers.state id = .ok state → state ≠ .active →
        ¬ system.kernel.Scheduled id) ∧
      ∃ count, system.call .scheduledObjects = .ok (.returned (.ok (.count count)), [], system) ∧
        count ≤ system.kernel.tasks.countP Task.busy + system.kernel.timers.countP isActive := by
  obtain ⟨system, hrun, hwf, rfl, htimed, htenanted⟩ :=
    @run_invariant (fun system => system.Timed ∧ system.Tenanted) config h
      ⟨ofConfig_timed h, ofConfig_tenanted config⟩
      (fun hwf _ hinv hmoved => ⟨hinv.1.move hwf hmoved, hinv.2.moved hwf hmoved⟩) moves
  have howned (object : ObjectId) (hslot : (system.kernel.heap.object object).slot ≠ 0) :
      system.kernel.Owned object := hwf.kernel.owned htimed.live htenanted.employed hslot
  refine ⟨system, hrun, rfl, howned, fun id haction => ⟨htenanted.wakes id haction, ?_⟩, fun id haction => ?_,
    fun id hlt hfree => ?_, fun id state hstate hidle hscheduled => ?_, _, call_scheduledObjects system,
    hwf.kernel.inUse_le howned⟩
  · obtain ⟨_, hserves⟩ := hwf.actions _ haction
    exact hserves.1
  · obtain ⟨_, hserves⟩ := hwf.actions _ haction
    exact hserves.1
  · have hentry := Array.getElem?_eq_getElem (hwf.kernel.tasks_size ▸ hlt)
    exact Decidable.byContradiction fun hslot => hfree _ (htenanted.employed id _ hentry hslot)
  · obtain ⟨reload, target, hget⟩ := htimed.live id hscheduled
    rw [TimerTable.state, TimerTable.get_eq_ok.1 hget] at hstate
    cases hstate
    exact hidle rfl

/-- The entry of a task is freed and given to another one, and that of a timer too, while the actions that
their objects had are in the hands of two deliveries. -/
def reusedMoves : List Move :=
  [.call (.allocateTask "old" {}), .call (.sleep ⟨1⟩ 1), .call (.createTimer (.event ⟨1⟩ 1)),
    .call (.startTimer ⟨0⟩ 1 none), .advance 1, .advance 0, .call (.freeTask ⟨1⟩),
    .call (.allocateTask "new" {}), .call (.sleep ⟨1⟩ 7), .call (.deleteTimer ⟨0⟩),
    .call (.createTimer (.event ⟨1⟩ 2)), .call (.startTimer ⟨0⟩ 5 (some 5))]

/-- Both objects are on the heap again, and both have an owner. -/
theorem reusedMoves_owns_objects : roomy.fault? = none ∧
    ∃ system, run { kernel := .ofConfig roomy } reusedMoves = .ok system ∧
      system.deliveries = [some (.fireTimer ⟨0⟩), some (.wakeTask ⟨1⟩)] ∧ system.kernel.heap.inUse = 2 ∧
      system.kernel.Owned 1 ∧ system.kernel.Owned 2 := by
  obtain ⟨system, hrun, -, howned, -⟩ := run_owns_objects (show roomy.fault? = none by decide) reusedMoves
  have hend : (run { kernel := .ofConfig roomy } reusedMoves).toOption.map (fun system =>
      (system.deliveries, system.kernel.heap.inUse, (system.kernel.heap.object 1).slot,
        (system.kernel.heap.object 2).slot)) =
      some ([some (.fireTimer ⟨0⟩), some (.wakeTask ⟨1⟩)], 2, 2, 1) := by decide +kernel
  rw [hrun] at hend
  obtain ⟨hdeliveries, hend⟩ := Prod.mk.inj (Option.some.inj hend)
  obtain ⟨hinUse, hend⟩ := Prod.mk.inj hend
  obtain ⟨hfirst, hsecond⟩ := Prod.mk.inj hend
  exact ⟨by decide, system, hrun, hdeliveries, hinUse, howned 1 (by rw [hfirst]; decide),
    howned 2 (by rw [hsecond]; decide)⟩

end System

end Executive
