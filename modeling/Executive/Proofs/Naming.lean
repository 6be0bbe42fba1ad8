/-
The names of tasks and queues, and what becomes of a newcomer (`run_names_entries`). Names are brought
in one at a time, each under a check that it is new (`Registered`). The entry of a task that was freed
keeps what its owner left in it, and an entry is made anew when it is given away; the object with which
the task sleeps is in another table and is not, but it was taken off the heap with the old owner, and
nobody marks the object of a task that is not in use (`Attended`).
-/
import Executive.Proofs.Kernel.Names
import Executive.Proofs.Ownership

namespace Executive

/-! ## New entries -/

/-- A task as it is allocated: it has no events, and nobody waits or sleeps on its behalf. -/
structure Task.IsNew (task : Task) (name : String) (attributes : Attributes) : Prop where
  busy : task.busy = true
  name : task.name = name
  attributes : task.attributes = attributes
  posted : task.posted = 0
  postCount : task.postCount = 0
  waiting : task.waiting = false
  sleeping : task.sleeping = false
  interrupted : task.interrupted = false

/-- A queue as it is created: it has no messages, and nobody waits for one. -/
structure Queue.IsNew (queue : Queue) (name : String) (options : QueueOptions) : Prop where
  busy : queue.busy = true
  name : queue.name = name
  depth : queue.depth = options.depth
  binding : queue.binding = options.binding
  order : queue.order = options.order
  count : queue.count = 0
  chain : queue.chain = {}
  waiting : queue.waiting = false
  interrupted : queue.interrupted = false

namespace System

open Critical Kernel Registry

variable {system system' : System} {signals : List Signal} {move : Move} {answer : Answer}
  {outcome : Outcome} {name : String} {attributes : Attributes} {options : QueueOptions}

/-! ## Looking up and bringing in names -/

theorem call_identifyTask (system : System) (name : String) : system.call (.identifyTask name) =
    .ok (.returned ((system.kernel.tasks.find name).map .task), [], system) := by
  refine call_eq_of_ends ?_
  cases hfind : system.kernel.tasks.find name with
  | error error => simp [perform, identifyTask, hfind, Except.map]
  | ok id => simp [perform, identifyTask, hfind, Except.map]

theorem call_identifyQueue (system : System) (name : String) : system.call (.identifyQueue name) =
    .ok (.returned ((system.kernel.queues.find name).map .queue), [], system) := by
  refine call_eq_of_ends ?_
  cases hfind : system.kernel.queues.find name with
  | error error => simp [perform, identifyQueue, hfind, Except.map]
  | ok id => simp [perform, identifyQueue, hfind, Except.map]

/-- A system with one more task. -/
def withTask (system : System) (id : TaskId) (name : String) (attributes : Attributes) : System :=
  { system with kernel := system.kernel.setTask id { busy := true, name, attributes } }

theorem call_allocateTask (system : System) (name : String) (attributes : Attributes) :
    system.call (.allocateTask name attributes) =
      match place system.kernel.tasks name .noFreeTask with
      | .ok i => .ok (.returned (.ok (.task ⟨i⟩)), [.report (.taskAllocated ⟨i⟩ name)],
          system.withTask ⟨i⟩ name attributes)
      | .error error => .ok (.returned (.error error), [], system) := by
  cases hplace : place system.kernel.tasks name .noFreeTask with
  | error error =>
    refine call_eq_of_ends ?_
    simp [perform, allocateTask, TaskTable.allocate, hplace, Except.map]
  | ok i =>
    refine call_of_ends (t := ⟨system.kernel.setTask ⟨i⟩ { busy := true, name, attributes },
      [.report (.taskAllocated ⟨i⟩ name)]⟩) ?_
    simp [perform, allocateTask, TaskTable.allocate, hplace, Except.map, Kernel.setTask]

/-- A system with one more queue. -/
def withQueue (system : System) (id : QueueId) (name : String) (options : QueueOptions) : System :=
  let old := system.kernel.queues.queues[id.index]?.getD {}
  { system with kernel := system.kernel.setQueue id (old.opened name options) }

theorem call_createQueue (system : System) (name : String) (options : QueueOptions) :
    system.call (.createQueue name options) =
      match place system.kernel.queues.queues name .noFreeQueue with
      | .ok i => .ok (.returned (.ok (.queue ⟨i⟩)), [.report (.queueCreated ⟨i⟩ name options.depth)],
          system.withQueue ⟨i⟩ name options)
      | .error error => .ok (.returned (.error error), [], system) := by
  cases hplace : place system.kernel.queues.queues name .noFreeQueue with
  | error error =>
    refine call_eq_of_ends ?_
    simp [perform, createQueue, QueueTable.create, hplace, Except.map]
  | ok i =>
    obtain ⟨-, old, hold, -⟩ := place_eq_ok hplace
    have hcreate : system.kernel.queues.create name options =
        .ok (⟨i⟩, system.kernel.queues.setQueue ⟨i⟩ (old.opened name options)) := by
      have hmodify := Checked.modify_of_getElem? hold (·.opened name options)
      rw [QueueTable.create, hplace, QueueTable.setQueue, QueueTable.put, ← hmodify]
      rfl
    have hentry : system.kernel.queues.queues[i]?.getD {} = old := by rw [hold]; rfl
    simp only [withQueue, hentry]
    refine call_of_ends (t := ⟨system.kernel.setQueue ⟨i⟩ (old.opened name options),
      [.report (.queueCreated ⟨i⟩ name options.depth)]⟩) ?_
    simp [perform, createQueue, hcreate, Except.map, Kernel.setQueue, Kernel.putQueue, QueueTable.setQueue]

/-! ## The invariant -/

/-- The names of the tasks and those of the queues are distinct, and the object of a task that is not in
use is not pending. -/
structure Registered (system : System) : Prop where
  tasks : Distinct system.kernel.tasks
  queues : Distinct system.kernel.queues.queues
  attended : system.kernel.Attended (·.pending = true)

theorem ofConfig_registered (config : Config) : Registered { kernel := .ofConfig config } where
  tasks := distinct_of_vacant fun _ _ hentry => by rw [eq_of_tasks_ofConfig hentry]; rfl
  queues := distinct_of_vacant fun _ _ hentry => by rw [QueueTable.eq_of_ofSize hentry]; rfl
  attended id _ _ hpending := by
    cases hpending.symm.trans (congrArg TimerObject.pending (TimerHeap.object_ofSize ..))

/-- Whether a move may bring in a name. -/
def Move.Names : Move → Prop
  | .call operation => Kernel.Names operation
  | _ => False

theorem Moved.keepsNames (hmoved : Moved system move answer signals system') (hmove : ¬ move.Names) :
    KeepsNames system.kernel system'.kernel := by
  cases hmoved with
  | unready | waits | inactive | busy => exact .refl _
  | @blocked _ _ t hcall =>
    have hkept := hcall.keepsNames hmove
    rwa [← @kernel_leave system t] at hkept
  | returned hcall => rw [kernel_leave]; exact hcall.keepsNames hmove
  | ended _ hlook => rw [kernel_leave]; exact hlook.keepsNames
  | acted _ hdone => rw [kernel_leave]; exact hdone.keepsNames
  | @began _ _ t hnext | @wentOn _ _ t _ hnext | @delivered _ t _ hnext =>
    have hkept := hnext.keepsNames
    rw [← @kernel_leave system t] at hkept
    exact ⟨hkept.tasks, hkept.queues⟩
  | passed hnext =>
    rw [kernel_leave]
    exact ⟨hnext.keepsNames.tasks, hnext.keepsNames.queues⟩

/-- A task that is allocated has a new name. -/
theorem distinct_of_allocateTask (htasks : Distinct system.kernel.tasks)
    (hcall : system.call (.allocateTask name attributes) = .ok (outcome, signals, system')) :
    Distinct system'.kernel.tasks ∧ system'.kernel.queues = system.kernel.queues := by
  rw [call_allocateTask] at hcall
  split at hcall
  · rename_i i hplace
    cases hcall
    obtain ⟨hname, hnew, hvacant, -⟩ := ((htasks.place_admits name .noFreeTask nofun nofun).placed i).1 hplace
    exact ⟨htasks.joined hvacant hname hnew, rfl⟩
  · cases hcall
    exact ⟨htasks, rfl⟩

/-- A queue that is created has a new name. -/
theorem distinct_of_createQueue (hqueues : Distinct system.kernel.queues.queues)
    (hcall : system.call (.createQueue name options) = .ok (outcome, signals, system')) :
    Distinct system'.kernel.queues.queues ∧ system'.kernel.tasks = system.kernel.tasks := by
  rw [call_createQueue] at hcall
  split at hcall
  · rename_i i hplace
    cases hcall
    obtain ⟨hname, hnew, hvacant, -⟩ := ((hqueues.place_admits name .noFreeQueue nofun nofun).placed i).1 hplace
    exact ⟨hqueues.joined hvacant hname hnew, rfl⟩
  · cases hcall
    exact ⟨hqueues, rfl⟩

theorem Registered.observed (h : system.Registered) (hwf : system.WellFormed)
    (hobserve : system.observe move = .ok (answer, signals, system'))
    (hmoved : Moved system move answer signals system') : system'.Registered := by
  have hattended := hmoved.attended TimerObject.isMark_pending hwf h.attended
  have hkept (hmove : ¬ move.Names) : system'.Registered :=
    ⟨h.tasks.kept (hmoved.keepsNames hmove).tasks, h.queues.kept (hmoved.keepsNames hmove).queues, hattended⟩
  cases move with
  | call operation =>
    cases operation with
    | allocateTask name attributes =>
      obtain ⟨outcome, hcall⟩ := exists_call_of_observe hobserve
      obtain ⟨htasks, hqueues⟩ := distinct_of_allocateTask h.tasks hcall
      exact ⟨htasks, by rw [hqueues]; exact h.queues, hattended⟩
    | createQueue name options =>
      obtain ⟨outcome, hcall⟩ := exists_call_of_observe hobserve
      obtain ⟨hqueues, htasks⟩ := distinct_of_createQueue h.queues hcall
      exact ⟨by rw [htasks]; exact h.tasks, hqueues, hattended⟩
    | _ => exact hkept nofun
  | _ => exact hkept nofun

/-! ## Newcomers -/

/-- A task has come in, with nothing left over from whoever had its entry before, and nothing else has
changed. -/
structure TaskGained (system system' : System) (id : TaskId) (name : String) (attributes : Attributes) :
    Prop where
  entry : ∃ task, system'.kernel.tasks.get id = .ok task ∧ task.IsNew name attributes
  atRest : system'.kernel.AtRest id
  others : ∀ other : TaskId, other ≠ id →
    system'.kernel.tasks[other.index]? = system.kernel.tasks[other.index]?
  rest : ∃ tasks, system' = { system with kernel := { system.kernel with tasks } }

/-- A queue has come in, with nothing left over from whoever had its entry before but the count of the
deletions, and nothing else has changed. -/
structure QueueGained (system system' : System) (id : QueueId) (name : String) (options : QueueOptions) :
    Prop where
  entry : ∃ queue, system'.kernel.queues.get id = .ok queue ∧ queue.IsNew name options
  messages : (system'.kernel.queues.slot id).messages = []
  others : ∀ other : QueueId, other ≠ id →
    system'.kernel.queues.queues[other.index]? = system.kernel.queues.queues[other.index]?
  rest : ∃ queues, system' = { system with
    kernel := system.kernel.setQueues { system.kernel.queues with queues } }

/-- What comes of the allocation of a task. -/
def AllocatesTask (system : System) (name : String) (attributes : Attributes) : Prop :=
  ∃ (r : Except Error Nat) (signals : List Signal) (system' : System),
    system.call (.allocateTask name attributes) =
      .ok (.returned (r.map fun i => .task ⟨i⟩), signals, system') ∧
    Admits system.kernel.tasks name .noFreeTask r ∧ (∀ error, r = .error error → system' = system) ∧
    ∀ i, r = .ok i → TaskGained system system' ⟨i⟩ name attributes

/-- What comes of the creation of a queue. -/
def CreatesQueue (system : System) (name : String) (options : QueueOptions) : Prop :=
  ∃ (r : Except Error Nat) (signals : List Signal) (system' : System),
    system.call (.createQueue name options) =
      .ok (.returned (r.map fun i => .queue ⟨i⟩), signals, system') ∧
    Admits system.kernel.queues.queues name .noFreeQueue r ∧ (∀ error, r = .error error → system' = system) ∧
    ∀ i, r = .ok i → QueueGained system system' ⟨i⟩ name options

theorem Registered.taskGained (h : system.Registered) (hsound : system.kernel.heap.Sound) {i : Nat}
    (hvacant : Vacant system.kernel.tasks i) (name : String) (attributes : Attributes) :
    TaskGained system (system.withTask ⟨i⟩ name attributes) ⟨i⟩ name attributes := by
  obtain ⟨hpos, old, hold, hvacated⟩ := vacant_iff.1 hvacant
  have hbusy : old.busy = false := hvacated
  have hentry : (system.withTask ⟨i⟩ name attributes).kernel.tasks[i]? =
      some { busy := true, name, attributes } :=
    @getElem?_setTask system.kernel ⟨i⟩ old hold { busy := true, name, attributes }
  -- nobody has marked the object of the old owner since that was freed
  have hpending : (system.kernel.heap.object (sleepObject ⟨i⟩)).pending = false := by
    refine Bool.eq_false_iff.2 fun hpending => ?_
    have hget := (TaskTable.get_eq_ok.1 (h.attended ⟨i⟩ old hold hpending)).2.2
    rw [hbusy] at hget
    cases hget
  have hslot : (system.kernel.heap.object (sleepObject ⟨i⟩)).slot = 0 := by
    refine Decidable.byContradiction fun hslot => ?_
    rw [(hsound _ hslot).1] at hpending
    cases hpending
  refine ⟨⟨_, TaskTable.get_eq_ok.2 ⟨hpos, hentry, rfl⟩, rfl, rfl, rfl, rfl, rfl, rfl, rfl, rfl⟩,
    ⟨hslot, hpending, _, hentry, rfl, rfl⟩, fun other hother => ?_, _, rfl⟩
  exact Array.getElem?_setIfInBounds_ne fun heq => hother (by cases other; cases heq; rfl)

theorem queueGained (system : System) {i : Nat} (hvacant : Vacant system.kernel.queues.queues i)
    (name : String) (options : QueueOptions) :
    QueueGained system (system.withQueue ⟨i⟩ name options) ⟨i⟩ name options := by
  obtain ⟨hpos, old, hold, -⟩ := vacant_iff.1 hvacant
  have hqueue : system.kernel.queues.queues[i]?.getD {} = old := by rw [hold]; rfl
  have hentry : (system.withQueue ⟨i⟩ name options).kernel.queues.queues[i]? =
      some (old.opened name options) := by
    simp only [withQueue, hqueue]
    exact @getElem?_putQueue system.kernel ⟨i⟩ old hold (old.opened name options) _
  refine ⟨⟨_, QueueTable.get_eq_ok.2 ⟨hpos, hentry, rfl⟩, rfl, rfl, rfl, rfl, rfl, rfl, rfl, rfl, rfl⟩,
    ?_, fun other hother => ?_, _, rfl⟩
  · rw [@QueueTable.slot_of_empty _ ⟨i⟩ _ hentry rfl]
  · exact Array.getElem?_setIfInBounds_ne fun heq => hother (by cases other; cases heq; rfl)

theorem Registered.allocatesTask (h : system.Registered) (hsound : system.kernel.heap.Sound) (name : String)
    (attributes : Attributes) : system.AllocatesTask name attributes := by
  have hadmits := h.tasks.place_admits name .noFreeTask nofun nofun
  have hcall := call_allocateTask system name attributes
  cases hplace : place system.kernel.tasks name .noFreeTask with
  | error error =>
    rw [hplace] at hadmits hcall
    exact ⟨.error error, _, system, hcall, hadmits, fun _ _ => rfl, nofun⟩
  | ok i =>
    rw [hplace] at hadmits hcall
    refine ⟨.ok i, _, _, hcall, hadmits, nofun, ?_⟩
    rintro _ ⟨⟩
    exact h.taskGained hsound ((hadmits.placed i).1 rfl).2.2.1 name attributes

theorem Registered.createsQueue (h : system.Registered) (name : String) (options : QueueOptions) :
    system.CreatesQueue name options := by
  have hadmits := h.queues.place_admits name .noFreeQueue nofun nofun
  have hcall := call_createQueue system name options
  cases hplace : place system.kernel.queues.queues name .noFreeQueue with
  | error error =>
    rw [hplace] at hadmits hcall
    exact ⟨.error error, _, system, hcall, hadmits, fun _ _ => rfl, nofun⟩
  | ok i =>
    rw [hplace] at hadmits hcall
    refine ⟨.ok i, _, _, hcall, hadmits, nofun, ?_⟩
    rintro _ ⟨⟩
    exact queueGained system ((hadmits.placed i).1 rfl).2.2.1 name options

/-- A name leads to the task that is in use under it, and no other name leads anywhere. -/
def IdentifiesTask (system : System) (name : String) : Prop :=
  ∃ r : Except Error TaskId, system.call (.identifyTask name) = .ok (.returned (r.map .task), [], system) ∧
    (∀ id, r = .ok id ↔ nameAt? system.kernel.tasks id.index = some name) ∧
    ((∀ i, nameAt? system.kernel.tasks i ≠ some name) → r = .error .invalidName)

/-- A name leads to the queue that is in use under it, and no other name leads anywhere. -/
def IdentifiesQueue (system : System) (name : String) : Prop :=
  ∃ r : Except Error QueueId, system.call (.identifyQueue name) = .ok (.returned (r.map .queue), [], system) ∧
    (∀ id, r = .ok id ↔ nameAt? system.kernel.queues.queues id.index = some name) ∧
    ((∀ i, nameAt? system.kernel.queues.queues i ≠ some name) → r = .error .invalidName)

theorem Registered.identifiesTask (h : system.Registered) (name : String) : system.IdentifiesTask name := by
  refine ⟨_, call_identifyTask system name, fun id => ?_, fun hnew => ?_⟩
  · rw [← h.tasks.find?_eq_some, TaskTable.find]
    cases find? system.kernel.tasks name with
    | none => simp
    | some i => cases id; simp
  · rw [TaskTable.find, h.tasks.find?_eq_none.2 hnew]

theorem Registered.identifiesQueue (h : system.Registered) (name : String) : system.IdentifiesQueue name := by
  refine ⟨_, call_identifyQueue system name, fun id => ?_, fun hnew => ?_⟩
  · rw [← h.queues.find?_eq_some, QueueTable.find]
    cases find? system.kernel.queues.queues name with
    | none => simp
    | some i => cases id; simp
  · rw [QueueTable.find, h.queues.find?_eq_none.2 hnew]

/-- At every point of every run of a valid configuration the tasks in use have distinct object names, and
so have the queues; entry 0 of either table is vacant. A name leads to the entry that is in use under it.
A new task or queue is refused for a name that is no object name, then for one that is in use, then for
want of a vacant entry; otherwise it gets the first vacant entry, in which nothing is left of an old
owner, and nothing else changes. -/
theorem run_names_entries {config : Config} (h : config.fault? = none) (moves : List Move) :
    ∃ system, run { kernel := .ofConfig config } moves = .ok system ∧ system.kernel.config = config ∧
      Distinct system.kernel.tasks ∧ Distinct system.kernel.queues.queues ∧
      (∀ name, system.IdentifiesTask name) ∧ (∀ name, system.IdentifiesQueue name) ∧
      (∀ name attributes, system.AllocatesTask name attributes) ∧
      ∀ name options, system.CreatesQueue name options := by
  obtain ⟨system, hrun, -, hconfig, htimed, hregistered⟩ :=
    @run_observed (fun system => system.Timed ∧ system.Registered) config h
      ⟨ofConfig_timed h, ofConfig_registered config⟩
      (fun hwf _ hobserve hinv hmoved => ⟨hinv.1.move hwf hmoved, hinv.2.observed hwf hobserve hmoved⟩) moves
  exact ⟨system, hrun, hconfig, hregistered.tasks, hregistered.queues, hregistered.identifiesTask,
    hregistered.identifiesQueue, hregistered.allocatesTask htimed.sound, hregistered.createsQueue⟩

/-- A task is freed while it is asleep and has been interrupted, with events that a queue has posted, and
the queue is deleted with a message in it, after its receiver was interrupted. -/
def abandonedMoves : List Move :=
  [.call (.allocateTask "old" {}), .call (.createQueue "box" { depth := 2, binding := some ⟨⟨1⟩, 4⟩ }),
    .call (.receive ⟨1⟩ .indefinite), .call (.interruptReceiver ⟨1⟩), .call (.postMessage ⟨1⟩ 7 .fifo),
    .call (.sleep ⟨1⟩ 5), .call (.interruptTask ⟨1⟩), .call (.freeTask ⟨1⟩), .call (.deleteQueue ⟨1⟩)]

/-- What the task has left in its entry is not there any more when the entry is given away. -/
theorem abandonedMoves_names_entries : small.fault? = none ∧
    ∃ system, run { kernel := .ofConfig small } abandonedMoves = .ok system ∧
      system.kernel.tasks[1]? = some
        { name := "old", posted := 4, sleeping := true, interrupted := true, postCount := 1 } ∧
      (find? system.kernel.tasks "old" = none ∧ vacant? system.kernel.tasks = some 1) ∧
      system.IdentifiesTask "old" ∧ system.AllocatesTask "new" {} ∧ system.CreatesQueue "box" { depth := 1 } := by
  obtain ⟨system, hrun, -, -, -, hidentifies, -, hallocates, hcreates⟩ :=
    run_names_entries (show small.fault? = none by decide) abandonedMoves
  have hend : (run { kernel := .ofConfig small } abandonedMoves).toOption.map (fun system =>
      (system.kernel.tasks[1]?, find? system.kernel.tasks "old", vacant? system.kernel.tasks)) =
      some (some { name := "old", posted := 4, sleeping := true, interrupted := true, postCount := 1 },
        none, some 1) := by decide +kernel
  rw [hrun] at hend
  obtain ⟨hentry, hend⟩ := Prod.mk.inj (Option.some.inj hend)
  exact ⟨by decide, system, hrun, hentry, Prod.mk.inj hend, hidentifies "old", hallocates "new" {},
    hcreates "box" { depth := 1 }⟩

end System

end Executive
