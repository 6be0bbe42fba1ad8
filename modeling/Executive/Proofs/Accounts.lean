/-
Flags are set for blocked calls only (`Accounted`): whatever is flagged in an entry belongs to a call that
is blocked there. So an entry on which no call is blocked is calm, and an interrupt of it does nothing.
That is so in every run, whoever waits for what.
-/
import Executive.Proofs.Conservation
import Executive.Proofs.Kernel.Interrupts
import Executive.Proofs.Waiting

namespace Executive

/-! ## Entries -/

namespace Task

variable {id : TaskId} {task new : Task} {waits waits' : List Wait}

/-- The flags in the entry of a task belong to one of the waits. -/
structure Accounted (waits : List Wait) (id : TaskId) (task : Task) : Prop where
  waiting : task.waiting = true → ∃ mask condition, .events id mask condition ∈ waits
  sleeping : task.sleeping = true → .sleep id ∈ waits
  latched : task.interrupted = true → ∃ wait ∈ waits, wait.gate = .task id

theorem Accounted.of_clear (hwaiting : task.waiting = false) (hsleeping : task.sleeping = false)
    (hclear : task.interrupted = false) : task.Accounted waits id where
  waiting h := by rw [hwaiting] at h; cases h
  sleeping h := by rw [hsleeping] at h; cases h
  latched h := by rw [hclear] at h; cases h

/-- An entry on which nobody waits is clear. -/
theorem Accounted.clear (h : task.Accounted waits id) (hnone : ∀ wait ∈ waits, wait.gate ≠ .task id) :
    task.interrupted = false ∧ task.waiting = false ∧ task.sleeping = false := by
  refine ⟨Bool.eq_false_iff.2 fun hset => ?_, Bool.eq_false_iff.2 fun hset => ?_,
    Bool.eq_false_iff.2 fun hset => ?_⟩
  · obtain ⟨wait, hwait, hgate⟩ := h.latched hset
    exact hnone wait hwait hgate
  · obtain ⟨mask, condition, hwait⟩ := h.waiting hset
    exact hnone _ hwait rfl
  · exact hnone _ (h.sleeping hset) rfl

theorem Accounted.mono (h : task.Accounted waits id)
    (hkept : ∀ wait ∈ waits, wait.gate = .task id → wait ∈ waits')
    (hwaiting : new.waiting = true → task.waiting = true)
    (hsleeping : new.sleeping = true → task.sleeping = true)
    (hlatched : new.interrupted = true → task.interrupted = true ∨ task.isBlocked = true) :
    new.Accounted waits' id where
  waiting hset := by
    obtain ⟨mask, condition, hwait⟩ := h.waiting (hwaiting hset)
    exact ⟨mask, condition, hkept _ hwait rfl⟩
  sleeping hset := hkept _ (h.sleeping (hsleeping hset)) rfl
  latched hset := by
    rcases hlatched hset with hold | hblocked
    · obtain ⟨wait, hwait, hgate⟩ := h.latched hold
      exact ⟨wait, hkept wait hwait hgate, hgate⟩
    · rcases Bool.or_eq_true_iff.1 hblocked with hw | hs
      · obtain ⟨mask, condition, hwait⟩ := h.waiting hw
        exact ⟨_, hkept _ hwait rfl, rfl⟩
      · exact ⟨_, hkept _ (h.sleeping hs) rfl, rfl⟩

theorem Accounted.affected {clears frees : Prop} {latch : Bool} (h : task.Accounted waits id)
    (hkept : ∀ wait ∈ waits, wait.gate = .task id → wait ∈ waits')
    (hchange : Affected clears frees latch task new) : new.Accounted waits' id := by
  cases hchange with
  | kept | cleared | freed => exact h.mono hkept (fun hw => hw) (fun hs => hs) Or.inl
  | allocated => exact .of_clear rfl rfl rfl
  | latched hblocked => exact h.mono hkept (fun hw => hw) (fun hs => hs) fun _ => Or.inr hblocked
  | received task bits =>
    rw [Task.received]
    split
    · exact h.mono hkept (fun hw => Bool.noConfusion hw) (fun hs => hs) Or.inl
    · exact h.mono hkept (fun hw => hw) (fun hs => hs) Or.inl

/-- A wait that begins sets its own flag, and one that is cut short at once clears it. -/
theorem Accounted.entered {r : Except Error (Progress Value)} (h : task.Accounted waits id)
    (hkept : ∀ wait ∈ waits, wait ∈ waits') (hparked : ∀ wait, r = .ok (.parked wait) → wait ∈ waits')
    (hchange : task.Entered id r new) : new.Accounted waits' id := by
  have hwaiting (hset : task.waiting = true) : ∃ mask condition, .events id mask condition ∈ waits' := by
    obtain ⟨mask, condition, hwait⟩ := h.waiting hset
    exact ⟨mask, condition, hkept _ hwait⟩
  have hsleeping (hset : task.sleeping = true) : .sleep id ∈ waits' := hkept _ (h.sleeping hset)
  have hlatched (hset : task.interrupted = true) : ∃ wait ∈ waits', wait.gate = .task id := by
    obtain ⟨wait, hwait, hgate⟩ := h.latched hset
    exact ⟨wait, hkept wait hwait, hgate⟩
  cases hchange with
  | sleep => exact ⟨hwaiting, fun _ => hparked _ rfl, hlatched⟩
  | events => exact ⟨fun _ => ⟨_, _, hparked _ rfl⟩, hsleeping, hlatched⟩
  | sleepCut => exact ⟨hwaiting, nofun, nofun⟩
  | eventsCut => exact ⟨nofun, hsleeping, nofun⟩

/-- A wait that ends clears its own flag and the latch. -/
theorem Accounted.left {wait : Wait} {result : Except Error Value} (h : task.Accounted waits id)
    (hkept : ∀ other ∈ waits, wait ≠ other → other ∈ waits')
    (hchange : task.Left id wait result new) : new.Accounted waits' id := by
  cases hchange with
  | sleep =>
    refine ⟨fun hset => ?_, nofun, nofun⟩
    obtain ⟨mask, condition, hother⟩ := h.waiting hset
    exact ⟨mask, condition, hkept _ hother nofun⟩
  | woken _ _ hwaiting =>
    refine ⟨fun hset => ?_, fun hset => hkept _ (h.sleeping hset) nofun, nofun⟩
    exact absurd hset (Bool.eq_false_iff.1 hwaiting)
  | cut => exact ⟨nofun, fun hset => hkept _ (h.sleeping hset) nofun, nofun⟩

end Task

namespace Queue

variable {id : QueueId} {queue new : Queue} {waits waits' : List Wait}

/-- The flags in the entry of a queue belong to one of the waits. -/
def Accounted (waits : List Wait) (id : QueueId) (queue : Queue) : Prop :=
  queue.waiting = true ∨ queue.interrupted = true → .message id queue.generation ∈ waits

theorem Accounted.of_clear (hwaiting : queue.waiting = false) (hclear : queue.interrupted = false) :
    queue.Accounted waits id := by
  rintro (h | h)
  · rw [hwaiting] at h; cases h
  · rw [hclear] at h; cases h

theorem Accounted.affected {kernel : Kernel} {closes : Prop} {latch : Bool} (h : queue.Accounted waits id)
    (hkept : .message id queue.generation ∈ waits → .message id queue.generation ∈ waits')
    (hchange : Affected kernel closes latch queue new) : new.Accounted waits' id := by
  cases hchange with
  | kept | popped => exact fun hset => hkept (h hset)
  | extended =>
    rintro (hset | hset)
    · cases hset
    · exact hkept (h (Or.inr hset))
  | opened | closed => exact .of_clear rfl rfl
  | latched hwaiting => exact fun _ => hkept (h (Or.inl hwaiting))

theorem Accounted.entered {r : Except Error (Progress Value)}
    (hparked : ∀ wait, r = .ok (.parked wait) → wait ∈ waits') (hchange : queue.Entered id r new) :
    new.Accounted waits' id := by
  cases hchange with
  | waits => exact fun _ => hparked _ rfl
  | cut => exact .of_clear rfl rfl

theorem Accounted.left {wait : Wait} (hchange : queue.Left id wait new) : new.Accounted waits' id := by
  cases hchange with
  | served _ hwaiting => exact .of_clear hwaiting rfl
  | unserved hwaiting => exact .of_clear hwaiting rfl
  | cut => exact .of_clear rfl rfl

end Queue

namespace System

variable {system system' : System} {signals : List Signal} {move : Move} {answer : Answer}

/-! ## Blocked calls -/

/-- A blocked call stays blocked unless it returns. -/
theorem Moved.mem_or_ended (hmoved : Moved system move answer signals system') {call : Call}
    (hcall : call ∈ system.calls) :
    call ∈ system'.calls ∨ ∃ result, answer = .looked (some (call, some result)) := by
  rcases hmoved.calls_cases with ⟨hsame, -⟩ | ⟨_, _, _, -, -, -, hmore⟩ | ⟨ended, result, hanswer, hless⟩
  · exact Or.inl (hsame.mem_iff.2 hcall)
  · exact Or.inl (hmore.mem_iff.2 (List.mem_cons_of_mem _ hcall))
  · rcases List.mem_cons.1 (hless.mem_iff.1 hcall) with rfl | hstill
    · exact Or.inr ⟨result, hanswer⟩
    · exact Or.inl hstill

/-! ## Systems -/

/-- What the blocked calls wait for. -/
def waits (system : System) : List Wait := system.calls.map Call.wait

/-- The flags of all entries belong to blocked calls. -/
structure Accounted (system : System) : Prop where
  task : ∀ (i : Nat) (task : Task), system.kernel.tasks[i]? = some task → task.Accounted system.waits ⟨i⟩
  queue : ∀ (i : Nat) (queue : Queue), system.kernel.queues.queues[i]? = some queue →
    queue.Accounted system.waits ⟨i⟩

theorem ofConfig_accounted (config : Config) : Accounted { kernel := .ofConfig config } where
  task i task hentry := by
    cases Kernel.eq_of_tasks_ofConfig hentry
    exact .of_clear rfl rfl rfl
  queue i queue hentry := by
    cases QueueTable.eq_of_ofSize hentry
    exact .of_clear rfl rfl

theorem mem_waits {wait : Wait} : wait ∈ system.waits ↔ ∃ call ∈ system.calls, call.wait = wait :=
  List.mem_map

/-- A wait is still there after a move that does not end one like it. -/
theorem Moved.mem_waits (hmoved : Moved system move answer signals system') {wait : Wait}
    (hwait : wait ∈ system.waits)
    (hstays : ∀ call result, answer = .looked (some (call, some result)) → call.wait ≠ wait) :
    wait ∈ system'.waits := by
  obtain ⟨call, hcall, rfl⟩ := System.mem_waits.1 hwait
  rcases hmoved.mem_or_ended hcall with hstill | ⟨result, hanswer⟩
  · exact List.mem_map_of_mem hstill
  · exact absurd rfl (hstays call result hanswer)

theorem Accounted.moved (h : system.Accounted) (hmoved : Moved system move answer signals system') :
    system'.Accounted := by
  have hnew {r : Except Error (Progress Value)}
      (hparked : ∀ wait, r = .ok (.parked wait) → ∃ call ∈ system'.calls, call.wait = wait) :
      ∀ wait, r = .ok (.parked wait) → wait ∈ system'.waits := by
    intro wait hr
    exact System.mem_waits.2 (hparked wait hr)
  constructor
  · intro i new hentry
    obtain ⟨old, hold, hstep⟩ := hmoved.tasks i new hentry
    have haccounted := h.task i old hold
    cases hstep with
    | affected hstays hchange =>
      refine haccounted.affected (fun wait hwait hgate => hmoved.mem_waits hwait ?_) hchange
      rintro call result hanswer rfl
      exact hstays call result hanswer hgate
    | entered hmove _ hparked hchange =>
      subst hmove
      refine haccounted.entered (fun wait hwait => hmoved.mem_waits hwait ?_) (hnew hparked) hchange
      rintro call result rfl
      cases hmoved
    | left hanswer hchange =>
      refine haccounted.left (fun other hother hne => hmoved.mem_waits hother ?_) hchange
      intro call result hsame
      rw [hanswer] at hsame
      cases hsame
      exact hne
  · intro i new hentry
    obtain ⟨old, hold, hstep⟩ := hmoved.queues i new hentry
    cases hstep with
    | affected hstays hchange =>
      exact (h.queue i old hold).affected (fun hwait => hmoved.mem_waits hwait hstays) hchange
    | entered _ _ hparked hchange => exact .entered (hnew hparked) hchange
    | left _ hchange => exact .left hchange

/-- What a latch is set for is blocked. -/
theorem Accounted.latched (h : system.Accounted) {subject : Gate × UInt64}
    (hlatched : system.kernel.Latched subject) : ∃ call ∈ system.calls, call.wait.subject = subject := by
  obtain ⟨gate, generation⟩ := subject
  cases gate with
  | task id =>
    obtain ⟨rfl, task, hentry, hset⟩ := hlatched
    obtain ⟨wait, hwait, hgate⟩ := (h.task _ task hentry).latched hset
    obtain ⟨call, hcall, rfl⟩ := System.mem_waits.1 hwait
    exact ⟨call, hcall, Wait.subject_of_task hgate⟩
  | queue id =>
    obtain ⟨queue, hentry, rfl, hset⟩ := hlatched
    obtain ⟨call, hcall, hwait⟩ := System.mem_waits.1 (h.queue _ queue hentry (Or.inr hset))
    exact ⟨call, hcall, congrArg Wait.subject hwait⟩

/-! ## Calm entries -/

/-- Where no call is blocked, no flag is set, and an interrupt does nothing. -/
structure Calm (system : System) : Prop where
  task : ∀ (id : TaskId) (task : Task), system.kernel.tasks.get id = .ok task →
    (∀ call ∈ system.calls, call.wait.gate ≠ .task id) →
    task.interrupted = false ∧ task.waiting = false ∧ task.sleeping = false ∧
      system.call (.interruptTask id) = .ok (.returned (.ok (.flag false)), [], system)
  queue : ∀ (id : QueueId) (queue : Queue), system.kernel.queues.get id = .ok queue →
    (∀ call ∈ system.calls, call.wait ≠ .message id queue.generation) →
    queue.interrupted = false ∧ queue.waiting = false ∧
      system.call (.interruptReceiver id) = .ok (.returned (.ok (.flag false)), [], system)

theorem Accounted.calm (h : system.Accounted) : system.Calm where
  task id task hget hnone := by
    obtain ⟨-, hentry, -⟩ := TaskTable.get_eq_ok.1 hget
    obtain ⟨hclear, hwaiting, hsleeping⟩ := (h.task _ task hentry).clear fun wait hwait hgate => by
      obtain ⟨call, hcall, rfl⟩ := System.mem_waits.1 hwait
      exact hnone call hcall hgate
    have hblocked : task.isBlocked = false := by rw [Task.isBlocked, hwaiting, hsleeping]; rfl
    refine ⟨hclear, hwaiting, hsleeping, call_eq_of_ends ?_⟩
    simp [Kernel.perform, Kernel.interruptTask, hget, hblocked, Except.map]
  queue id queue hget hnone := by
    obtain ⟨-, hentry, -⟩ := QueueTable.get_eq_ok.1 hget
    have hclear : ¬ (queue.waiting = true ∨ queue.interrupted = true) := by
      intro hset
      obtain ⟨call, hcall, hwait⟩ := System.mem_waits.1 (h.queue _ queue hentry hset)
      exact hnone call hcall hwait
    obtain ⟨hwaiting, hinterrupted⟩ := not_or.1 hclear
    rw [Bool.not_eq_true] at hwaiting hinterrupted
    refine ⟨hinterrupted, hwaiting, call_eq_of_ends ?_⟩
    simp [Kernel.perform, Kernel.interruptReceiver, hget, hwaiting, Except.map]

end System

end Executive
