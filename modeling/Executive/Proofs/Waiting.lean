/-
A waiting flag never stands beside what it waits for (`run_waits_unmet`). In every run, whoever waits
and whatever is freed, deleted or interrupted under a wait, the condition that is stored with a waiting
task is not met by its event word, and a waiting queue is in use and empty.

A flag is set by a wait that has looked before, in the same section (`Entered`). After that the word
gets more events only from a post, which looks again, and fewer events never meet a condition.
-/
import Executive.Proofs.Entries

namespace Executive

/-! ## Entries -/

namespace Task

variable {task new : Task}

/-- The wait that is entered for a task has not got what it waits for. -/
def Unmet (task : Task) : Prop := task.waiting = true → task.isSatisfied = false

theorem Unmet.of_not_waiting (h : task.waiting = false) : task.Unmet := by
  intro hwaiting
  rw [h] at hwaiting
  cases hwaiting

theorem Unmet.received (bits : EventBits) : (task.received bits).Unmet := by
  unfold Task.received
  split
  · exact .of_not_waiting rfl
  · rename_i hwoken
    intro hwaiting
    unfold isWokenBy at hwoken
    rw [hwaiting, Bool.true_and, Bool.not_eq_true] at hwoken
    exact hwoken

/-- A condition that is not met is not met by fewer events. -/
theorem Unmet.clear (h : task.Unmet) (bits : EventBits) : (task.clear bits).Unmet := by
  intro hwaiting
  apply Bool.eq_false_iff.2
  intro hmet
  have hfewer : (task.posted &&& ~~~bits) &&& task.posted = task.posted &&& ~~~bits := by
    rw [UInt32.and_comm, ← UInt32.and_assoc, UInt32.and_self]
  have hunmet := h hwaiting
  rw [show task.isSatisfied = true from Condition.isMet_mono hfewer hmet] at hunmet
  cases hunmet

theorem Unmet.affected {clears frees : Prop} {latch : Bool} (h : task.Unmet)
    (hchange : Affected clears frees latch task new) : new.Unmet := by
  cases hchange with
  | kept | freed | latched => exact h
  | received => exact .received _
  | cleared => exact h.clear _
  | allocated => exact .of_not_waiting rfl

theorem Unmet.entered {id : TaskId} {r : Except Error (Progress Value)} (h : task.Unmet)
    (hchange : task.Entered id r new) : new.Unmet := by
  cases hchange with
  | sleep | sleepCut => exact h
  | events hunmet => exact fun _ => hunmet
  | eventsCut => exact .of_not_waiting rfl

theorem Unmet.left {id : TaskId} {wait : Wait} {result : Except Error Value} (h : task.Unmet)
    (hchange : task.Left id wait result new) : new.Unmet := by
  cases hchange with
  | sleep => exact h
  | woken _ _ hwaiting => exact .of_not_waiting hwaiting
  | cut => exact .of_not_waiting rfl

end Task

namespace Queue

variable {queue new : Queue}

/-- A receiver waits at a queue in use only, and only while it is empty. -/
def Unserved (queue : Queue) : Prop := queue.waiting = true → queue.busy = true ∧ queue.count = 0

theorem Unserved.affected {kernel : Kernel} {closes : Prop} {latch : Bool} (h : queue.Unserved)
    (hchange : Affected kernel closes latch queue new) : new.Unserved := by
  cases hchange with
  | kept | latched => exact h
  | extended | opened | closed => exact nofun
  | popped _ hcount =>
    intro hwaiting
    obtain ⟨-, hempty⟩ := h hwaiting
    exact absurd hempty (Nat.ne_of_gt hcount)

theorem Unserved.entered {id : QueueId} {r : Except Error (Progress Value)}
    (hchange : queue.Entered id r new) : new.Unserved := by
  cases hchange with
  | waits hbusy hcount => exact fun _ => ⟨hbusy, hcount⟩
  | cut => exact nofun

theorem Unserved.left {id : QueueId} {wait : Wait} (hchange : queue.Left id wait new) :
    new.Unserved := by
  intro hwaiting
  cases hchange with
  | served _ hw | unserved hw => rw [hw] at hwaiting; cases hwaiting
  | cut => cases hwaiting

end Queue

/-! ## Runs -/

namespace Kernel

/-- No wait that is entered has got what it waits for. -/
structure Patient (kernel : Kernel) : Prop where
  task : ∀ (i : Nat) (task : Task), kernel.tasks[i]? = some task → task.Unmet
  queue : ∀ (i : Nat) (queue : Queue), kernel.queues.queues[i]? = some queue → queue.Unserved

theorem ofConfig_patient (config : Config) : Patient (.ofConfig config) where
  task i task hentry := by
    cases eq_of_tasks_ofConfig hentry
    exact nofun
  queue i queue hentry := by
    cases QueueTable.eq_of_ofSize hentry
    exact nofun

end Kernel

namespace System

variable {system system' : System} {signals : List Signal}

/-- Every move leaves a system in which no wait that is entered has got what it waits for. -/
theorem Moved.patient {move : Move} {answer : Answer} (hmoved : Moved system move answer signals system')
    (h : system.kernel.Patient) : system'.kernel.Patient := by
  constructor
  · intro i new hnew
    obtain ⟨old, hold, hstep⟩ := hmoved.tasks i new hnew
    have hunmet := h.task i old hold
    cases hstep with
    | affected _ hchange => exact hunmet.affected hchange
    | entered _ _ _ hchange => exact hunmet.entered hchange
    | left _ hchange => exact hunmet.left hchange
  · intro i new hnew
    obtain ⟨old, hold, hstep⟩ := hmoved.queues i new hnew
    cases hstep with
    | affected _ hchange => exact (h.queue i old hold).affected hchange
    | entered _ _ _ hchange => exact .entered hchange
    | left _ hchange => exact .left hchange

theorem run_patient {config : Config} (h : config.fault? = none) (moves : List Move) :
    ∃ system, run { kernel := .ofConfig config } moves = .ok system ∧ system.WellFormed ∧
      system.kernel.Patient := by
  obtain ⟨system, hrun, hwf, -, hpatient⟩ := @run_invariant (fun system => system.kernel.Patient) config h
    (Kernel.ofConfig_patient config) (fun _ _ hinv hmoved => hmoved.patient hinv) moves
  exact ⟨system, hrun, hwf, hpatient⟩

/-- In every run of a valid configuration a task whose waiting flag is set holds a condition that is
not met, and a queue whose waiting flag is set is in use and has no messages. -/
theorem run_waits_unmet {config : Config} (h : config.fault? = none) (moves : List Move) :
    ∃ system, run { kernel := .ofConfig config } moves = .ok system ∧
      (∀ (i : Nat) (task : Task), system.kernel.tasks[i]? = some task → task.waiting = true →
        task.condition.isMet task.posted task.mask = false) ∧
      ∀ (i : Nat) (queue : Queue), system.kernel.queues.queues[i]? = some queue → queue.waiting = true →
        queue.busy = true ∧ queue.count = 0 ∧ queue.chain = {} := by
  obtain ⟨system, hrun, hwf, hpatient⟩ := run_patient h moves
  refine ⟨system, hrun, hpatient.task, fun i queue hentry hwaiting => ?_⟩
  obtain ⟨hbusy, hcount⟩ := hpatient.queue i queue hentry hwaiting
  -- an empty queue has an empty list
  obtain ⟨free, members, hholds⟩ := hwf.kernel.queues
  have hqueue := hholds.queue i queue hentry
  have hnone : members i = [] := List.length_eq_zero_iff.1 (hqueue.count.symm.trans hcount)
  rw [hnone] at hqueue
  exact ⟨hbusy, hcount, hqueue.chain.eq_empty⟩

/-- A wait for two events of which one comes, and a receive. -/
def pending : List Move :=
  [.call (.allocateTask "task" {}), .call (.createQueue "queue" { depth := 1 }),
    .call (.waitEvents ⟨1⟩ 3 .all .indefinite), .call (.receive ⟨1⟩ .indefinite),
    .call (.postEvents ⟨1⟩ 1)]

/-- Both wait, and the one event does not meet the condition. -/
theorem pending_unmet : small.fault? = none ∧
    ∃ (system : System) (task : Task) (queue : Queue),
      run { kernel := .ofConfig small } pending = .ok system ∧
      system.kernel.tasks[1]? = some task ∧ task.waiting = true ∧ task.posted = 1 ∧
      task.condition.isMet task.posted task.mask = false ∧
      system.kernel.queues.queues[1]? = some queue ∧ queue.waiting = true ∧
      queue.busy = true ∧ queue.count = 0 ∧ queue.chain = {} := by
  have hvalid : small.fault? = none := by decide
  obtain ⟨system, hrun, htask, hqueue⟩ := run_waits_unmet hvalid pending
  have hflags : (run { kernel := .ofConfig small } pending >>= Except.ok).toOption.map (fun system =>
      (system.kernel.tasks[1]?.map fun task => (task.waiting, task.posted),
        system.kernel.queues.queues[1]?.map Queue.waiting)) = some (some (true, 1), some true) := by
    decide +kernel
  obtain ⟨_, hsame, hentries⟩ := exists_of_run hrun hflags
  cases hsame
  obtain ⟨hleft, hright⟩ := Prod.mk.inj hentries
  obtain ⟨task, hentry, hboth⟩ := Option.map_eq_some_iff.1 hleft
  obtain ⟨hwaiting, hposted⟩ := Prod.mk.inj hboth
  obtain ⟨queue, hentry', hwaiting'⟩ := Option.map_eq_some_iff.1 hright
  exact ⟨hvalid, system, task, queue, hrun, hentry, hwaiting, hposted, htask 1 task hentry hwaiting,
    hentry', hwaiting', hqueue 1 queue hentry' hwaiting'⟩

end System

end Executive
