/-
Message containers in every run: each of them is either free or holds one message of one queue. The
invariant of the queue table says so (`QueueTable.Holds`); here it is read off every state that a run
reaches, together with what the counting operations give there.
-/
import Executive.Proofs.System

namespace Executive.System

open Critical Kernel

variable {system : System} {operation : Operation} {result : Except Error Value}

/-- A call that does not wait returns the result of its operation. -/
theorem call_of_ends {t : Section} (h : (perform operation).Ends { kernel := system.kernel } fun r u =>
      r = result.map .returned ∧ u = t) :
    system.call operation = .ok (.returned result, t.signals, system.leave t) := by
  obtain ⟨_, _, henter, rfl, rfl⟩ := enter_of_ends h
  simp only [System.call, henter]
  cases result with
  | error => rfl
  | ok => rfl

/-- A question returns its answer and leaves the system as it was. -/
theorem call_eq_of_ends (h : (perform operation).Ends { kernel := system.kernel } fun r t =>
      r = result.map .returned ∧ t = { kernel := system.kernel }) :
    system.call operation = .ok (.returned result, [], system) :=
  call_of_ends h

theorem call_freeContainers (system : System) : system.call .freeContainers =
    .ok (.returned (.ok (.count system.kernel.queues.pool.available)), [], system) :=
  call_eq_of_ends (by simp [perform, freeContainers, Except.map])

theorem call_queueLength (system : System) (id : QueueId) : system.call (.queueLength id) =
    .ok (.returned ((system.kernel.queues.get id).map fun queue => .count queue.count), [], system) := by
  refine call_eq_of_ends ?_
  cases hget : system.kernel.queues.get id with
  | error error => simp [perform, queueLength, hget, Except.map]
  | ok queue => simp [perform, queueLength, hget, Except.map]

/-- At every point of every run the free list and the lists of the queues are well linked and share
out all containers, each queue counts its messages and a vacant one has none. So the number of free
containers and the lengths of the queues in use add up to the size of the pool. -/
theorem run_conserves_containers {config : Config} (h : config.fault? = none) (moves : List Move) :
    ∃ system, run { kernel := .ofConfig config } moves = .ok system ∧
      system.kernel.queues.pool.containers.size = config.maxMessages ∧
      (∃ free members, system.kernel.queues.Holds free members) ∧
      ∃ (free : Nat) (length : QueueId → Nat),
        system.call .freeContainers = .ok (.returned (.ok (.count free)), [], system) ∧
        (∀ id, id ∈ system.kernel.queues.live ↔
          system.call (.queueLength id) = .ok (.returned (.ok (.count (length id))), [], system)) ∧
        free + (system.kernel.queues.live.map length).sum = config.maxMessages := by
  obtain ⟨system, hrun, hwf, rfl⟩ := run_wellFormed h moves
  obtain ⟨free, members, hholds⟩ := hwf.kernel.queues
  have hsize := hwf.kernel.containers_size
  refine ⟨system, hrun, hsize, ⟨free, members, hholds⟩, system.kernel.queues.pool.available,
    fun id => (members id.index).length, call_freeContainers system, fun id => ?_, ?_⟩
  · rw [QueueTable.mem_live hholds, call_queueLength]
    constructor
    · rintro ⟨queue, hget⟩
      have hcount := (hholds.queue id.index queue (QueueTable.get_eq_ok.1 hget).2.1).count
      rw [hget, Except.map, hcount]
    · intro hcall
      cases hget : system.kernel.queues.get id with
      | error => rw [hget] at hcall; cases hcall
      | ok queue => exact ⟨queue, rfl⟩
  · rw [hholds.total, hsize]

/-- A timer posts to a queue. -/
def timedPost : List Move :=
  [.call (.createQueue "queue" { depth := 1 }), .call (.createTimer (.message ⟨1⟩ 7)),
    .call (.startTimer ⟨0⟩ 1 none), .advance 1, .act 0, .proceed 0]

/-- The timer's message has taken one of the two containers. -/
theorem timedPost_conserves_containers :
    small.fault? = none ∧ ∃ system, run { kernel := .ofConfig small } timedPost = .ok system ∧
      system.kernel.queues.pool.available = 1 ∧
      ∃ free members, system.kernel.queues.Holds free members := by
  obtain ⟨system, hrun, -, hholds, -⟩ :=
    run_conserves_containers (show small.fault? = none by decide) timedPost
  have havailable : (run { kernel := .ofConfig small } timedPost).toOption.map
      (·.kernel.queues.pool.available) = some 1 := by decide +kernel
  rw [hrun] at havailable
  exact ⟨by decide, system, hrun, Option.some.inj havailable, hholds⟩

end Executive.System
