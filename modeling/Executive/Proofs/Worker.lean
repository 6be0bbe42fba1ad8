/-
A worker that serves a queue by the events of its binding (`run_strands_no_message`). It waits for the
events of its task, then takes messages until there are none, and waits again. While anybody posts to
the queue and to the task, no message is left behind: as long as the queue is not empty, an event of
the binding is posted or the worker is still taking messages.

A message comes in the same section as its events, so the invariant has nothing to say about the time
between the two. Events leave the word only when the wait of the worker ends, which is when it begins
to take messages, and it stops only in a section that has found the queue empty.
-/
import Executive.Proofs.Consumption
import Executive.Proofs.Waiting

namespace Executive

open Kernel (Performed Resumed)

/-- What a worker waits for and what it serves. -/
structure Worker where
  task : TaskId
  queue : QueueId
  /-- The events of the binding of the queue. -/
  events : EventBits
  /-- The events for which the worker waits. -/
  mask : EventBits

namespace Worker

/-- Where a worker stands in its loop. -/
inductive Phase where
  /-- It is about to wait. -/
  | idle
  /-- Its wait is blocked under a number. -/
  | blocked (call : Nat)
  /-- Its wait has returned events, and it takes messages until there are none. -/
  | draining
  deriving DecidableEq, Repr

/-- Where a worker stands when its wait has returned. -/
def Phase.woken (result : Except Error Value) : Phase := if result.isOk then .draining else .idle

variable {worker : Worker} {phase : Phase} {system system' : System} {signals : List Signal}
  {move : System.Move} {answer : System.Answer}

/-- Where a worker stands after an operation. -/
def noteOperation (worker : Worker) (phase : Phase) : Operation → Outcome → Phase
  | .waitEvents task .., .blocked number => if task = worker.task then .blocked number else phase
  | .waitEvents task .., .returned result => if task = worker.task then .woken result else phase
  | .receive queue _, .returned (.error .queueEmpty) => if queue = worker.queue then .idle else phase
  | _, _ => phase

/-- Where a worker stands after a move. -/
def note (worker : Worker) (_ : System) (move : System.Move) (answer : System.Answer) (_ : List Signal)
    (_ : System) (phase : Phase) : Phase :=
  match move, answer with
  | .call operation, .outcome outcome => worker.noteOperation phase operation outcome
  | .resume _, .looked (some (call, some result)) =>
    if phase = .blocked call.number then .woken result else phase
  | _, _ => phase

/-- The worker alone waits for events of its task and takes messages from its queue, and it does so as
its loop has it. Nobody removes events of the task, frees it or deletes the queue. -/
def Allows (worker : Worker) (phase : Phase) : System.Move → Prop
  | .call (.waitEvents task mask condition timeout) => task = worker.task →
    phase = .idle ∧ mask = worker.mask ∧ condition = .any ∧ timeout = .indefinite
  | .call (.receive queue timeout) => queue = worker.queue → phase = .draining ∧ timeout = .noBlock
  | .call (.clearEvents task _) => task ≠ worker.task
  | .call (.freeTask task) => task ≠ worker.task
  | .call (.deleteQueue queue) => queue ≠ worker.queue
  | .call .deleteAllQueues => False
  | _ => True

instance (worker : Worker) (phase : Phase) (move : System.Move) : Decidable (worker.Allows phase move) := by
  unfold Allows
  split <;> infer_instance

/-- A worker may begin: its queue is empty and bound to its task, it waits for all events of the
binding, and no other call is blocked on what it will wait for. -/
structure Begins (worker : Worker) (system : System) : Prop where
  task : ∃ task, system.kernel.tasks.get worker.task = .ok task
  queue : ∃ queue, system.kernel.queues.get worker.queue = .ok queue ∧
    queue.binding = some ⟨worker.task, worker.events⟩ ∧ queue.count = 0 ∧
    ∀ call ∈ system.calls, call.wait ≠ .message worker.queue queue.generation
  alone : ∀ call ∈ system.calls, ∀ mask condition, call.wait ≠ .events worker.task mask condition
  events : worker.events ≠ 0
  mask : worker.events &&& worker.mask = worker.events

/-! ## What a move keeps -/

/-- The queue of a worker that is not empty has an event posted, or is being emptied. -/
structure Serves (worker : Worker) (phase : Phase) (system : System) : Prop where
  task : ∃ task, system.kernel.tasks.get worker.task = .ok task
  queue : ∃ queue, system.kernel.queues.get worker.queue = .ok queue ∧
    queue.binding = some ⟨worker.task, worker.events⟩ ∧
    (∀ call ∈ system.calls, call.wait ≠ .message worker.queue queue.generation) ∧
    (0 < queue.count → system.word worker.task &&& worker.events ≠ 0 ∨ phase = .draining)
  waits : ∀ call ∈ system.calls, ∀ mask condition, call.wait = .events worker.task mask condition →
    phase = .blocked call.number ∧ mask = worker.mask ∧ condition = .any

theorem Begins.serves (h : worker.Begins system) : worker.Serves .idle system where
  task := h.task
  queue := by
    obtain ⟨queue, hget, hbinding, hcount, halone⟩ := h.queue
    refine ⟨queue, hget, hbinding, halone, fun hsome => ?_⟩
    exact absurd hcount (Nat.ne_of_gt hsome)
  waits call hcall mask condition hwait := absurd hwait (h.alone call hcall mask condition)

theorem frees_ne (hrule : worker.Allows phase move) : move.frees ≠ some worker.task := by
  cases move with
  | call operation =>
    cases operation with
    | freeTask task =>
      intro hfrees
      exact hrule (Option.some.inj hfrees)
    | _ => exact nofun
  | resume | advance | act | proceed => exact nofun

theorem not_closes (hrule : worker.Allows phase move) : ¬ move.Closes worker.queue := by
  cases move with
  | call operation =>
    cases operation with
    | deleteQueue => exact hrule
    | deleteAllQueues => exact fun _ => hrule
    | _ => exact id
  | resume | advance | act | proceed => exact id

/-- A worker that has begun its wait, or takes messages, goes on to where it finds no message. -/
theorem noteOperation_eq {operation : Operation} (hrule : worker.Allows phase (.call operation))
    (hbusy : phase ≠ .idle) (outcome : Outcome) : worker.noteOperation phase operation outcome = phase ∨
      ∃ timeout, operation = .receive worker.queue timeout ∧ outcome = .returned (.error .queueEmpty) := by
  unfold noteOperation
  split
  · split
    · rename_i htask
      exact absurd (hrule htask).1 hbusy
    · exact Or.inl rfl
  · split
    · rename_i htask
      exact absurd (hrule htask).1 hbusy
    · exact Or.inl rfl
  · split
    · rename_i timeout hqueue
      subst hqueue
      exact Or.inr ⟨timeout, rfl, rfl⟩
    · exact Or.inl rfl
  · exact Or.inl rfl

/-- A worker stops taking messages only where its queue is empty. -/
theorem draining_or_empty {queue : Queue} (hrule : worker.Allows .draining move)
    (hmoved : System.Moved system move answer signals system')
    (hget : system.kernel.queues.get worker.queue = .ok queue) :
    worker.note system move answer signals system' .draining = .draining ∨
      system'.kernel = system.kernel ∧ queue.count = 0 := by
  cases hmoved with
  | blocked =>
    rcases noteOperation_eq hrule nofun (.blocked system.callCount) with hkept | ⟨_, _, houtcome⟩
    · exact Or.inl hkept
    · cases houtcome
  | @returned operation result t hcall =>
    rcases noteOperation_eq hrule nofun (.returned result) with hkept | ⟨timeout, rfl, houtcome⟩
    · exact Or.inl hkept
    · cases houtcome
      obtain ⟨r, hreceived, heq⟩ := hcall
      cases hreceived with
      | refused hrefused => rw [hget] at hrefused; cases hrefused
      | empty hfound hcount =>
        rw [hget] at hfound
        cases hfound
        exact Or.inr ⟨System.kernel_leave, hcount⟩
      | served | interrupted | waits => cases heq
  | unready | waits | ended | began | passed | acted | inactive | wentOn | delivered | busy =>
    exact Or.inl rfl

/-- A wait of the worker that is still blocked is the one it is in. -/
theorem note_of_blocked (hnumbered : system.Numbered) (hrule : worker.Allows phase move)
    (hmoved : System.Moved system move answer signals system') {call : Call} (hcall : call ∈ system'.calls)
    (hphase : phase = .blocked call.number) :
    worker.note system move answer signals system' phase = .blocked call.number := by
  subst hphase
  have hoperation {operation : Operation} (hrule : worker.Allows (.blocked call.number) (.call operation))
      (outcome : Outcome) :
      worker.noteOperation (.blocked call.number) operation outcome = .blocked call.number := by
    rcases noteOperation_eq hrule nofun outcome with hkept | ⟨_, rfl, -⟩
    · exact hkept
    · obtain ⟨hdraining, -⟩ := hrule rfl
      cases hdraining
  cases hmoved with
  | blocked => exact hoperation hrule _
  | returned => exact hoperation hrule _
  | @ended i other _ t hready =>
    refine if_neg fun hsame => ?_
    -- the call that returns has a number of its own
    have hsplit := (System.calls_unready hready).map Call.number
    have hnodup := (List.nodup_cons.1 (hsplit.nodup_iff.1 hnumbered.nodup)).1
    refine hnodup (List.mem_map.2 ⟨call, System.calls_leave.mem_iff.1 hcall, ?_⟩)
    exact Phase.blocked.inj hsame
  | unready | waits | began | passed | acted | inactive | wentOn | delivered | busy => rfl

/-- The worker takes messages once a wait for events of its task has removed events. -/
theorem note_of_clears (hrule : worker.Allows phase move) (hclears : move.clears answer = some worker.task) :
    worker.note system move answer signals system' phase = .draining := by
  unfold System.Move.clears at hclears
  split at hclears
  · rename_i operation result
    cases operation with
    | clearEvents task bits =>
      cases result <;> cases hclears
      exact absurd rfl hrule
    | waitEvents task mask condition timeout =>
      cases result <;> cases hclears
      exact if_pos rfl
    | _ => cases hclears
  · cases hclears

/-- It takes messages once its blocked wait has returned events. -/
theorem Serves.note_of_woken (h : worker.Serves phase system)
    (hmoved : System.Moved system move answer signals system') {call : Call} {mask : EventBits}
    {condition : Condition} {value : Value} (hanswer : answer = .looked (some (call, some (.ok value))))
    (hwait : call.wait = .events worker.task mask condition) :
    worker.note system move answer signals system' phase = .draining := by
  subst hanswer
  cases hmoved with
  | ended hready =>
    have hcall : call ∈ system.calls := List.mem_append_right _ (List.mem_of_getElem? hready)
    obtain ⟨hphase, -⟩ := h.waits call hcall mask condition hwait
    exact if_pos hphase

/-- The worker does not block at its queue. -/
theorem not_parked {operation : Operation} {generation : UInt64} {s t : Section}
    (hrule : worker.Allows phase (.call operation)) :
    ¬ Performed s operation (.ok (.parked (.message worker.queue generation))) t := by
  intro hparked
  cases operation with
  | receive =>
    cases Kernel.Proceeds.parked hparked with
    | waits _ _ htimeout => exact htimeout (hrule rfl).2
  | sleep => cases Kernel.Proceeds.parked hparked
  | waitEvents => cases Kernel.Proceeds.parked hparked
  | _ => exact absurd hparked Kernel.Gives.not_parked

theorem Serves.moved (h : worker.Serves phase system) (hevents : worker.events ≠ 0)
    (hwf : system.WellFormed) (hwf' : system'.WellFormed) (hnumbered : system.Numbered)
    (hrule : worker.Allows phase move) (hmoved : System.Moved system move answer signals system') :
    worker.Serves (worker.note system move answer signals system' phase) system' := by
  obtain ⟨task, hget⟩ := h.task
  obtain ⟨hpos, hentry, hbusy⟩ := TaskTable.get_eq_ok.1 hget
  obtain ⟨task', hentry', htask⟩ := hmoved.taskStep hwf hwf' hentry
  have hget' : system'.kernel.tasks.get worker.task = .ok task' :=
    TaskTable.get_eq_ok.2 ⟨hpos, hentry', htask.busy hbusy (frees_ne hrule)⟩
  obtain ⟨queue, hqueue, hbinding, halone, hfilled⟩ := h.queue
  obtain ⟨hpos', hplace, hinUse⟩ := QueueTable.get_eq_ok.1 hqueue
  obtain ⟨queue', hplace', hstep⟩ := hmoved.queueStep hwf hwf' hplace
  obtain ⟨hinUse', hbinding', hgeneration⟩ := hstep.busy hinUse (not_closes hrule)
  refine ⟨⟨task', hget'⟩, ⟨queue', QueueTable.get_eq_ok.2 ⟨hpos', hplace', hinUse'⟩,
    hbinding'.trans hbinding, ?_, fun hsome => ?_⟩, ?_⟩
  · intro call hcall hwait
    rcases hmoved.mem_calls hcall with hold | ⟨-, operation, t, rfl, hparked⟩
    · rw [hgeneration] at hwait
      exact halone call hold hwait
    · rw [hwait] at hparked
      exact not_parked hrule hparked
  · rw [System.word_eq hentry']
    rcases hstep.count with hless | hrung
    · rcases hfilled (Nat.lt_of_lt_of_le hsome hless) with hposted | rfl
      · rw [System.word_eq hentry] at hposted
        rcases htask.word hbusy with hkept | hclears | ⟨call, mask, condition, value, hanswer, hwait⟩
        · refine Or.inl fun hnone => hposted ?_
          rw [← hkept, UInt32.and_assoc, hnone, UInt32.and_zero]
        · exact Or.inr (note_of_clears hrule hclears)
        · exact Or.inr (h.note_of_woken hmoved hanswer hwait)
      · rcases draining_or_empty hrule hmoved hqueue with hkept | ⟨-, hempty⟩
        · exact Or.inr hkept
        · rw [hempty] at hless
          exact absurd hsome (Nat.not_lt.2 hless)
    · have hbits : worker.events &&& task'.posted = worker.events :=
        hrung ⟨worker.task, worker.events⟩ hbinding task' hget'
      refine Or.inl fun hnone => hevents ?_
      rw [← hbits, UInt32.and_comm]
      exact hnone
  · intro call hcall mask condition hwait
    rcases hmoved.mem_calls hcall with hold | ⟨hanswer, operation, t, rfl, hparked⟩
    · obtain ⟨hphase, hsame⟩ := h.waits call hold mask condition hwait
      exact ⟨note_of_blocked hnumbered hrule hmoved hcall hphase, hsame⟩
    · rw [hwait] at hparked
      obtain ⟨-, timeout, rfl⟩ := @Interference.fitsAt_of_parked _ _ _ _ _ _ {} hparked
      obtain ⟨-, rfl, rfl, -⟩ := hrule rfl
      subst hanswer
      exact ⟨if_pos rfl, rfl, rfl⟩

/-- When the worker waits, it is the only one that does. -/
theorem Serves.alone (h : worker.Serves phase system) (hrule : worker.Allows phase move)
    (hawaited : worker.task ∈ System.awaited move) : System.waiters worker.task system = [] := by
  refine List.filter_eq_nil_iff.2 fun call hcall hfor => ?_
  obtain ⟨mask, condition, hwait⟩ := Interference.isForEvents_iff.1 hfor
  obtain ⟨hphase, -⟩ := h.waits call hcall mask condition hwait
  unfold System.awaited at hawaited
  split at hawaited
  · obtain ⟨hidle, -⟩ := hrule (Option.some.inj hawaited)
    rw [hidle] at hphase
    cases hphase
  · cases hawaited

/-- A message in the queue of the worker has its event posted, or the worker takes messages. -/
theorem Serves.messages (h : worker.Serves phase system) (hwf : system.WellFormed)
    (hsome : (system.kernel.queues.slot worker.queue).messages ≠ []) :
    system.word worker.task &&& worker.events ≠ 0 ∨ phase = .draining := by
  obtain ⟨queue, hget, -, -, hfilled⟩ := h.queue
  obtain ⟨-, hentry, -⟩ := QueueTable.get_eq_ok.1 hget
  obtain ⟨free, members, hholds⟩ := hwf.kernel.queues
  refine hfilled ?_
  rw [← hholds.length_slot hentry]
  exact List.length_pos_of_ne_nil hsome

/-- Where the worker waits and its flag is set, no event of the binding is posted. -/
theorem Serves.unposted {x : Interference} {task : Task} {call : Call} {mask : EventBits}
    {condition : Condition} (h : worker.Serves phase system) (hpatient : system.kernel.Patient)
    (hguards : x.Guards worker.task system) (hmask : worker.events &&& worker.mask = worker.events)
    (hcall : call ∈ system.calls) (hwait : call.wait = .events worker.task mask condition)
    (hentry : system.kernel.tasks[worker.task.index]? = some task) (hwaiting : task.waiting = true) :
    system.word worker.task &&& worker.events = 0 := by
  obtain ⟨-, rfl, rfl⟩ := h.waits call hcall mask condition hwait
  have hwaiter : call ∈ System.waiters worker.task system :=
    List.mem_filter.2 ⟨hcall, Interference.isForEvents_iff.2 ⟨_, _, hwait⟩⟩
  obtain ⟨found, hfound, hfits⟩ := hguards.fits call hwaiter _ _ hwait
  cases hentry.symm.trans hfound
  -- the flag stands beside the wait of the worker, which is not met
  rcases hfits with ⟨-, hstored, hcondition⟩ | ⟨hended, -⟩
  · have hunmet := hpatient.task _ task hentry hwaiting
    unfold Task.isSatisfied at hunmet
    rw [hstored, hcondition] at hunmet
    have hnone : task.posted &&& worker.mask = 0 := bne_eq_false_iff_eq.1 hunmet
    rw [System.word_eq hentry, ← hmask, UInt32.and_comm worker.events, ← UInt32.and_assoc, hnone,
      UInt32.zero_and]
  · rw [hwaiting] at hended
    cases hended

end Worker

/-! ## Runs -/

namespace System

/-- A worker serves a queue from any point of any run of a valid configuration on, at which the queue is
empty and bound to its task. However others post to the queue and to the task, and whatever else they
do, a message in the queue has an event of the binding posted or finds the worker taking messages; and
where the wait of the worker is blocked and its flag is set, the queue is empty. -/
theorem run_strands_no_message {config : Config} (h : config.fault? = none) {before after : List Move}
    {start : System} (hbefore : run { kernel := .ofConfig config } before = .ok start) {worker : Worker}
    (hbegins : worker.Begins start)
    (hrule : AlongNoted worker.note (fun _ => worker.Allows) start .idle after) :
    ∃ system, run start after = .ok system ∧
      ((system.kernel.queues.slot worker.queue).messages ≠ [] →
        system.word worker.task &&& worker.events ≠ 0 ∨
          recount worker.note start after .idle = .draining) ∧
      ∀ call ∈ system.calls, ∀ mask condition, call.wait = .events worker.task mask condition →
        recount worker.note start after .idle = .blocked call.number ∧
        ∀ task, system.kernel.tasks[worker.task.index]? = some task → task.waiting = true →
          (system.kernel.queues.slot worker.queue).messages = [] := by
  obtain ⟨_, hrun, hwf, hpatient⟩ := run_patient h before
  cases hbefore.symm.trans hrun
  obtain ⟨_, hrun, hnumbered⟩ := run_numbered h before
  cases hbefore.symm.trans hrun
  have hnone : waiters worker.task start = [] := by
    refine List.filter_eq_nil_iff.2 fun call hcall hfor => ?_
    obtain ⟨mask, condition, hwait⟩ := Interference.isForEvents_iff.1 hfor
    exact hbegins.alone call hcall mask condition hwait
  obtain ⟨system, hrun, hwf', hserves, -, hpatient', x, hguards⟩ :=
    @run_induct_noted Worker.Phase worker.note
      (fun system phase => worker.Serves phase system ∧ system.Numbered ∧ system.kernel.Patient ∧
        ∃ x : Interference, x.Guards worker.task system)
      (fun _ => worker.Allows)
      (fun hwf hallowed hobserve hinv hmoved => by
        obtain ⟨hserves, hnumbered, hpatient, x, hguards⟩ := hinv
        exact ⟨hserves.moved hbegins.events hwf (hwf.observe hobserve) hnumbered hallowed hmoved,
          hnumbered.move hmoved, hmoved.patient hpatient, _,
          hguards.moved (hserves.alone hallowed) hmoved⟩)
      after start .idle hwf hrule ⟨hbegins.serves, hnumbered, hpatient, {}, Interference.guards_of_none hnone⟩
  refine ⟨system, hrun, hserves.messages hwf', fun call hcall mask condition hwait => ?_⟩
  obtain ⟨hphase, -⟩ := hserves.waits call hcall mask condition hwait
  refine ⟨hphase, fun task hentry hwaiting => Decidable.byContradiction fun hsome => ?_⟩
  rcases hserves.messages hwf' hsome with hposted | hdraining
  · exact hposted (hserves.unposted hpatient' hguards hbegins.mask hcall hwait hentry hwaiting)
  · rw [hphase] at hdraining
    cases hdraining

/-- A queue that is bound to one event of a task. -/
def boundQueue : List Move :=
  [.call (.allocateTask "task" {}),
    .call (.createQueue "queue" { depth := 2, binding := some { task := ⟨1⟩, events := 1 } })]

/-- A worker that waits for another event besides. -/
def server : Worker := { task := ⟨1⟩, queue := ⟨1⟩, events := 1, mask := 3 }

/-- The worker takes one message, finds no other, and then the next one comes. -/
def served : List Move :=
  [.call (.waitEvents ⟨1⟩ 3 .any .indefinite), .call (.postMessage ⟨1⟩ 8 .fifo), .resume 0,
    .call (.receive ⟨1⟩ .noBlock), .call (.receive ⟨1⟩ .noBlock), .call (.postMessage ⟨1⟩ 9 .fifo)]

/-- That message waits for the worker with its event posted. -/
theorem served_strands_no_message : small.fault? = none ∧ ∃ start system : System,
    run { kernel := .ofConfig small } boundQueue = .ok start ∧ server.Begins start ∧
      AlongNoted server.note (fun _ => server.Allows) start .idle served ∧
      run start served = .ok system ∧ recount server.note start served .idle = .idle ∧
      (system.kernel.queues.slot ⟨1⟩).messages = [9] ∧ system.word ⟨1⟩ &&& 1 ≠ 0 := by
  have hvalid : small.fault? = none := by decide
  obtain ⟨start, hbefore, -⟩ := run_wellFormed hvalid boundQueue
  have hloop : (run { kernel := .ofConfig small } boundQueue >>= Except.ok).toOption.map (fun start =>
      (decide (AlongNoted server.note (fun _ => server.Allows) start .idle served),
        recount server.note start served .idle)) = some (true, .idle) := by decide +kernel
  obtain ⟨_, hsame, hfacts⟩ := exists_of_run hbefore hloop
  cases hsame
  obtain ⟨hallowed, hphase⟩ := Prod.mk.inj hfacts
  have hstart : (run { kernel := .ofConfig small } boundQueue >>= Except.ok).toOption.map (fun start =>
      ((start.kernel.tasks.get ⟨1⟩).toOption.isSome,
        (start.kernel.queues.get ⟨1⟩).toOption.map fun queue => (queue.binding, queue.count),
        start.calls)) =
      some (true, some (some { task := ⟨1⟩, events := 1 }, 0), []) := by decide +kernel
  obtain ⟨_, hsame, hfacts⟩ := exists_of_run hbefore hstart
  cases hsame
  obtain ⟨htask, hfacts⟩ := Prod.mk.inj hfacts
  obtain ⟨hqueue, hcalls⟩ := Prod.mk.inj hfacts
  have hrule := of_decide_eq_true hallowed
  have hbegins : server.Begins start := by
    refine ⟨?_, ?_, ?_, by decide, by decide⟩
    · cases hget : start.kernel.tasks.get ⟨1⟩ with
      | error => rw [hget] at htask; cases htask
      | ok task => exact ⟨task, hget⟩
    · cases hget : start.kernel.queues.get ⟨1⟩ with
      | error => rw [hget] at hqueue; cases hqueue
      | ok queue =>
        rw [hget] at hqueue
        obtain ⟨hbinding, hcount⟩ := Prod.mk.inj (Option.some.inj hqueue)
        refine ⟨queue, hget, hbinding, hcount, fun call hcall => ?_⟩
        rw [hcalls] at hcall
        cases hcall
    · intro call hcall
      rw [hcalls] at hcall
      cases hcall
  obtain ⟨system, hrun, hposted, -⟩ := run_strands_no_message hvalid hbefore hbegins hrule
  have hend : (run { kernel := .ofConfig small } boundQueue >>= (run · served)).toOption.map (fun system =>
      (system.kernel.queues.slot ⟨1⟩).messages) = some [9] := by decide +kernel
  obtain ⟨_, hrun', hmessages⟩ := exists_of_run hbefore hend
  cases hrun.symm.trans hrun'
  have hsome : (system.kernel.queues.slot ⟨1⟩).messages ≠ [] := by
    rw [hmessages]
    exact List.cons_ne_nil _ _
  refine ⟨hvalid, start, system, hbefore, hbegins, hrule, hrun, hphase, hmessages, ?_⟩
  rcases hposted hsome with hbits | hdraining
  · exact hbits
  · rw [hphase] at hdraining
    cases hdraining

end System

end Executive
