/-
It makes no difference whether a call begins to wait before what it waits for is posted, or asks for it
afterwards (`run_waits_or_finds`). The one parks, is woken by one of the posts and takes what it has
waited for when it looks again; the other finds it there. Both return the same, all posts have the same
results, and what is left is the same, but for the mask and the condition that a wait for events leaves
with its task.

The two runs are `Abreast`: at every point between the posts the kernel of the one is that of the other
with the wait entered, and the call is parked only as long as its wait is not over.
-/
import Executive.Proofs.Awaiting
import Executive.Proofs.Reception

namespace Executive

open Kernel (Performed Resumed)

/-! ## Waits that begin and end -/

namespace Kernel

variable {s t : Section} {r : Except Error (Progress Value)}

section Events

variable {id : TaskId} {task : Task} {mask : EventBits} {condition : Condition}

/-- A wait for events that are not there parks. -/
theorem Performed.waitEvents_parks (h : Performed s (.waitEvents id mask condition .indefinite) r t)
    (hget : s.kernel.tasks.get id = .ok task) (hunmet : condition.isMet task.posted mask = false)
    (hclear : task.interrupted = false) : r = .ok (.parked (.events id mask condition)) ∧
      t.kernel = s.kernel.awaiting (.events id mask condition) := by
  obtain ⟨_, hawaited, rfl⟩ := h
  cases hawaited with
  | refused hnone => cases hget.symm.trans hnone
  | met hfound hmet =>
    cases hget.symm.trans hfound
    cases hunmet.symm.trans hmet
  | unmet _ _ htimeout => exact absurd rfl htimeout
  | interrupted hfound _ _ hset =>
    cases hget.symm.trans hfound
    cases hclear.symm.trans hset
  | waits hfound =>
    cases hget.symm.trans hfound
    refine ⟨rfl, ?_⟩
    rw [awaiting_events (TaskTable.get_eq_ok.1 hget).2.1, Task.awaitingEvents, hunmet]
    rfl

/-- A wait for events that are there takes them. -/
theorem Performed.waitEvents_finds {timeout : Timeout}
    (h : Performed s (.waitEvents id mask condition timeout) r t)
    (hget : s.kernel.tasks.get id = .ok task) (hmet : condition.isMet task.posted mask = true) :
    r = .ok (.returned (.bits (condition.consumed task.posted mask))) ∧
      t.kernel = s.kernel.setTask id (task.clear (condition.consumed task.posted mask)) := by
  obtain ⟨_, hawaited, rfl⟩ := h
  cases hawaited with
  | refused hnone => cases hget.symm.trans hnone
  | met hfound =>
    cases hget.symm.trans hfound
    exact ⟨rfl, rfl⟩
  | unmet hfound hunmet | interrupted hfound hunmet | waits hfound hunmet =>
    cases hget.symm.trans hfound
    cases hunmet.symm.trans hmet

/-- A wait for events that is over takes them when it looks again. -/
theorem Resumed.events_takes (h : Resumed s (.events id mask condition) r t)
    (hentry : s.kernel.tasks[id.index]? = some task) (hwaiting : task.waiting = false) :
    r = .ok (.returned (.bits (condition.consumed task.posted mask))) ∧
      t.kernel = s.kernel.setTask id
        ({ task with interrupted := false }.clear (condition.consumed task.posted mask)) := by
  obtain ⟨_, hresumed, rfl⟩ := h
  cases hresumed with
  | woken hfound =>
    cases hentry.symm.trans hfound
    exact ⟨rfl, rfl⟩
  | interrupted hfound hset | waits hfound hset =>
    cases hentry.symm.trans hfound
    cases hwaiting.symm.trans hset

end Events

section Messages

variable {id : QueueId} {queue : Queue} {generation : UInt64} {timeout : Timeout}

/-- A receive from an empty queue parks. -/
theorem Performed.receive_parks (h : Performed s (.receive id timeout) r t)
    (hget : s.kernel.queues.get id = .ok queue) (hempty : queue.count = 0) (htimeout : timeout ≠ .noBlock)
    (hclear : queue.interrupted = false) : r = .ok (.parked (.message id queue.generation)) ∧
      t.kernel = s.kernel.awaiting (.message id queue.generation) := by
  obtain ⟨_, hreceived, rfl⟩ := h
  have hentry := (QueueTable.get_eq_ok.1 hget).2.1
  cases hreceived with
  | refused hnone => cases hget.symm.trans hnone
  | served _ htaken =>
    cases htaken with
    | taken hfound hcount =>
      cases hentry.symm.trans hfound
      exact absurd hempty (Nat.ne_of_gt hcount)
  | empty _ _ hnoBlock => exact absurd hnoBlock htimeout
  | interrupted hfound _ _ hset =>
    cases hget.symm.trans hfound
    cases hclear.symm.trans hset
  | waits hfound =>
    cases hget.symm.trans hfound
    refine ⟨rfl, ?_⟩
    rw [awaiting_message hentry, hempty]
    rfl

/-- One from a queue that is not empty takes the first message. -/
theorem Performed.receive_finds (h : Performed s (.receive id timeout) r t)
    (hget : s.kernel.queues.get id = .ok queue) (hcount : queue.count ≠ 0) :
    ∃ message, r = .ok (.returned (.message message)) ∧ MessageTaken id s (some message) t := by
  obtain ⟨_, hreceived, rfl⟩ := h
  cases hreceived with
  | refused hnone => cases hget.symm.trans hnone
  | served _ htaken => exact ⟨_, rfl, htaken⟩
  | empty hfound hempty | interrupted hfound hempty | waits hfound hempty =>
    cases hget.symm.trans hfound
    exact absurd hempty hcount

/-- A receive that is over takes the first message when it looks again. -/
theorem Resumed.message_takes (h : Resumed s (.message id queue.generation) r t)
    (hentry : s.kernel.queues.queues[id.index]? = some queue) (hwaiting : queue.waiting = false)
    (hclear : queue.interrupted = false) (hcount : queue.count ≠ 0) :
    ∃ message, r = .ok (.returned (.message message)) ∧ MessageTaken id s (some message) t := by
  obtain ⟨_, hresumed, rfl⟩ := h
  have hqueue : { queue with interrupted := false } = queue := by rw [← hclear]
  have hsame : s.kernel.setQueue id { queue with interrupted := false } = s.kernel := by
    rw [hqueue]
    exact congrArg s.kernel.setQueues (QueueTable.put_self hentry)
  cases hresumed with
  | lost hfound hlost =>
    cases hentry.symm.trans hfound
    exact absurd rfl hlost
  | served hfound _ _ htaken =>
    cases hentry.symm.trans hfound
    rw [hsame] at htaken
    exact ⟨_, rfl, htaken⟩
  | unserved hfound _ _ htaken =>
    cases hentry.symm.trans hfound
    rw [hsame] at htaken
    cases htaken with
    | empty hfound hempty =>
      cases hentry.symm.trans hfound
      exact absurd hempty hcount
  | interrupted hfound _ hset | waits hfound _ hset =>
    cases hentry.symm.trans hfound
    cases hwaiting.symm.trans hset

/-- There is one first message, and it is taken in one way. -/
theorem MessageTaken.unique {s' t' : Section} {message message' : Message}
    (h : MessageTaken id s (some message) t) (h' : MessageTaken id s' (some message') t')
    (hs : s'.kernel = s.kernel) : message' = message ∧ t'.kernel = t.kernel := by
  cases h with
  | taken _ _ hpop =>
    cases h' with
    | taken _ _ hpop' =>
      rw [hs] at hpop'
      obtain ⟨hmessage, htable⟩ := Prod.mk.inj (Except.ok.inj (hpop'.symm.trans hpop))
      refine ⟨Option.some.inj hmessage, ?_⟩
      dsimp only [putQueue]
      rw [hs, htable]

end Messages

end Kernel

namespace System

variable {system base plain begun : System} {wait : Wait} {number : Nat} {move : Move} {posts : List Move}

/-! ## Two runs beside each other -/

/-- Whether a move is a post. -/
def Move.isPost : Move → Bool
  | .call operation => operation.isPost
  | _ => false

/-- Notes what a move gives back. -/
def noteAnswer (_ : System) (_ : Move) (answer : Answer) (_ : List Signal) (_ : System)
    (answers : List Answer) : List Answer := answers ++ [answer]

/-- What the moves of a run give back. -/
def answers (system : System) (moves : List Move) : List Answer := recount noteAnswer system moves []

/-- A call begins to wait, the moves are made, and then it looks again and returns. -/
inductive WaitsBefore (system : System) (operation : Operation) (moves : List Move)
    (answers : List Answer) (result : Except Error Value) (last : System) : Prop
  | intro {call : Call} {i : Nat} {signals signals' : List Signal} {begun ended : System}
    (hcall : system.call operation = .ok (.blocked call.number, signals, begun))
    (hmoves : begun.run moves = .ok ended) (hanswers : begun.answers moves = answers)
    (hready : ended.ready[i]? = some call)
    (hresume : ended.resume i = .ok (some (call, some result), signals', last))

/-- The moves are made, and then a call is made that returns at once. -/
inductive FindsAfter (system : System) (operation : Operation) (moves : List Move)
    (answers : List Answer) (result : Except Error Value) (last : System) : Prop
  | intro {signals : List Signal} {ended : System} (hmoves : system.run moves = .ok ended)
    (hanswers : system.answers moves = answers)
    (hcall : ended.call operation = .ok (.returned result, signals, last))

/-- A run in which a call has begun to wait beside the run without it, both from one system. Where the
call is parked its wait is not over. -/
structure Abreast (wait : Wait) (number : Nat) (base plain begun : System) : Prop where
  wellFormed : plain.WellFormed
  wellFormed' : begun.WellFormed
  kernel : begun.kernel = plain.kernel.awaiting wait
  accounted : plain.Accounted
  calls : plain.calls.Perm base.calls
  blocked : { number, wait } ∈ begun.calls
  held : (begun.kernel.watch wait).held = true
  rests : { number, wait } ∈ begun.parked → (begun.kernel.watch wait).isOver = false

/-- A post comes to the same in both runs, and it wakes the call if it ends the wait. -/
theorem Abreast.posted (h : Abreast wait number base plain begun) (hpost : move.isPost = true) :
    ∃ answer signals signals' plain' begun', plain.observe move = .ok (answer, signals, plain') ∧
      begun.observe move = .ok (answer, signals', begun') ∧ Abreast wait number base plain' begun' := by
  obtain ⟨answer, signals, plain', hobserve, hwf, hmoved⟩ := observe_spec h.wellFormed move
  obtain ⟨answer', signals', begun', hobserve', hwf', hmoved'⟩ := observe_spec h.wellFormed' move
  have haccounted := h.accounted.moved hmoved
  cases move with
  | resume | advance | act | proceed => cases hpost
  | call operation =>
    cases hmoved with
    | blocked hcall => exact absurd hcall (Performed.not_parked_of_post hpost)
    | @returned _ result t hcall =>
      cases hmoved' with
      | blocked hcall' => exact absurd hcall' (Performed.not_parked_of_post hpost)
      | @returned _ result' t' hcall' =>
        obtain ⟨hresult, hkernel⟩ := hcall.awaiting hpost hcall' h.kernel
        cases Kernel.map_returned_inj hresult
        have hspares : Kernel.Spares wait { kernel := begun.kernel } t' := by
          refine hcall'.spares h.wellFormed'.kernel (h.wellFormed'.gates _ h.blocked) ?_ ?_
          · rintro id rfl
            cases hpost
          · intro other heq
            cases result <;> cases heq
        refine ⟨_, _, _, _, _, hobserve, hobserve', ⟨hwf, hwf', ?_, haccounted, ?_, ?_, ?_, ?_⟩⟩
        · rw [kernel_leave, kernel_leave]
          exact hkernel
        · exact calls_leave.trans h.calls
        · exact calls_leave.mem_iff.2 h.blocked
        · rw [kernel_leave]
          exact hspares.held h.held
        · intro hparked
          obtain ⟨hbefore, hquiet⟩ := mem_parked_leave.1 hparked
          rw [kernel_leave]
          exact (hspares.resting h.held (h.rests hbefore)).resolve_left hquiet

theorem Abreast.run (h : Abreast wait number base plain begun) (hposts : ∀ move ∈ posts, move.isPost = true) :
    ∃ plain' begun', plain.run posts = .ok plain' ∧ begun.run posts = .ok begun' ∧
      (∀ given, recount noteAnswer begun posts given = recount noteAnswer plain posts given) ∧
      Abreast wait number base plain' begun' := by
  induction posts generalizing plain begun with
  | nil => exact ⟨plain, begun, rfl, rfl, fun _ => rfl, h⟩
  | cons move rest ih =>
    obtain ⟨answer, signals, signals', plain', begun', hobserve, hobserve', hnext⟩ :=
      h.posted (hposts move (List.mem_cons_self ..))
    obtain ⟨plain'', begun'', hrun, hrun', hanswers, hend⟩ :=
      ih hnext fun move hmove => hposts move (List.mem_cons_of_mem _ hmove)
    refine ⟨plain'', begun'', (run_cons hobserve rest).trans hrun, (run_cons hobserve' rest).trans hrun',
      fun given => ?_, hend⟩
    rw [recount_cons hobserve, recount_cons hobserve']
    exact hanswers _

/-- The runs begin beside each other when a call parks that does nothing but to enter its wait. -/
theorem abreast_of_parks {operation : Operation} (hwf : system.WellFormed) (haccounted : system.Accounted)
    (hparks : ∀ r t, Performed { kernel := system.kernel } operation r t →
      r = .ok (.parked wait) ∧ t.kernel = system.kernel.awaiting wait) :
    ∃ signals begun, system.call operation = .ok (.blocked system.callCount, signals, begun) ∧
      Abreast wait system.callCount system system begun := by
  obtain ⟨answer, signals, begun, hobserve, hwf', hmoved⟩ := observe_spec hwf (.call operation)
  cases hmoved with
  | @returned _ result t hcall =>
    obtain ⟨hresult, -⟩ := hparks _ _ hcall
    cases result <;> cases hresult
  | @blocked _ parked t hcall =>
    obtain ⟨hresult, hkernel⟩ := hparks _ _ hcall
    cases hresult
    obtain ⟨hheld, hrests⟩ := hcall.rests
    have hleave : (system.leave t).kernel = t.kernel := kernel_leave
    refine ⟨_, _, call_of_observe hobserve, hwf, hwf', hleave.trans hkernel, haccounted, .refl _, ?_, ?_, ?_⟩
    · exact (calls_park _).mem_iff.2 (List.mem_cons_self ..)
    · show ((system.leave t).kernel.watch wait).held = true
      rw [hleave]
      exact hheld
    · intro _
      show ((system.leave t).kernel.watch wait).isOver = false
      rw [hleave]
      exact hrests

/-- A call whose wait is over is ready. -/
theorem Abreast.ready (h : Abreast wait number base plain begun)
    (hover : (begun.kernel.watch wait).isOver = true) :
    ∃ i : Nat, begun.ready[i]? = some { number, wait } := by
  rcases List.mem_append.1 h.blocked with hparked | hready
  · rw [h.rests hparked] at hover
    cases hover
  · exact List.mem_iff_getElem?.1 hready

/-- So it returns when it looks again. -/
theorem Abreast.returns (h : Abreast wait number base plain begun)
    (hover : (begun.kernel.watch wait).isOver = true) :
    ∃ (i : Nat) (result : Except Error Value) (t : Section) (signals : List Signal) (last : System),
      begun.ready[i]? = some { number, wait } ∧
      begun.resume i = .ok (some ({ number, wait }, some result), signals, last) ∧
      Resumed { kernel := begun.kernel } wait (result.map .returned) t ∧ last.kernel = t.kernel := by
  obtain ⟨i, hready⟩ := h.ready hover
  rcases resume_cases h.wellFormed' hready with ⟨hlook, -⟩ | ⟨result, t, hlook, hresume⟩
  · have hrests : (begun.kernel.watch wait).isOver = false := hlook.rests
    rw [hrests] at hover
    cases hover
  · exact ⟨i, result, t, _, _, hready, hresume, hlook, kernel_leave⟩

/-- A call that cannot wait returns at once. -/
theorem call_finds {operation : Operation} (hwf : system.WellFormed)
    (hreturns : ∀ r t, Performed { kernel := system.kernel } operation r t →
      ∃ value, r = .ok (.returned value)) :
    ∃ value t signals last, system.call operation = .ok (.returned (.ok value), signals, last) ∧
      Performed { kernel := system.kernel } operation (.ok (.returned value)) t ∧
      last.kernel = t.kernel := by
  obtain ⟨answer, signals, last, hobserve, -, hmoved⟩ := observe_spec hwf (.call operation)
  cases hmoved with
  | blocked hcall =>
    obtain ⟨_, hvalue⟩ := hreturns _ _ hcall
    cases hvalue
  | @returned _ result t hcall =>
    obtain ⟨value, hvalue⟩ := hreturns _ _ hcall
    cases result with
    | error => cases hvalue
    | ok => exact ⟨_, t, _, _, call_of_observe hobserve, hcall, kernel_leave⟩

/-! ### Waits for events -/

section Events

variable {id : TaskId} {mask : EventBits} {condition : Condition}

/-- Where the events are there at last, the call takes what it would find. -/
theorem Abreast.events_taken (h : Abreast (.events id mask condition) number base plain begun)
    (hpos : 0 < id.index) (hfree : ∀ call ∈ base.calls, call.wait.gate ≠ .task id)
    (hmet : condition.isMet (plain.word id) mask = true) :
    ∃ (i : Nat) (bits : EventBits) (task : Task) (signals signals' : List Signal) (first last : System),
      begun.ready[i]? = some { number, wait := .events id mask condition } ∧
      begun.resume i = .ok (some ({ number, wait := .events id mask condition },
        some (.ok (.bits bits))), signals, first) ∧
      plain.call (.waitEvents id mask condition .noBlock) =
        .ok (.returned (.ok (.bits bits)), signals', last) ∧
      last.kernel.tasks.get id = .ok task ∧
      first.kernel = last.kernel.setTask id { task with mask, condition } := by
  -- the task is still in use, and no flag is set in its entry
  obtain ⟨task, hentry, hbusy⟩ : ∃ task, plain.kernel.tasks[id.index]? = some task ∧ task.busy = true := by
    have hheld := h.held
    rw [h.kernel] at hheld
    cases hentry : plain.kernel.tasks[id.index]? with
    | none => simp [Kernel.watch, Kernel.awaiting, hentry] at hheld
    | some task => exact ⟨task, rfl, by simpa [Kernel.watch, Kernel.awaiting, hentry] using hheld⟩
  have hget := TaskTable.get_eq_ok.2 ⟨hpos, hentry, hbusy⟩
  obtain ⟨hclear, hquiet, -⟩ := h.accounted.calm.task id task hget fun call hcall =>
    hfree call (h.calls.mem_iff.1 hcall)
  rw [word_eq hentry] at hmet
  have hkernel := h.kernel.trans (Kernel.awaiting_events hentry mask condition)
  have hentry' : begun.kernel.tasks[id.index]? = some (task.awaitingEvents mask condition) := by
    rw [hkernel]
    exact Kernel.getElem?_setTask hentry _
  have hwaiting : (task.awaitingEvents mask condition).waiting = false := by
    rw [Task.awaitingEvents, hmet]
    rfl
  have hover : (begun.kernel.watch (.events id mask condition)).isOver = true := by
    simp [Kernel.watch, Watch.isOver, hentry', hwaiting]
  obtain ⟨i, result, t, signals, first, hready, hresume, hlook, hfirst⟩ := h.returns hover
  obtain ⟨value, t', signals', last, hcall, hperformed, hlast⟩ :=
    @call_finds plain (.waitEvents id mask condition .noBlock) h.wellFormed fun r t hperformed =>
      ⟨_, (hperformed.waitEvents_finds hget hmet).1⟩
  obtain ⟨hresult, ht⟩ := hlook.events_takes hentry' hwaiting
  obtain ⟨hvalue, ht'⟩ := hperformed.waitEvents_finds hget hmet
  cases hvalue
  obtain rfl : result = .ok (.bits (condition.consumed task.posted mask)) :=
    Kernel.map_returned_inj hresult
  refine ⟨i, _, task.clear (condition.consumed task.posted mask), signals, signals', first, last, hready,
    hresume, hcall, ?_, ?_⟩
  · rw [hlast, ht']
    exact TaskTable.get_eq_ok.2 ⟨hpos, Kernel.getElem?_setTask hentry _, hbusy⟩
  · rw [hfirst, ht, hlast, ht']
    dsimp only
    rw [hkernel, Kernel.setTask_setTask, Kernel.setTask_setTask, Task.awaitingEvents, hmet]
    simp only [Task.clear, Bool.not_true, hclear, hquiet]

end Events

/-! ### Receives -/

section Messages

variable {id : QueueId} {generation : UInt64} {timeout : Timeout}

/-- Posts do nothing to a queue but put messages into it. -/
theorem traffic_of_post {answer : Answer} {signals : List Signal} (hpost : move.isPost = true) :
    system.traffic id move answer signals = none ∨
      ∃ message mode, system.traffic id move answer signals = some (.posted message mode) := by
  cases move with
  | resume | advance | act | proceed => cases hpost
  | call operation =>
    cases answer with
    | looked | due | acted => exact Or.inl rfl
    | outcome outcome =>
      cases outcome with
      | blocked => exact Or.inl rfl
      | returned result =>
        cases operation with
        | postEvents | postFromDriver => exact Or.inl rfl
        | postMessage queue message mode =>
          simp only [traffic, Operation.traffic]
          split
          · exact Or.inr ⟨message, mode, rfl⟩
          · exact Or.inl rfl
        | _ => cases hpost

/-- The slot of a queue tells after posts whether a message has come. -/
theorem fits_of_posts (hwf : system.WellFormed) (hposts : ∀ move ∈ posts, move.isPost = true)
    (hempty : (system.kernel.queues.slot id).messages = []) :
    ∃ last, system.run posts = .ok last ∧
      (recount (Tidings.note id) system posts {}).deletions = 0 ∧
      (recount (Tidings.note id) system posts {}).Fits (system.kernel.queues.slot id).generation
        (last.kernel.queues.slot id) := by
  have hstart : Tidings.Fits {} (system.kernel.queues.slot id).generation (system.kernel.queues.slot id) :=
    ⟨(UInt64.add_zero _).symm, fun _ => by rw [hempty]; rfl⟩
  obtain ⟨last, hrun, -, hkept, hfits⟩ := @run_induct Tidings (Tidings.note id)
    (fun _ move => move.isPost = true)
    (fun last tidings => tidings.deletions = 0 ∧
      tidings.Fits (system.kernel.queues.slot id).generation (last.kernel.queues.slot id))
    (fun {system move answer signals system' tidings} hwf hpost ⟨hkept, hfits⟩ hmoved => by
      have htraffic := @traffic_of_post system move id answer signals hpost
      have hslot := hfits.add (hmoved.handles hwf) fun message htaken => by
        rcases htraffic with hnone | ⟨_, _, hposted⟩
        · cases hnone.symm.trans htaken
        · cases hposted.symm.trans htaken
      refine ⟨?_, hslot.generation, hslot.messages⟩
      rcases htraffic with hnone | ⟨_, _, hposted⟩
      · simpa [Tidings.note, hnone, Tidings.add] using hkept
      · simpa [Tidings.note, hposted, Tidings.add] using hkept)
    posts system {} hwf (along_of_mem (fun move hmove _ => hposts move hmove) system) ⟨rfl, hstart⟩
  exact ⟨last, hrun, hkept, hfits⟩

/-- Where a message has come, the call takes what it would find. -/
theorem Abreast.message_taken (h : Abreast (.message id generation) number base plain begun)
    (hfree : ∀ call ∈ base.calls, call.wait ≠ .message id generation)
    (hgeneration : (plain.kernel.queues.slot id).generation = generation)
    (hmessages : (plain.kernel.queues.slot id).messages ≠ []) :
    ∃ (i : Nat) (message : Message) (signals signals' : List Signal) (first last : System),
      begun.ready[i]? = some { number, wait := .message id generation } ∧
      begun.resume i = .ok (some ({ number, wait := .message id generation },
        some (.ok (.message message))), signals, first) ∧
      plain.call (.receive id .noBlock) = .ok (.returned (.ok (.message message)), signals', last) ∧
      first.kernel = last.kernel := by
  obtain ⟨free, members, hholds⟩ := h.wellFormed.kernel.queues
  -- the queue is still in use, and no flag is set in its entry
  obtain ⟨queue, hget, hcount⟩ := hholds.get_of_messages hmessages
  obtain ⟨-, hentry, -⟩ := QueueTable.get_eq_ok.1 hget
  obtain rfl : queue.generation = generation := by
    rw [← hgeneration, QueueTable.slot_eq hentry]
  obtain ⟨hclear, hquiet, -⟩ := h.accounted.calm.queue id queue hget fun call hcall =>
    hfree call (h.calls.mem_iff.1 hcall)
  have hkernel : begun.kernel = plain.kernel := by
    have hqueue : { queue with waiting := queue.count == 0 } = queue := by
      rw [beq_false_of_ne hcount, ← hquiet]
    rw [h.kernel, Kernel.awaiting_message hentry, hqueue]
    exact congrArg plain.kernel.setQueues (QueueTable.put_self hentry)
  have hentry' : begun.kernel.queues.queues[id.index]? = some queue := by rw [hkernel]; exact hentry
  have hover : (begun.kernel.watch (.message id queue.generation)).isOver = true := by
    simp [Kernel.watch, Watch.isOver, hentry', hquiet]
  obtain ⟨i, result, t, signals, first, hready, hresume, hlook, hfirst⟩ := h.returns hover
  obtain ⟨value, t', signals', last, hcall, hperformed, hlast⟩ :=
    @call_finds plain (.receive id .noBlock) h.wellFormed fun r t hperformed => by
      obtain ⟨message, hresult, -⟩ := hperformed.receive_finds hget hcount
      exact ⟨_, hresult⟩
  obtain ⟨message, hresult, htaken⟩ := hlook.message_takes hentry' hquiet hclear hcount
  obtain ⟨message', hvalue, htaken'⟩ := hperformed.receive_finds hget hcount
  obtain ⟨rfl, hsame⟩ := htaken'.unique htaken hkernel
  cases hvalue
  obtain rfl : result = .ok (.message message) := Kernel.map_returned_inj hresult
  refine ⟨i, message, signals, signals', first, last, hready, hresume, hcall, ?_⟩
  rw [hfirst, hlast, hsame]

end Messages

/-! ## Every run -/

/-- In every run of a valid configuration, for posts of events, by drivers or not, and of messages.

If the task is in use, no call is blocked on it, and the events it is to wait for are not there, then a
wait for them that begins before the posts and looks again after them returns the events that a wait made
after the posts would find, provided that these have brought them; all posts have the same results, and
what is left is the same but for the mask and the condition that the wait has entered.

If the queue is in use and empty and no call is blocked on it, then a receive with any timeout that begins
before the posts and looks again after them returns the message that a receive made after the posts
would find, provided that one of these has put a message into the queue; all posts have the same results,
and what is left is the same. -/
theorem run_waits_or_finds {config : Config} (h : config.fault? = none) (moves : List Move) :
    ∃ system, run { kernel := .ofConfig config } moves = .ok system ∧
      (∀ (id : TaskId) (task : Task) (mask : EventBits) (condition : Condition) (posts : List Move),
        system.kernel.tasks.get id = .ok task → (∀ call ∈ system.calls, call.wait.gate ≠ .task id) →
        condition.isMet task.posted mask = false → (∀ move ∈ posts, move.isPost = true) →
        ∃ plain, system.run posts = .ok plain ∧ (condition.isMet (plain.word id) mask = true →
          ∃ answers bits first last after,
            WaitsBefore system (.waitEvents id mask condition .indefinite) posts answers
              (.ok (.bits bits)) first ∧
            FindsAfter system (.waitEvents id mask condition .noBlock) posts answers (.ok (.bits bits)) last ∧
            last.kernel.tasks.get id = .ok after ∧
            first.kernel = last.kernel.setTask id { after with mask, condition })) ∧
      ∀ (id : QueueId) (queue : Queue) (timeout : Timeout) (posts : List Move),
        system.kernel.queues.get id = .ok queue → queue.count = 0 →
        (∀ call ∈ system.calls, call.wait ≠ .message id queue.generation) → timeout ≠ .noBlock →
        (∀ move ∈ posts, move.isPost = true) → (recount (Tidings.note id) system posts {}).posted = true →
        ∃ answers message first last,
          WaitsBefore system (.receive id timeout) posts answers (.ok (.message message)) first ∧
          FindsAfter system (.receive id .noBlock) posts answers (.ok (.message message)) last ∧
          first.kernel = last.kernel := by
  obtain ⟨system, hrun, hwf, -, haccounted⟩ := run_invariant h (ofConfig_accounted config)
    (fun _ _ hinv hmoved => hinv.moved hmoved) moves
  refine ⟨system, hrun, ?_, ?_⟩
  · intro id task mask condition posts hget hfree hunmet hposts
    obtain ⟨hclear, -⟩ := haccounted.calm.task id task hget hfree
    obtain ⟨signals, begun, hcall, habreast⟩ := abreast_of_parks hwf haccounted fun r t hperformed =>
      hperformed.waitEvents_parks hget hunmet hclear
    obtain ⟨plain, begun', hplain, hbegun, hanswers, hend⟩ := habreast.run hposts
    refine ⟨plain, hplain, fun hmet => ?_⟩
    obtain ⟨i, bits, after, _, _, first, last, hready, hresume, hfound, hafter, hsame⟩ :=
      hend.events_taken (TaskTable.get_eq_ok.1 hget).1 hfree hmet
    exact ⟨system.answers posts, bits, first, last, after,
      ⟨hcall, hbegun, hanswers [], hready, hresume⟩, ⟨hplain, rfl, hfound⟩, hafter, hsame⟩
  · intro id queue timeout posts hget hempty hfree htimeout hposts hposted
    obtain ⟨-, hentry, -⟩ := QueueTable.get_eq_ok.1 hget
    obtain ⟨hclear, -⟩ := haccounted.calm.queue id queue hget hfree
    obtain ⟨signals, begun, hcall, habreast⟩ := abreast_of_parks hwf haccounted fun r t hperformed =>
      hperformed.receive_parks hget hempty htimeout hclear
    obtain ⟨plain, begun', hplain, hbegun, hanswers, hend⟩ := habreast.run hposts
    -- the slot of the queue tells that a message has come
    have hnone : (system.kernel.queues.slot id).messages = [] := by
      obtain ⟨free, members, hholds⟩ := hwf.kernel.queues
      rw [← List.length_eq_zero_iff, hholds.length_slot hentry, hempty]
    obtain ⟨_, hsame, hkept, hfits⟩ := fits_of_posts hwf hposts hnone
    cases hplain.symm.trans hsame
    have hgeneration := hfits.generation
    rw [hkept, QueueTable.slot_eq hentry] at hgeneration
    have hmessages := hfits.messages hkept
    rw [hposted] at hmessages
    obtain ⟨i, message, _, _, first, last, hready, hresume, hfound, hkernel⟩ :=
      hend.message_taken hfree (hgeneration.trans (UInt64.add_zero _)) fun hnil => by
        rw [hnil] at hmessages
        cases hmessages
    exact ⟨system.answers posts, message, first, last,
      ⟨hcall, hbegun, hanswers [], hready, hresume⟩, ⟨hplain, rfl, hfound⟩, hkernel⟩

/-- A task, and a queue that is bound to it. -/
def coupled : List Move :=
  [.call (.allocateTask "task" {}),
    .call (.createQueue "queue" { depth := 2, binding := some ⟨⟨1⟩, 2⟩ })]

/-- Posts of events on three ways. -/
def eventPosts : List Move :=
  [.call (.postEvents ⟨1⟩ 1), .call (.postMessage ⟨1⟩ 7 .fifo), .call (.postFromDriver ⟨1⟩ 4)]

/-- Posts of messages, of which the last is rejected. -/
def messagePosts : List Move :=
  [.call (.postMessage ⟨1⟩ 7 .fifo), .call (.postMessage ⟨1⟩ 8 .jam), .call (.postMessage ⟨1⟩ 9 .fifo)]

/-- A wait for two events and a receive, before and after the posts. -/
theorem coupled_waits_or_finds : small.fault? = none ∧
    ∃ system, run { kernel := .ofConfig small } coupled = .ok system ∧
      (∃ answers bits first last after,
        WaitsBefore system (.waitEvents ⟨1⟩ 3 .all .indefinite) eventPosts answers (.ok (.bits bits)) first ∧
        FindsAfter system (.waitEvents ⟨1⟩ 3 .all .noBlock) eventPosts answers (.ok (.bits bits)) last ∧
        last.kernel.tasks.get ⟨1⟩ = .ok after ∧
        first.kernel = last.kernel.setTask ⟨1⟩ { after with mask := 3, condition := .all }) ∧
      ∃ answers message first last,
        WaitsBefore system (.receive ⟨1⟩ (.ticks 5)) messagePosts answers (.ok (.message message)) first ∧
        FindsAfter system (.receive ⟨1⟩ .noBlock) messagePosts answers (.ok (.message message)) last ∧
        first.kernel = last.kernel := by
  have hvalid : small.fault? = none := by decide
  obtain ⟨system, hrun, hevents, hmessages⟩ := run_waits_or_finds hvalid coupled
  have hworked : (run { kernel := .ofConfig small } coupled >>= Except.ok).toOption.map (fun system =>
      (system.calls, (system.kernel.tasks.get ⟨1⟩).toOption.map Task.posted,
        (system.kernel.queues.get ⟨1⟩).toOption.map Queue.count,
        (system.run eventPosts).toOption.map (·.word ⟨1⟩),
        (recount (Tidings.note ⟨1⟩) system messagePosts {}).posted)) =
      some ([], some 0, some 0, some 7, true) := by decide +kernel
  obtain ⟨_, hsame, hfacts⟩ := exists_of_run hrun hworked
  cases hsame
  simp only [Prod.mk.injEq] at hfacts
  obtain ⟨hcalls, hposted, hcount, hword, hcome⟩ := hfacts
  have hnone {p : Call → Prop} : ∀ call ∈ system.calls, p call := by
    rw [hcalls]
    nofun
  refine ⟨hvalid, system, hrun, ?_, ?_⟩
  · cases hget : system.kernel.tasks.get ⟨1⟩ with
    | error error => rw [hget] at hposted; cases hposted
    | ok task =>
      rw [hget] at hposted
      have hunmet : Condition.all.isMet task.posted 3 = false := by
        rw [show task.posted = 0 from Option.some.inj hposted]
        decide
      obtain ⟨plain, hplain, htaken⟩ := hevents ⟨1⟩ task 3 .all eventPosts hget hnone hunmet (by decide)
      rw [hplain] at hword
      refine htaken ?_
      rw [show plain.word ⟨1⟩ = 7 from Option.some.inj hword]
      decide
  · cases hget : system.kernel.queues.get ⟨1⟩ with
    | error error => rw [hget] at hcount; cases hcount
    | ok queue =>
      rw [hget] at hcount
      exact hmessages ⟨1⟩ queue (.ticks 5) messagePosts hget (Option.some.inj hcount) hnone nofun (by decide)
        hcome

end System

end Executive
