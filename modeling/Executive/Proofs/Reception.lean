/-
How a blocked receive ends that has its queue to itself (`run_receives`). Between two looks of it the
queue may be posted to, interrupted, deleted and created again, in any order and any number of times, and
ticks may pass. What it returns depends on three things only, and on these in this order: whether the
queue has been deleted since it parked, whether a message has been posted, and whether it has been
interrupted.

`Tidings` notes the three beside the run. What the slot of the queue tells of them is shown by cases on
the traffic there, and what the flags tell by cases on what a move does to the entry.
-/
import Executive.Proofs.Delivery
import Executive.Proofs.Interrupts

namespace Executive

open Kernel (Performed Resumed MessageTaken)

/-! ## Tidings -/

/-- What has happened to a queue since a receive parked on it. -/
structure Tidings where
  deletions : Nat := 0
  /-- A message has been posted. -/
  posted : Bool := false
  /-- The receiver has been told to give up. -/
  interrupted : Bool := false
  deriving DecidableEq, Repr

namespace Tidings

variable {tidings : Tidings} {id : QueueId} {generation : UInt64} {a b : Slot}

/-- The tidings after some more traffic. -/
def add (tidings : Tidings) : Option Traffic → Tidings
  | some .deleted => { tidings with deletions := tidings.deletions + 1 }
  | some (.posted _ _) => { tidings with posted := true }
  | some .created | some (.taken _) | none => tidings

/-- The tidings of a queue after a move. An interrupt counts if it has answered that a receiver was
blocked. -/
def note (id : QueueId) (system : System) (move : System.Move) (answer : System.Answer)
    (signals : List Signal) (_ : System) (tidings : Tidings) : Tidings :=
  { tidings.add (system.traffic id move answer signals) with
    interrupted := tidings.interrupted || move.latches answer == some (.queue id) }

@[simp] theorem interrupted_add (tidings : Tidings) (traffic : Option Traffic) :
    (tidings.add traffic).interrupted = tidings.interrupted := by
  rcases traffic with _ | _ | _ | _ | _ <;> rfl

theorem deletions_le_add (tidings : Tidings) (traffic : Option Traffic) :
    tidings.deletions ≤ (tidings.add traffic).deletions := by
  rcases traffic with _ | _ | _ | _ | _
  case some.deleted => exact Nat.le_succ _
  all_goals exact Nat.le_refl _

theorem posted_of_add {traffic : Option Traffic} (h : (tidings.add traffic).posted = false) :
    tidings.posted = false := by
  rcases traffic with _ | _ | _ | _ | _
  case some.posted => cases h
  all_goals exact h

/-! ### What the slot of the queue tells -/

/-- What the slot of a queue tells of what has happened since a receive of this generation parked. -/
structure Fits (tidings : Tidings) (generation : UInt64) (slot : Slot) : Prop where
  generation : slot.generation = generation + UInt64.ofNat tidings.deletions
  messages : tidings.deletions = 0 → slot.messages.isEmpty = !tidings.posted

/-- Traffic keeps the tidings right as long as no message is taken. -/
theorem Fits.add (h : tidings.Fits generation a) {traffic : Option Traffic} (hhandles : Handles a b traffic)
    (hnone : ∀ message, traffic ≠ some (.taken message)) : (tidings.add traffic).Fits generation b := by
  cases traffic with
  | none =>
    rw [show b = a from hhandles]
    exact h
  | some traffic =>
    cases traffic with
    | created =>
      obtain ⟨-, -, rfl⟩ := hhandles
      exact ⟨h.generation, h.messages⟩
    | posted message mode =>
      obtain ⟨-, rfl⟩ := hhandles
      refine ⟨h.generation, fun _ => ?_⟩
      cases mode with
      | fifo => simp [Tidings.add, PostMode.add]
      | jam => simp [Tidings.add, PostMode.add]
    | taken message => exact absurd rfl (hnone message)
    | deleted =>
      obtain ⟨-, rfl⟩ := hhandles
      refine ⟨?_, fun hnot => absurd hnot (Nat.succ_ne_zero _)⟩
      simp only [h.generation, Tidings.add, UInt64.ofNat_add, UInt64.add_assoc]
      rfl

/-- The generation tells whether the queue has been deleted, unless the deletions are so many that it
comes round. -/
theorem Fits.generation_eq_iff (h : tidings.Fits generation a) (hfew : tidings.deletions < 2 ^ 64) :
    a.generation = generation ↔ tidings.deletions = 0 := by
  rw [h.generation, UInt64.add_eq_left]
  constructor
  · intro hzero
    have hmod := congrArg UInt64.toNat hzero
    rw [UInt64.toNat_ofNat', Nat.mod_eq_of_lt hfew] at hmod
    exact hmod
  · intro hzero
    rw [hzero]
    rfl

/-! ### How the receive ends -/

/-- How a receive that looks again ends for the time being, without an answer if it parks once more. The
messages are those that its queue holds at that moment. -/
structure Verdict (tidings : Tidings) (messages : List Message)
    (answer : Option (Except Error Value)) : Prop where
  deleted : answer = some (.error .queueDeleted) ↔ 0 < tidings.deletions
  served : ∀ message, answer = some (.ok (.message message)) ↔
    tidings.deletions = 0 ∧ tidings.posted = true ∧ messages.head? = some message
  /-- Where a message has been posted there is one to take. -/
  supplied : tidings.deletions = 0 → tidings.posted = true → messages ≠ []
  interrupted : answer = some (.error .interrupted) ↔
    tidings.deletions = 0 ∧ tidings.posted = false ∧ tidings.interrupted = true
  waits : answer = none ↔
    tidings.deletions = 0 ∧ tidings.posted = false ∧ tidings.interrupted = false
  errors : ∀ error, answer = some (.error error) → error = .queueDeleted ∨ error = .interrupted

section Verdict

variable {messages : List Message}

theorem verdict_deleted (h : 0 < tidings.deletions) :
    tidings.Verdict messages (some (.error .queueDeleted)) := by
  have hne := Nat.ne_of_gt h
  constructor <;> simp [h, hne]

theorem verdict_served {message : Message} {rest : List Message} (hkept : tidings.deletions = 0)
    (hposted : tidings.posted = true) :
    tidings.Verdict (message :: rest) (some (.ok (.message message))) := by
  constructor <;> simp [hkept, hposted]

theorem verdict_interrupted (hkept : tidings.deletions = 0) (hposted : tidings.posted = false)
    (hinterrupted : tidings.interrupted = true) :
    tidings.Verdict messages (some (.error .interrupted)) := by
  constructor <;> simp [hkept, hposted, hinterrupted]

theorem verdict_waits (hkept : tidings.deletions = 0) (hposted : tidings.posted = false)
    (hinterrupted : tidings.interrupted = false) : tidings.Verdict messages none := by
  constructor <;> simp [hkept, hposted, hinterrupted]

end Verdict

/-! ### What the entry of the queue tells -/

/-- What the entry of a queue tells of what has happened since a receive of this generation parked. The
flags tell of interrupts until the queue is posted to or deleted. -/
structure Tells (tidings : Tidings) (id : QueueId) (generation : UInt64) (kernel : Kernel) : Prop where
  slot : tidings.Fits generation (kernel.queues.slot id)
  flags : tidings.deletions = 0 → tidings.posted = false → ∃ queue,
    kernel.queues.queues[id.index]? = some queue ∧ queue.waiting = true ∧
      queue.interrupted = tidings.interrupted

variable {kernel : Kernel} {s t : Section} {queue : Queue}

/-- The queue holds no messages exactly if none has been posted. -/
theorem Tells.count_eq_zero_iff (h : tidings.Tells id generation kernel) (hwf : kernel.WellFormed)
    (hkept : tidings.deletions = 0) (hentry : kernel.queues.queues[id.index]? = some queue) :
    queue.count = 0 ↔ tidings.posted = false := by
  obtain ⟨free, members, hholds⟩ := hwf.queues
  have hmessages := h.slot.messages hkept
  rw [← hholds.length_slot hentry, List.length_eq_zero_iff, ← List.isEmpty_iff, hmessages,
    Bool.not_eq_true']

theorem Tells.generation_eq_iff (h : tidings.Tells id generation kernel)
    (hfew : tidings.deletions < 2 ^ 64) (hentry : kernel.queues.queues[id.index]? = some queue) :
    queue.generation = generation ↔ tidings.deletions = 0 := by
  rw [← h.slot.generation_eq_iff hfew, QueueTable.slot_eq hentry]

/-- Nothing has happened to the queue of a receive that has just parked. -/
theorem tells_of_parked {timeout : Timeout} {wait : Wait} (hwf : s.kernel.WellFormed)
    (h : Performed s (.receive id timeout) (.ok (.parked wait)) t) :
    wait = .message id (s.kernel.queues.slot id).generation ∧
      Tells {} id (s.kernel.queues.slot id).generation t.kernel := by
  have hslot : t.kernel.queues.slot id = s.kernel.queues.slot id := h.sees_of_parked hwf
  cases Kernel.Proceeds.parked h with
  | @waits queue hget hcount _ hclear =>
    obtain ⟨-, hentry, -⟩ := QueueTable.get_eq_ok.1 hget
    obtain ⟨free, members, hholds⟩ := hwf.queues
    have hlength := hholds.length_slot hentry
    rw [hcount, List.length_eq_zero_iff] at hlength
    refine ⟨by rw [QueueTable.slot_eq hentry], ⟨?_, fun _ => ?_⟩, fun _ _ => ?_⟩
    · rw [hslot]
      exact (UInt64.add_zero _).symm
    · rw [hslot, hlength]
      rfl
    · exact ⟨_, Kernel.getElem?_putQueue hentry { queue with waiting := true } s.kernel.queues.pool, rfl,
        hclear⟩

/-- A receive that looks again and parks once more has not been given a reason to return. -/
theorem Tells.parks (h : tidings.Tells id generation s.kernel) (hwf : s.kernel.WellFormed)
    (hpatient : s.kernel.Patient) (hfew : tidings.deletions < 2 ^ 64) {wait : Wait}
    (hlook : Resumed s (.message id generation) (.ok (.parked wait)) t) :
    tidings.Verdict (s.kernel.queues.slot id).messages none := by
  cases Kernel.Proceeds.parked hlook with
  | waits hentry hsame hwaiting hclear =>
    have hkept := (h.generation_eq_iff hfew hentry).1 hsame
    have hposted := (h.count_eq_zero_iff hwf hkept hentry).1 (hpatient.queue _ _ hentry hwaiting).2
    obtain ⟨_, hfound, -, hinterrupted⟩ := h.flags hkept hposted
    cases hentry.symm.trans hfound
    exact verdict_waits hkept hposted (hinterrupted.symm.trans hclear)

/-- One that returns has been given one, and says which. -/
theorem Tells.returns (h : tidings.Tells id generation s.kernel) (hwf : s.kernel.WellFormed)
    (hpatient : s.kernel.Patient) (hfew : tidings.deletions < 2 ^ 64) {result : Except Error Value}
    (hlook : Resumed s (.message id generation) (result.map .returned) t) :
    tidings.Verdict (s.kernel.queues.slot id).messages (some result) := by
  have hsees : Handles (s.kernel.queues.slot id) (t.kernel.queues.slot id) _ := hlook.sees hwf
  obtain ⟨r, hresumed, rfl⟩ := Kernel.Proceeds.result hlook
  -- the receiver is not waiting any more only if a message has been posted
  have hserved {queue : Queue} (hentry : s.kernel.queues.queues[id.index]? = some queue)
      (hkept : tidings.deletions = 0) (hwaiting : queue.waiting = false) : tidings.posted = true := by
    by_contra hnot
    obtain ⟨_, hfound, hset, -⟩ := h.flags hkept (Bool.not_eq_true _ ▸ hnot)
    cases hentry.symm.trans hfound
    rw [hwaiting] at hset
    cases hset
  cases r with
  | ok message =>
    change Handles _ _ (if id = id then some (.taken message) else none) at hsees
    rw [if_pos rfl] at hsees
    obtain ⟨rest, hmessages, -⟩ := hsees
    rw [hmessages]
    cases hresumed with
    | served hentry hsame hwaiting =>
      have hkept := (h.generation_eq_iff hfew hentry).1 hsame
      exact verdict_served hkept (hserved hentry hkept hwaiting)
  | error error =>
    cases hresumed with
    | lost hentry hlost =>
      exact verdict_deleted (Nat.pos_of_ne_zero fun hkept =>
        hlost ((h.generation_eq_iff hfew hentry).2 hkept))
    | unserved hentry hsame hwaiting htaken =>
      have hkept := (h.generation_eq_iff hfew hentry).1 hsame
      have hposted := hserved hentry hkept hwaiting
      cases htaken with
      | empty hfound hcount =>
        cases hfound.symm.trans (Kernel.getElem?_putQueue hentry _ s.kernel.queues.pool)
        rw [(h.count_eq_zero_iff hwf hkept hentry).1 hcount] at hposted
        cases hposted
    | interrupted hentry hsame hwaiting hset =>
      have hkept := (h.generation_eq_iff hfew hentry).1 hsame
      have hposted := (h.count_eq_zero_iff hwf hkept hentry).1 (hpatient.queue _ _ hentry hwaiting).2
      obtain ⟨_, hfound, -, hinterrupted⟩ := h.flags hkept hposted
      cases hentry.symm.trans hfound
      exact verdict_interrupted hkept hposted (hinterrupted.symm.trans hset)

end Tidings

/-! ## Receives -/

namespace Operation

/-- The queue from which an operation receives. -/
def receives : Operation → Option QueueId
  | .receive id _ => some id
  | _ => none

variable {operation : Operation} {id : QueueId} {kernel : Kernel}

theorem receives_of_awaits {generation : UInt64}
    (h : operation.awaits kernel = some (.queue id, generation)) : operation.receives = some id := by
  cases operation with
  | receive queue timeout =>
    simp only [awaits] at h
    split at h
    · split at h
      · cases h; rfl
      · cases h
    · cases h
  | sleep task ticks =>
    simp only [awaits] at h
    split at h
    · cases h
    · cases h
  | waitEvents task mask condition timeout =>
    cases timeout with
    | indefinite =>
      simp only [awaits] at h
      split at h
      · split at h
        · cases h
        · cases h
      · cases h
    | _ => cases h
  | _ => cases h

theorem receives_of_parked {s t : Section} {wait : Wait} (h : Performed s operation (.ok (.parked wait)) t)
    (hgate : wait.gate = .queue id) : operation.receives = some id := by
  cases wait with
  | sleep | events => cases hgate
  | message queue generation =>
    cases hgate
    exact receives_of_awaits h.awaits_eq

theorem receives_of_taken {result : Except Error Value} {message : Message}
    (h : operation.traffic id kernel result = some (.taken message)) : operation.receives = some id := by
  unfold traffic at h
  split at h
  case h_3 =>
    split at h
    · rename_i heq
      rw [heq]
      rfl
    · cases h
  case h_6 => cases h
  all_goals
    split at h
    · cases h
    · cases h

end Operation

/-- An action of a timer takes no message. -/
theorem TimerAction.traffic_ne_taken {action : TimerAction} {id : QueueId} {kernel : Kernel}
    {signals : List Signal} {message : Message} :
    action.traffic id kernel signals ≠ some (.taken message) := by
  intro h
  unfold TimerAction.traffic at h
  split at h
  · cases h
  · split at h
    · split at h
      · unfold TimerTarget.traffic at h
        split at h
        · cases h
        · split at h <;> cases h
      · cases h
    · cases h

namespace System

variable {system system' : System} {signals : List Signal} {move : Move} {answer : Answer} {id : QueueId}
  {generation : UInt64} {tidings : Tidings} {number : Nat}

/-- The queue from which a move begins to receive. -/
def Move.receives : Move → Option QueueId
  | .call operation => operation.receives
  | _ => none

/-- A message is taken by a receive that is made, or by one that has been blocked. -/
theorem receives_of_taken {message : Message}
    (h : system.traffic id move answer signals = some (.taken message)) : move.receives = some id ∨
      ∃ call result, answer = .looked (some (call, some result)) ∧ call.wait.gate = .queue id := by
  unfold traffic at h
  split at h
  · exact Or.inl (Operation.receives_of_taken h)
  · rename_i call result
    obtain ⟨generation, _, hwait, -⟩ := Wait.traffic_eq_some h
    exact Or.inr ⟨call, result, rfl, congrArg Wait.gate hwait⟩
  · obtain ⟨action, -, htaken⟩ := Option.bind_eq_some_iff.1 h
    exact absurd htaken TimerAction.traffic_ne_taken
  · cases h

/-- A move begins no receive on a queue and ends none. -/
structure Apart (id : QueueId) (move : Move) (answer : Answer) : Prop where
  receives : move.receives ≠ some id
  looked : ∀ call result, answer = .looked (some (call, some result)) → call.wait.gate ≠ .queue id

theorem Apart.not_taken (h : Apart id move answer) (message : Message) :
    system.traffic id move answer signals ≠ some (.taken message) := by
  intro htaken
  rcases receives_of_taken htaken with hreceives | ⟨call, result, hanswer, hgate⟩
  · exact h.receives hreceives
  · exact h.looked call result hanswer hgate

/-- No wait begins or ends then at any queue that has been in the entry. -/
theorem Apart.stays (h : Apart id move answer) : Stays system move answer (.message id generation) where
  awaits hawaits := by
    cases move with
    | call operation => exact h.receives (Operation.receives_of_awaits hawaits)
    | resume | advance | act | proceed => cases hawaits
  frees _ hgate := by cases hgate
  looked call result hanswer hsubject :=
    h.looked call result hanswer (call.wait.subject_fst.symm.trans (congrArg Prod.fst hsubject))

/-- Such a move keeps the tidings right. -/
theorem tells_moved (h : tidings.Tells id generation system.kernel) (hapart : Apart id move answer)
    (hpatient : system.kernel.Patient) (hwf : system.WellFormed) (hwf' : system'.WellFormed)
    (hmoved : Moved system move answer signals system') :
    (tidings.note id system move answer signals system').Tells id generation system'.kernel := by
  have hslot : (tidings.add (system.traffic id move answer signals)).Fits generation
      (system'.kernel.queues.slot id) := h.slot.add (hmoved.handles hwf) hapart.not_taken
  have hnoted : (tidings.note id system move answer signals system').Fits generation
      (system'.kernel.queues.slot id) := ⟨hslot.generation, hslot.messages⟩
  refine ⟨hnoted, fun hkept hposted => ?_⟩
  have hkept' : tidings.deletions = 0 := Nat.le_zero.1 (hkept ▸ Tidings.deletions_le_add ..)
  obtain ⟨old, hold, hwaiting, hinterrupted⟩ := h.flags hkept' (Tidings.posted_of_add hposted)
  obtain ⟨hbusy, hcount⟩ := hpatient.queue _ old hold hwaiting
  obtain ⟨new, hnew, hstep⟩ := hmoved.queueStep hwf hwf' hold
  rcases (hapart.stays.affected_queue hstep).flags hwaiting hbusy hcount with ⟨hw, hlatch, -, -⟩ | ⟨-, hcome⟩
  · exact ⟨new, hnew, hw, by rw [hlatch, hinterrupted]; rfl⟩
  · -- the receiver goes on to wait, for nothing has come to the queue
    rcases hcome with hlost | hsome
    · have hgeneration := h.slot.generation
      rw [hkept', ← hkept, ← hnoted.generation, QueueTable.slot_eq hold, QueueTable.slot_eq hnew]
        at hgeneration
      exact absurd hgeneration.symm hlost
    · obtain ⟨free, members, hholds⟩ := hwf'.kernel.queues
      have hmessages := hnoted.messages hkept
      rw [hposted, Bool.not_false, List.isEmpty_iff, ← List.length_eq_zero_iff, hholds.length_slot hnew]
        at hmessages
      exact absurd hmessages (Nat.ne_of_gt hsome)

/-- The receive with a number is blocked on a queue that it has to itself, unless it has returned, and
the entry of the queue tells what has happened since it parked. -/
structure Listens (number : Nat) (id : QueueId) (generation : UInt64) (tidings : Tidings)
    (system : System) : Prop where
  counted : number < system.callCount
  sole : ∀ call ∈ system.calls, call.wait.gate = .queue id → call.number = number
  same : ∀ call ∈ system.calls, call.number = number → call.wait = .message id generation
  tells : ∀ call ∈ system.calls, call.number = number → tidings.Tells id generation system.kernel

/-- As long as the receive is blocked, no other one begins or ends at its queue. -/
theorem Listens.apart (h : Listens number id generation tidings system) (hnumbered : system.Numbered)
    (hreceives : move.receives ≠ some id) (hmoved : Moved system move answer signals system') {call : Call}
    (hstill : call ∈ system'.calls) (hnumber : call.number = number) : Apart id move answer where
  receives := hreceives
  looked ended result hanswer hgate := by
    have hless := hmoved.calls_of_looked hanswer
    have hended : ended ∈ system.calls := hless.mem_iff.2 (List.mem_cons_self ..)
    exact hnumbered.number_ne hless hstill ((h.sole ended hended hgate).trans hnumber.symm)

theorem Listens.moved (h : Listens number id generation tidings system) (hnumbered : system.Numbered)
    (hpatient : system.kernel.Patient) (hwf : system.WellFormed) (hwf' : system'.WellFormed)
    (hreceives : move.receives ≠ some id) (hmoved : Moved system move answer signals system') :
    Listens number id generation (tidings.note id system move answer signals system') system' := by
  have hold {call : Call} (hcall : call ∈ system'.calls) (hnumber : call.number = number) :
      call ∈ system.calls := hmoved.mem_of_lt (hnumber ▸ h.counted) hcall
  refine ⟨Nat.lt_of_lt_of_le h.counted hmoved.callCount.1, fun call hcall hgate => ?_,
    fun call hcall hnumber => h.same call (hold hcall hnumber) hnumber, fun call hcall hnumber => ?_⟩
  · rcases hmoved.mem_calls hcall with hbefore | ⟨-, operation, _, rfl, hparked⟩
    · exact h.sole call hbefore hgate
    · exact absurd (Operation.receives_of_parked hparked hgate) hreceives
  · exact tells_moved (h.tells call (hold hcall hnumber) hnumber)
      (h.apart hnumbered hreceives hmoved hcall hnumber) hpatient hwf hwf' hmoved

/-- Nothing has happened yet when the receive parks. -/
theorem listens_of_parked {timeout : Timeout} {wait : Wait} {t : Section} (hnumbered : system.Numbered)
    (hwf : system.WellFormed) (hfree : ∀ call ∈ system.calls, call.wait.gate ≠ .queue id)
    (hcall : Performed { kernel := system.kernel } (.receive id timeout) (.ok (.parked wait)) t)
    (hcalls : system'.calls.Perm ({ number := system.callCount, wait } :: system.calls))
    (hkernel : system'.kernel = t.kernel) (hcount : system'.callCount = system.callCount + 1) :
    Listens system.callCount id (system.kernel.queues.slot id).generation {} system' := by
  obtain ⟨hwait, htells⟩ := Tidings.tells_of_parked hwf.kernel hcall
  refine ⟨?_, fun call hmem hgate => ?_, fun call hmem hnumber => ?_, fun _ _ _ => ?_⟩
  · rw [hcount]
    exact Nat.lt_succ_self _
  · rcases List.mem_cons.1 (hcalls.mem_iff.1 hmem) with rfl | hold
    · rfl
    · exact absurd hgate (hfree call hold)
  · rw [hnumbered.eq_new hcalls hmem hnumber]
    exact hwait
  · rw [hkernel]
    exact htells

/-- When the receive looks again, it ends as the tidings say. -/
theorem Listens.resume (h : Listens number id generation tidings system) (hwf : system.WellFormed)
    (hpatient : system.kernel.Patient) (hfew : tidings.deletions < 2 ^ 64) {i : Nat} {call : Call}
    (hready : system.ready[i]? = some call) (hnumber : call.number = number) :
    ∃ answer signals next, system.resume i = .ok (some (call, answer), signals, next) ∧
      tidings.Verdict (system.kernel.queues.slot id).messages answer := by
  have hcall : call ∈ system.calls := List.mem_append_right _ (List.mem_of_getElem? hready)
  have htells : tidings.Tells id generation ({ kernel := system.kernel } : Section).kernel :=
    h.tells call hcall hnumber
  have hwait := h.same call hcall hnumber
  rcases resume_cases hwf hready with ⟨hlook, hresume⟩ | ⟨result, t, hlook, hresume⟩
  · rw [hwait] at hlook
    exact ⟨_, _, _, hresume, htells.parks hwf.kernel hpatient hfew hlook⟩
  · rw [hwait] at hlook
    exact ⟨_, _, _, hresume, htells.returns hwf.kernel hpatient hfew hlook⟩

/-- A receive called in any run of a valid configuration, which parks on a queue that no other call is
blocked on, and after which no other receive begins there as long as it is blocked. Whenever it looks
again, it returns that its queue is gone exactly if that has been deleted since it parked, whatever has
been posted before or has been created since. Otherwise it returns the first message that the queue then
holds exactly if one has been posted, whatever interrupts there were, and otherwise that it was
interrupted, exactly if it was. If none of the three has happened it parks again, however many ticks have
passed, and no other result is possible. -/
theorem run_receives {config : Config} (h : config.fault? = none) (before after : List Move)
    (id : QueueId) (timeout : Timeout) (hsole : ∀ move ∈ after, move.receives ≠ some id) :
    ∃ idle outcome signals begun system, run { kernel := .ofConfig config } before = .ok idle ∧
      idle.call (.receive id timeout) = .ok (outcome, signals, begun) ∧ run begun after = .ok system ∧
      ∀ number, outcome = .blocked number → (∀ call ∈ idle.calls, call.wait.gate ≠ .queue id) →
        (recount (Tidings.note id) begun after {}).deletions < 2 ^ 64 →
        ∀ i call, system.ready[i]? = some call → call.number = number →
          ∃ answer signals next, system.resume i = .ok (some (call, answer), signals, next) ∧
            (recount (Tidings.note id) begun after {}).Verdict (system.kernel.queues.slot id).messages
              answer := by
  obtain ⟨idle, hbefore, hwf, -, hpatient, hnumbered⟩ :=
    @run_invariant (fun system => system.kernel.Patient ∧ system.Numbered) config h
      ⟨Kernel.ofConfig_patient config, ofConfig_numbered config⟩
      (fun _ _ hinv hmoved => ⟨hmoved.patient hinv.1, hinv.2.move hmoved⟩) before
  obtain ⟨answer, signals, begun, hobserve, hwfBegun, hmoved⟩ :=
    observe_spec hwf (.call (.receive id timeout))
  obtain ⟨outcome, hcall⟩ := exists_call_of_observe hobserve
  have hstart : ∀ number, outcome = .blocked number → (∀ call ∈ idle.calls, call.wait.gate ≠ .queue id) →
      Listens number id (idle.kernel.queues.slot id).generation {} begun := by
    rintro number rfl hfree
    cases hmoved with
    | returned => cases (call_of_observe hobserve).symm.trans hcall
    | blocked hperformed =>
      cases (call_of_observe hobserve).symm.trans hcall
      exact listens_of_parked hnumbered hwf hfree hperformed ((calls_park _).trans (calls_leave.cons _))
        kernel_leave rfl
  obtain ⟨system, hafter, hwf', hpatient', -, hlistens⟩ := @run_induct_noted Tidings (Tidings.note id)
    (fun system tidings => system.kernel.Patient ∧ system.Numbered ∧ ∀ number, outcome = .blocked number →
      (∀ call ∈ idle.calls, call.wait.gate ≠ .queue id) →
      Listens number id (idle.kernel.queues.slot id).generation tidings system)
    (fun _ _ move => move.receives ≠ some id)
    (fun hwf hallowed hobserve ⟨hpatient, hnumbered, hlistens⟩ hmoved =>
      ⟨hmoved.patient hpatient, hnumbered.move hmoved, fun number hblocked hfree =>
        (hlistens number hblocked hfree).moved hnumbered hpatient hwf (hwf.observe hobserve) hallowed
          hmoved⟩)
    after begun {} hwfBegun ((along_of_mem (fun move hmove _ => hsole move hmove) begun).noted _)
    ⟨hmoved.patient hpatient, hnumbered.move hmoved, hstart⟩
  refine ⟨idle, outcome, signals, begun, system, hbefore, hcall, hafter, ?_⟩
  intro number hblocked hfree hfew i call hready hnumber
  exact (hlistens number hblocked hfree).resume hwf' hpatient' hfew hready hnumber

/-- The receiver is interrupted, ticks pass, and two messages come before it looks. -/
def outrun : List Move :=
  [.call (.interruptReceiver ⟨1⟩), .advance 9, .call (.postMessage ⟨1⟩ 7 .fifo),
    .call (.postMessage ⟨1⟩ 8 .jam)]

/-- It returns the message that is then the first. -/
theorem outrun_receives : small.fault? = none ∧ (∀ move ∈ outrun, move.receives ≠ some ⟨1⟩) ∧
    ∃ idle signals begun system signals' next,
      run { kernel := .ofConfig small } [.call (.createQueue "queue" { depth := 2 })] = .ok idle ∧
      idle.call (.receive ⟨1⟩ (.ticks 3)) = .ok (.blocked 0, signals, begun) ∧
      run begun outrun = .ok system ∧
      recount (Tidings.note ⟨1⟩) begun outrun {} =
        { deletions := 0, posted := true, interrupted := true } ∧
      system.resume 0 = .ok (some ({ number := 0, wait := .message ⟨1⟩ 0 }, some (.ok (.message 8))),
        signals', next) := by
  have hvalid : small.fault? = none := by decide
  have hsole : ∀ move ∈ outrun, move.receives ≠ some ⟨1⟩ := by decide
  obtain ⟨idle, outcome, signals, begun, system, hidle, hcall, hafter, hreturns⟩ :=
    run_receives hvalid [.call (.createQueue "queue" { depth := 2 })] outrun ⟨1⟩ (.ticks 3) hsole
  have hparks : (run { kernel := .ofConfig small } [.call (.createQueue "queue" { depth := 2 })] >>=
      (call · (.receive ⟨1⟩ (.ticks 3)))).toOption.map (fun p =>
        (p.1, recount (Tidings.note ⟨1⟩) p.2.2 outrun {})) =
      some (.blocked 0, { deletions := 0, posted := true, interrupted := true }) := by decide +kernel
  obtain ⟨⟨_, _, _⟩, hcall', hfacts⟩ := exists_of_run hidle hparks
  cases hcall.symm.trans hcall'
  obtain ⟨rfl, htidings⟩ := Prod.mk.inj hfacts
  have hempty : (run { kernel := .ofConfig small } [.call (.createQueue "queue" { depth := 2 })] >>=
      Except.ok).toOption.map calls = some [] := by decide +kernel
  obtain ⟨_, hsame, hnone⟩ := exists_of_run hidle hempty
  cases hsame
  have hfree : ∀ call ∈ idle.calls, call.wait.gate ≠ .queue ⟨1⟩ := by
    rw [hnone]
    nofun
  have hend : (run { kernel := .ofConfig small } [.call (.createQueue "queue" { depth := 2 })] >>=
      fun idle => idle.call (.receive ⟨1⟩ (.ticks 3)) >>= fun p => run p.2.2 outrun).toOption.map
      (fun system => (system.ready[0]?, (system.kernel.queues.slot ⟨1⟩).messages)) =
      some (some { number := 0, wait := .message ⟨1⟩ 0 }, [8, 7]) := by decide +kernel
  obtain ⟨_, hafter', hlast⟩ := exists_of_run hidle hend
  rw [hcall] at hafter'
  cases hafter.symm.trans hafter'
  obtain ⟨hready, hmessages⟩ := Prod.mk.inj hlast
  dsimp only at htidings
  have hfew : (recount (Tidings.note ⟨1⟩) begun outrun {}).deletions < 2 ^ 64 := by
    rw [htidings]
    decide
  obtain ⟨answer, signals', next, hresume, hverdict⟩ := hreturns 0 rfl hfree hfew 0 _ hready rfl
  have hserved := (hverdict.served 8).2 (by rw [htidings, hmessages]; exact ⟨rfl, rfl, rfl⟩)
  subst hserved
  exact ⟨hvalid, hsole, idle, signals, begun, system, signals', next, hidle, hcall, hafter, htidings,
    hresume⟩

-- A queue that is deleted under the receiver is gone for it, though a message was posted before and
-- another queue has been created in its place.
example : (run { kernel := .ofConfig small }
    [.call (.createQueue "first" { depth := 2 }), .call (.receive ⟨1⟩ .indefinite),
      .call (.postMessage ⟨1⟩ 7 .fifo), .call (.deleteQueue ⟨1⟩),
      .call (.createQueue "second" { depth := 2 }), .call (.postMessage ⟨1⟩ 8 .fifo)] >>=
        (resume · 0)).toOption.map (·.1) =
    some (some ({ number := 0, wait := .message ⟨1⟩ 0 }, some (.error .queueDeleted))) := by rfl

end System

end Executive
