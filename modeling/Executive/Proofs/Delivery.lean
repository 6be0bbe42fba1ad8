/-
Every message is delivered exactly once (`run_delivers_once`). The deletions of an entry of the queue
table divide its history into incarnations, and for each of these there is a ledger: what has been
posted to it has been returned to a receive that began on it, or is still in the queue, or has been
dropped when it was deleted. A receive that began on an incarnation that is gone gets nothing.

A blocked receive knows its incarnation by the generation only, which is the number of deletions
modulo `2 ^ 64`. So the one rule of a run is that there are fewer deletions than that while a receive
is blocked.
-/
import Executive.Proofs.Kernel.Traffic

namespace Executive

open Executive.Kernel Executive.System

/-! ## Ledgers -/

/-- What has come to one incarnation of a queue, and what has become of it. -/
structure Ledger where
  /-- The messages posted to it. -/
  posted : List (Message × PostMode) := []
  /-- The messages returned to receives that began on it. -/
  taken : List Message := []
  /-- The messages it held when it was deleted. -/
  dropped : List Message := []
  deriving DecidableEq, Repr

namespace Ledger

/-- A message is posted. -/
def post (ledger : Ledger) (message : Message) (mode : PostMode) : Ledger :=
  { ledger with posted := ledger.posted ++ [(message, mode)] }

/-- A message is taken. -/
def take (ledger : Ledger) (message : Message) : Ledger :=
  { ledger with taken := ledger.taken ++ [message] }

/-- The queue is deleted with all it holds. -/
def close (ledger : Ledger) (held : List Message) : Ledger := { ledger with dropped := held }

variable {ledger : Ledger} {held rest : List Message} {message : Message}

/-- All that was posted is accounted for, and if each message went behind the others, in this order. -/
structure Balances (ledger : Ledger) (held : List Message) : Prop where
  perm : (ledger.posted.map (·.1)).Perm (ledger.taken ++ held ++ ledger.dropped)
  order : (∀ post ∈ ledger.posted, post.2 = .fifo) →
    ledger.posted.map (·.1) = ledger.taken ++ held ++ ledger.dropped

theorem balances_empty : Balances {} [] := ⟨.refl _, fun _ => rfl⟩

theorem Balances.posted (h : ledger.Balances held) (hopen : ledger.dropped = [])
    (message : Message) (mode : PostMode) :
    (ledger.post message mode).Balances (mode.add held message) := by
  obtain ⟨hperm, horder⟩ := h
  rw [hopen, List.append_nil] at hperm horder
  unfold post
  constructor
  · rw [hopen, List.append_nil, List.map_append]
    refine (hperm.append_right _).trans ?_
    rw [List.append_assoc]
    refine List.Perm.append_left _ (List.Perm.trans ?_ (mode.add_perm held message).symm)
    exact List.perm_append_singleton _ _
  · intro hfifo
    have hmode : mode = .fifo := hfifo (message, mode) (List.mem_append_right _ (List.mem_singleton_self _))
    subst hmode
    rw [hopen, List.append_nil, List.map_append, horder fun post hpost =>
      hfifo post (List.mem_append_left _ hpost), List.append_assoc]
    rfl

theorem Balances.taken (h : ledger.Balances (message :: rest)) :
    (ledger.take message).Balances rest := by
  have hmove : ledger.taken ++ message :: rest = ledger.taken ++ [message] ++ rest := by simp
  obtain ⟨hperm, horder⟩ := h
  rw [hmove] at hperm horder
  exact ⟨hperm, horder⟩

theorem Balances.closed (h : ledger.Balances held) (hopen : ledger.dropped = []) :
    (ledger.close held).Balances [] := by
  obtain ⟨hperm, horder⟩ := h
  rw [hopen, List.append_nil] at hperm horder
  unfold close
  constructor
  · rw [List.append_nil]; exact hperm
  · rw [List.append_nil]; exact horder

end Ledger

/-! ## Histories -/

/-- The history of an entry of the queue table. Its incarnations are numbered by the deletions before
them. -/
structure History where
  creations : Nat := 0
  deletions : Nat := 0
  ledger : Nat → Ledger := fun _ => {}
  /-- The incarnation at which each blocked call began. -/
  began : Nat → Nat := fun _ => 0

namespace History

variable {history : History} {slot a b : Slot}

/-- Makes an entry in the ledger of an incarnation. -/
def record (history : History) (incarnation : Nat) (change : Ledger → Ledger) : History :=
  { history with
    ledger := fun k => if k = incarnation then change (history.ledger k) else history.ledger k }

/-- The history with some more traffic. What is taken goes to the incarnation `origin`, on which the
call began; `held` is what a deletion drops. -/
def add (history : History) (origin : Nat) (held : List Message) : Traffic → History
  | .created => { history with creations := history.creations + 1 }
  | .posted message mode => history.record history.deletions (·.post message mode)
  | .taken message => history.record origin (·.take message)
  | .deleted =>
    { history.record history.deletions (·.close held) with deletions := history.deletions + 1 }

/-- What an incarnation still holds: only the latest may hold anything. -/
def held (history : History) (slot : Slot) (incarnation : Nat) : List Message :=
  if incarnation = history.deletions then slot.messages else []

/-- The history leads to what is in the entry. -/
structure Fits (history : History) (slot : Slot) : Prop where
  generation : slot.generation = UInt64.ofNat history.deletions
  creations : history.creations = history.deletions + if slot.busy = true then 1 else 0
  balances : ∀ k, (history.ledger k).Balances (history.held slot k)
  latest : (history.ledger history.deletions).dropped = []
  later : ∀ k, history.deletions < k → history.ledger k = {}

theorem Fits.balances_latest (h : history.Fits slot) :
    (history.ledger history.deletions).Balances slot.messages := by
  have hlatest := h.balances history.deletions
  unfold held at hlatest
  rwa [if_pos rfl] at hlatest

theorem Fits.balances_past (h : history.Fits slot) {k : Nat} (hk : k ≠ history.deletions) :
    (history.ledger k).Balances [] := by
  have hpast := h.balances k
  unfold held at hpast
  rwa [if_neg hk] at hpast

/-- An entry is made in the latest ledger as messages come and go. -/
theorem Fits.record (h : history.Fits a) (change : Ledger → Ledger)
    (hgeneration : b.generation = a.generation) (hbusy : b.busy = a.busy)
    (hbalances : (change (history.ledger history.deletions)).Balances b.messages)
    (hopen : (change (history.ledger history.deletions)).dropped = []) :
    (history.record history.deletions change).Fits b := by
  unfold History.record
  refine ⟨hgeneration.trans h.generation, ?_, fun k => ?_, ?_, fun k hk => ?_⟩
  · rw [hbusy]; exact h.creations
  · unfold held
    by_cases hk : k = history.deletions
    · subst hk
      simp only [reduceIte]
      exact hbalances
    · simp only [if_neg hk]
      exact h.balances_past hk
  · simp only [reduceIte]
    exact hopen
  · simp only [if_neg (Nat.ne_of_gt hk)]
    exact h.later k hk

/-- A deletion closes the latest ledger, and the next one is empty. -/
theorem Fits.deleted (h : history.Fits a) (hbusy : a.busy = true) (origin : Nat) :
    (history.add origin a.messages .deleted).Fits
      { busy := false, generation := a.generation + 1, messages := [] } := by
  have hcreations := h.creations
  rw [if_pos hbusy] at hcreations
  unfold add History.record
  refine ⟨?_, hcreations, fun k => ?_, ?_, fun k hk => ?_⟩
  · simp only [h.generation, UInt64.ofNat_add]; rfl
  · simp only [held, ite_self]
    by_cases hk : k = history.deletions
    · subst hk
      simp only [reduceIte]
      exact h.balances_latest.closed h.latest
    · simp only [if_neg hk]
      exact h.balances_past hk
  · simp only [Nat.succ_ne_self, reduceIte, h.later _ (Nat.lt_succ_self _)]
  · have hlt : history.deletions < k := Nat.lt_of_succ_lt hk
    simp only [if_neg (Nat.ne_of_gt hlt)]
    exact h.later k hlt

/-- Traffic keeps the history right, if what is taken goes to a call of the latest incarnation. -/
theorem Fits.add (h : history.Fits a) {traffic : Traffic} (hmakes : traffic.Makes a b) {origin : Nat}
    (horigin : ∀ message, traffic = .taken message → origin = history.deletions) :
    (history.add origin a.messages traffic).Fits b := by
  cases traffic with
  | created =>
    obtain ⟨hbusy, -, rfl⟩ := hmakes
    obtain ⟨hgeneration, hcreations, hbalances, hlatest, hlater⟩ := h
    refine ⟨hgeneration, ?_, hbalances, hlatest, hlater⟩
    rw [hbusy] at hcreations
    exact congrArg (· + 1) hcreations
  | posted message mode =>
    obtain ⟨-, rfl⟩ := hmakes
    refine h.record (·.post message mode) ?_ ?_ (h.balances_latest.posted h.latest _ _) h.latest
    · rfl
    · rfl
  | taken message =>
    obtain ⟨rest, hmessages, rfl⟩ := hmakes
    have hbalances := h.balances_latest
    rw [hmessages] at hbalances
    rw [horigin message rfl]
    refine h.record (·.take message) ?_ ?_ hbalances.taken h.latest
    · rfl
    · rfl
  | deleted =>
    obtain ⟨hbusy, rfl⟩ := hmakes
    exact h.deleted hbusy origin

/-- The history after a section with or without traffic. -/
def pass (history : History) (origin : Nat) (held : List Message) : Option Traffic → History
  | none => history
  | some traffic => history.add origin held traffic

theorem Fits.pass (h : history.Fits a) {traffic : Option Traffic} (hhandles : Handles a b traffic)
    {origin : Nat}
    (horigin : ∀ message, traffic = some (.taken message) → origin = history.deletions) :
    (history.pass origin a.messages traffic).Fits b := by
  cases traffic with
  | none => rw [show b = a from hhandles]; exact h
  | some traffic => exact h.add hhandles fun message heq => horigin message (congrArg some heq)

theorem began_pass (history : History) (origin : Nat) (held : List Message)
    (traffic : Option Traffic) : (history.pass origin held traffic).began = history.began := by
  cases traffic with
  | none => rfl
  | some traffic =>
    cases traffic with
    | created | posted | taken | deleted => rfl

theorem deletions_pass_le (history : History) (origin : Nat) (held : List Message)
    (traffic : Option Traffic) : history.deletions ≤ (history.pass origin held traffic).deletions := by
  cases traffic with
  | none => exact Nat.le_refl _
  | some traffic =>
    cases traffic with
    | created | posted | taken => exact Nat.le_refl _
    | deleted => exact Nat.le_succ _

end History

/-! ## What a move does to a queue -/

namespace System

variable {system system' : System} {signals : List Signal} {t : Section} {id : QueueId}

/-- What a move has done to the queue in an entry. -/
def traffic (id : QueueId) (system : System) : Move → Answer → List Signal → Option Traffic
  | .call operation, .outcome (.returned result), _ => operation.traffic id system.kernel result
  | .resume _, .looked (some (call, some result)), _ => call.wait.traffic id result
  | .act i, _, signals => system.deliveries[i]?.join.bind (·.traffic id system.kernel signals)
  | _, _, _ => none

theorem handles_leave {base : System} {traffic : Option Traffic}
    (h : Sees id { kernel := system.kernel } t traffic) :
    Handles (system.kernel.queues.slot id) ((base.leave t).kernel.queues.slot id) traffic := by
  rw [kernel_leave]
  exact h

theorem Moved.handles {move : Move} {answer : Answer}
    (h : Moved system move answer signals system') (hwf : system.WellFormed) :
    Handles (system.kernel.queues.slot id) (system'.kernel.queues.slot id)
      (system.traffic id move answer signals) := by
  cases h with
  | blocked hcall => exact handles_leave (hcall.sees_of_parked hwf.kernel)
  | returned hcall => exact handles_leave (hcall.sees hwf.kernel)
  | unready | waits | busy => exact rfl
  | ended _ hlook => exact handles_leave (hlook.sees hwf.kernel)
  | began hnext => exact handles_leave (sees_of_queues_eq (hnext.queues_eq.trans rfl))
  | passed hnext => exact handles_leave (sees_of_queues_eq (hnext.queues_eq.trans rfl))
  | wentOn _ hnext => exact handles_leave (sees_of_queues_eq hnext.queues_eq)
  | delivered _ hnext => exact handles_leave (sees_of_queues_eq hnext.queues_eq)
  | acted hdelivery hdone =>
    simp only [traffic, hdelivery]
    exact handles_leave (hdone.sees hwf.kernel rfl)
  | @inactive i hinactive =>
    have hnone : system.deliveries[i]?.join = none := by
      rcases hi : system.deliveries[i]? with _ | _ | action
      · rfl
      · rfl
      · exact absurd hi (hinactive action)
    simp only [traffic, hnone]
    exact rfl

end System

/-! ## The history of a run -/

namespace History

variable {history : History} {id : QueueId} {system system' : System} {answer : Answer}
  {signals : List Signal}

/-- The incarnation on which the call began that a move ends. -/
def origin (history : History) : Answer → Nat
  | .looked (some (call, _)) => history.began call.number
  | _ => history.deletions

/-- Where a call is blocked, the incarnation is noted. -/
def start (history : History) : Answer → History
  | .outcome (.blocked call) =>
    { history with began := fun number => if number = call then history.deletions else history.began number }
  | _ => history

/-- The history of an entry after a move. -/
def note (id : QueueId) (system : System) (move : Move) (answer : Answer) (signals : List Signal)
    (_ : System) (history : History) : History :=
  (history.pass (history.origin answer) (system.kernel.queues.slot id).messages
    (system.traffic id move answer signals)).start answer

/-- There have been fewer than `2 ^ 64` deletions since a call that is blocked on the queue began. -/
def Recent (id : QueueId) (system : System) (history : History) : Prop :=
  ∀ call ∈ system.calls, call.wait.gate = .queue id →
    history.deletions < history.began call.number + 2 ^ 64

/-- The rule of a run: the history is recent after each move. -/
def Timely (id : QueueId) (system : System) (history : History) (move : Move) : Prop :=
  match system.observe move with
  | .ok (answer, signals, next) => Recent id next (note id system move answer signals next history)
  | .error _ => True

instance (system : System) (history : History) : Decidable (Recent id system history) :=
  inferInstanceAs (Decidable (∀ call ∈ system.calls, _ → _))

instance (system : System) (history : History) (move : Move) :
    Decidable (Timely id system history move) := by
  unfold Timely
  exact match system.observe move with
    | .ok (answer, signals, next) => inferInstanceAs (Decidable (Recent id next _))
    | .error _ => .isTrue trivial

theorem Fits.start {slot : Slot} (h : history.Fits slot) (answer : Answer) :
    (history.start answer).Fits slot := by
  unfold History.start
  split
  · exact ⟨h.generation, h.creations, h.balances, h.latest, h.later⟩
  · exact h

theorem deletions_start (history : History) (answer : Answer) :
    (history.start answer).deletions = history.deletions := by
  unfold start
  split
  · rfl
  · rfl

theorem began_start_of_ne {number : Nat} (h : answer ≠ .outcome (.blocked number)) :
    (history.start answer).began number = history.began number := by
  unfold start
  split
  · rename_i call
    exact if_neg fun heq => h (by rw [heq])
  · rfl

/-- The history leads to the state of the entry, and it knows of each blocked receive on which
incarnation that began: it is the one whose generation the receive holds. -/
structure Knows (id : QueueId) (history : History) (system : System) : Prop where
  fits : history.Fits (system.kernel.queues.slot id)
  recent : Recent id system history
  numbered : ∀ call ∈ system.calls, call.wait.gate = .queue id → call.number < system.callCount
  began_le : ∀ call ∈ system.calls, call.wait.gate = .queue id →
    history.began call.number ≤ history.deletions
  generation : ∀ call ∈ system.calls, ∀ generation, call.wait = .message id generation →
    generation = UInt64.ofNat (history.began call.number)

/-- A blocked receive began on the latest incarnation exactly if it holds its generation. -/
theorem Knows.generation_eq_iff (h : history.Knows id system) {call : Call} (hcall : call ∈ system.calls)
    {generation : UInt64} (hwait : call.wait = .message id generation) :
    (system.kernel.queues.slot id).generation = generation ↔
      history.began call.number = history.deletions := by
  have hgate : call.wait.gate = .queue id := by rw [hwait]; rfl
  have hrecent := h.recent call hcall hgate
  have hle := h.began_le call hcall hgate
  rw [h.fits.generation, h.generation call hcall generation hwait]
  constructor
  · intro heq
    have hmod := congrArg UInt64.toNat heq
    rw [UInt64.toNat_ofNat', UInt64.toNat_ofNat'] at hmod
    omega
  · intro heq
    rw [heq]

/-- What is taken goes to a call of the latest incarnation. -/
theorem Knows.origin_eq {move : Move} (h : history.Knows id system)
    (hmoved : Moved system move answer signals system') {message : Message}
    (htaken : system.traffic id move answer signals = some (.taken message)) :
    history.origin answer = history.deletions := by
  cases hmoved with
  | ended hready hlook =>
    obtain ⟨generation, got, hwait, rfl, -⟩ := Wait.traffic_eq_some htaken
    rw [hwait] at hlook
    have hcall := List.mem_append_right system.parked (List.mem_of_getElem? hready)
    exact (h.generation_eq_iff hcall hwait).1 hlook.generation_of_returned
  | waits => cases htaken
  | _ => rfl

theorem Knows.move {move : Move} (h : history.Knows id system) (hwf : system.WellFormed)
    (hrule : Timely id system history move)
    (hobserve : system.observe move = .ok (answer, signals, system'))
    (hmoved : Moved system move answer signals system') :
    (note id system move answer signals system' history).Knows id system' := by
  unfold Timely at hrule
  rw [hobserve] at hrule
  have hpass := h.fits.pass (hmoved.handles hwf) fun message htaken => h.origin_eq hmoved htaken
  obtain ⟨hcount, hblocked⟩ := hmoved.callCount
  -- of the calls that were blocked before the history knows what it knew
  have hold {call : Call} (hcall : call ∈ system.calls) (hgate : call.wait.gate = .queue id) :
      (note id system move answer signals system' history).began call.number =
        history.began call.number := by
    unfold note
    rw [began_start_of_ne, began_pass]
    intro heq
    exact Nat.ne_of_lt (h.numbered call hcall hgate) (hblocked _ heq).1
  -- the call that has just been blocked has not changed the entry
  have hnew {operation : Operation} {number : Nat} (hmove : move = .call operation)
      (hanswer : answer = .outcome (.blocked number)) :
      (note id system move answer signals system' history).began number = history.deletions := by
    subst hmove hanswer
    exact if_pos rfl
  refine ⟨hpass.start answer, hrule, ?_, ?_, ?_⟩
  · intro call hcall hgate
    rcases hmoved.mem_calls hcall with hcall | ⟨hanswer, -⟩
    · exact Nat.lt_of_lt_of_le (h.numbered call hcall hgate) hcount
    · rw [(hblocked _ hanswer).2]; exact Nat.lt_succ_self _
  · intro call hcall hgate
    have hle : history.deletions ≤ (note id system move answer signals system' history).deletions := by
      unfold note
      rw [deletions_start]
      exact deletions_pass_le ..
    rcases hmoved.mem_calls hcall with hcall | ⟨hanswer, _, _, hmove, -⟩
    · rw [hold hcall hgate]
      exact Nat.le_trans (h.began_le call hcall hgate) hle
    · rw [hnew hmove hanswer]; exact hle
  · intro call hcall generation hwait
    rcases hmoved.mem_calls hcall with hcall | ⟨hanswer, _, _, hmove, hparked⟩
    · rw [hold hcall (by rw [hwait]; rfl)]
      exact h.generation call hcall generation hwait
    · rw [hwait] at hparked
      rw [hnew hmove hanswer, ← hparked.generation_of_parked]
      exact h.fits.generation

end History

/-! ## Every run -/

namespace System

variable {system : System} {id : QueueId} {history : History}

/-- A receive that began on an incarnation that is gone returns an error and changes nothing. -/
theorem resume_of_lost (hwf : system.WellFormed) (h : history.Knows id system) {i : Nat} {call : Call}
    {generation : UInt64} (hready : system.ready[i]? = some call)
    (hwait : call.wait = .message id generation)
    (hlost : history.began call.number < history.deletions) :
    system.resume i = .ok (some (call, some (.error .queueDeleted)), [.report (.queueLost id)],
      { system with ready := system.ready.eraseIdx i }) := by
  have hcall := List.mem_append_right system.parked (List.mem_of_getElem? hready)
  have hne : (system.kernel.queues.slot id).generation ≠ generation := fun heq =>
    Nat.ne_of_lt hlost ((h.generation_eq_iff hcall hwait).1 heq)
  rcases resume_cases hwf hready with ⟨hlook, -⟩ | ⟨result, t, hlook, hresume⟩
  · rw [hwait] at hlook
    cases (hlook.lost hne).1
  · rw [hwait] at hlook
    obtain ⟨hresult, rfl⟩ := hlook.lost hne
    cases result with
    | error => cases hresult; exact hresume
    | ok => cases hresult

/-- At first there is nothing in an entry. -/
theorem slot_ofConfig (config : Config) (id : QueueId) :
    (Kernel.ofConfig config).queues.slot id = {} := by
  cases hentry : (Kernel.ofConfig config).queues.queues[id.index]? with
  | none => exact QueueTable.slot_of_none hentry
  | some queue =>
    cases QueueTable.eq_of_ofSize hentry
    exact QueueTable.slot_of_empty hentry rfl

theorem knows_ofConfig (config : Config) (id : QueueId) :
    History.Knows id {} { kernel := .ofConfig config } where
  fits := by
    show History.Fits {} ((Kernel.ofConfig config).queues.slot id)
    rw [slot_ofConfig]
    refine ⟨rfl, rfl, fun k => ?_, rfl, fun _ _ => rfl⟩
    unfold History.held
    rw [ite_self]
    exact Ledger.balances_empty
  recent _ hcall := nomatch hcall
  numbered _ hcall := nomatch hcall
  began_le _ hcall := nomatch hcall
  generation _ hcall := nomatch hcall

/-- The history of an entry of the queue table at the end of a run. -/
def historyAfter (config : Config) (moves : List Move) (id : QueueId) : History :=
  recount (History.note id) { kernel := .ofConfig config } moves {}

/-- In every run, for each incarnation of the queue in an entry, the messages posted to it are those
returned to receives that began on it, those it still holds and those that its deletion dropped; and
if all went behind the others, they were taken in the order in which they were posted. A blocked
receive that began on an incarnation that is gone returns an error when it looks again, and leaves
the queue that is then in the entry alone. -/
theorem run_delivers_once {config : Config} (h : config.fault? = none) (moves : List Move)
    (id : QueueId) (hrule : AlongNoted (History.note id) (History.Timely id)
      { kernel := .ofConfig config } {} moves) :
    ∃ system history, run { kernel := .ofConfig config } moves = .ok system ∧
      historyAfter config moves id = history ∧
      (history.creations =
        history.deletions + if (system.kernel.queues.slot id).busy = true then 1 else 0) ∧
      (∀ k, (history.ledger k).Balances
        (if k = history.deletions then (system.kernel.queues.slot id).messages else [])) ∧
      ∀ (i : Nat) (call : Call) (generation : UInt64), system.ready[i]? = some call →
        call.wait = .message id generation → history.began call.number < history.deletions →
        system.resume i = .ok (some (call, some (.error .queueDeleted)), [.report (.queueLost id)],
          { system with ready := system.ready.eraseIdx i }) := by
  obtain ⟨system, hrun, hwf, hend⟩ := @run_induct_noted _ (History.note id)
    (fun system history => history.Knows id system) (History.Timely id)
    (fun hwf hallowed hobserve hknows hmoved => hknows.move hwf hallowed hobserve hmoved)
    moves _ {} (ofConfig_wellFormed h) hrule (knows_ofConfig config id)
  refine ⟨system, _, hrun, rfl, hend.fits.creations, hend.fits.balances, ?_⟩
  intro i call generation hready hwait hlost
  exact resume_of_lost hwf hend hready hwait hlost

/-- A queue is deleted under a blocked receive and another one is created in its place. -/
def succession : List Move :=
  [.call (.createQueue "first" { depth := 2 }), .call (.postMessage ⟨1⟩ 6 .fifo),
    .call (.receive ⟨1⟩ .noBlock), .call (.receive ⟨1⟩ .indefinite), .call (.postMessage ⟨1⟩ 7 .fifo),
    .call (.deleteQueue ⟨1⟩), .call (.createQueue "second" { depth := 2 }),
    .call (.postMessage ⟨1⟩ 8 .jam)]

/-- Of the messages of the first queue one was taken and one was dropped, and the receive that was
blocked on it does not get the message of the second. -/
theorem succession_delivers_once : small.fault? = none ∧
    AlongNoted (History.note ⟨1⟩) (History.Timely ⟨1⟩) { kernel := .ofConfig small } {} succession ∧
    ∃ system history, run { kernel := .ofConfig small } succession = .ok system ∧
      historyAfter small succession ⟨1⟩ = history ∧
      history.ledger 0 = { posted := [(6, .fifo), (7, .fifo)], taken := [6], dropped := [7] } ∧
      (history.ledger 0).Balances [] ∧
      history.ledger 1 = { posted := [(8, .jam)] } ∧ (history.ledger 1).Balances [8] ∧
      system.resume 0 =
        .ok (some ({ number := 0, wait := .message ⟨1⟩ 0 }, some (.error .queueDeleted)),
          [.report (.queueLost ⟨1⟩)], { system with ready := [] }) := by
  have hvalid : small.fault? = none := by decide
  have hrule : AlongNoted (History.note ⟨1⟩) (History.Timely ⟨1⟩) { kernel := .ofConfig small } {}
    succession := by decide +kernel
  obtain ⟨system, history, hrun, hhistory, -, hbalances, hlost⟩ :=
    run_delivers_once hvalid succession ⟨1⟩ hrule
  have hend : (run { kernel := .ofConfig small } succession).toOption.map (fun system =>
      (system.ready, (system.kernel.queues.slot ⟨1⟩).messages)) =
      some ([{ number := 0, wait := .message ⟨1⟩ 0 }], [8]) := by decide +kernel
  rw [hrun] at hend
  obtain ⟨hready, hmessages⟩ := Prod.mk.inj (Option.some.inj hend)
  have hpast : (historyAfter small succession ⟨1⟩).deletions = 1 ∧
      (historyAfter small succession ⟨1⟩).began 0 = 0 ∧
      (historyAfter small succession ⟨1⟩).ledger 0 =
        { posted := [(6, .fifo), (7, .fifo)], taken := [6], dropped := [7] } ∧
      (historyAfter small succession ⟨1⟩).ledger 1 = { posted := [(8, .jam)] } := by decide +kernel
  rw [hhistory] at hpast
  obtain ⟨hdeletions, hbegan, hfirst, hsecond⟩ := hpast
  rw [hdeletions, hmessages] at hbalances
  refine ⟨hvalid, hrule, system, history, hrun, hhistory, hfirst, hbalances 0, hsecond, hbalances 1, ?_⟩
  have hresume := hlost 0 { number := 0, wait := .message ⟨1⟩ 0 } 0 (by rw [hready]; rfl) rfl
    (by rw [hbegan, hdeletions]; decide)
  rw [hready] at hresume
  exact hresume

end System

end Executive
