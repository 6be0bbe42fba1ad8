/-
Event words and what a wait takes out of them. `Exact` is what a wait promises: its condition is met,
and the events it returns are those it takes out of the word. What more events and fewer events do to
a condition is shown bit by bit.
-/
import Executive.Event

namespace Executive

namespace EventBits

/-- Words are the same if their bits are. -/
theorem ext {a b : EventBits} (h : ∀ i, i < 32 → a.toBitVec.getLsbD i = b.toBitVec.getLsbD i) : a = b :=
  UInt32.toBitVec_inj.1 (BitVec.eq_of_getLsbD_eq h)

theorem and_or_self (a b : EventBits) : a &&& (a ||| b) = a := by
  refine ext fun i _ => ?_
  simp only [UInt32.toBitVec_and, UInt32.toBitVec_or, BitVec.getLsbD_and, BitVec.getLsbD_or]
  cases a.toBitVec.getLsbD i <;> rfl

theorem or_and_eq_zero {a b mask : EventBits} (h : (a ||| b) &&& mask = 0) :
    a &&& mask = 0 ∧ b &&& mask = 0 := by
  have hmono {c : EventBits} (hc : c &&& (a ||| b) = c) : c &&& mask = 0 := by
    rw [← hc, UInt32.and_assoc, h, UInt32.and_zero]
  exact ⟨hmono (and_or_self a b), hmono (by rw [UInt32.or_comm]; exact and_or_self b a)⟩

/-- Removing bits outside a mask changes nothing under the mask. -/
theorem and_not_and {bits mask : EventBits} (h : bits &&& mask = 0) (word : EventBits) :
    (word &&& ~~~bits) &&& mask = word &&& mask := by
  refine ext fun i hi => ?_
  have hbit := congrArg (fun word : EventBits => word.toBitVec.getLsbD i) h
  simp only [UInt32.toBitVec_and, UInt32.toBitVec_not, BitVec.getLsbD_and, BitVec.getLsbD_not,
    UInt32.toBitVec_zero, BitVec.getLsbD_zero] at hbit ⊢
  cases hb : bits.toBitVec.getLsbD i with
  | false => simp [hi]
  | true =>
    rw [hb, Bool.true_and] at hbit
    rw [hbit, Bool.and_false, Bool.and_false]

end EventBits

namespace Condition

variable {condition : Condition} {word word' mask taken bits : EventBits}

/-- A condition that is met stays met when events come in. -/
theorem isMet_mono (hsub : word &&& word' = word) (h : condition.isMet word mask = true) :
    condition.isMet word' mask = true := by
  cases condition with
  | all =>
    have hmask : word &&& mask = mask := beq_iff_eq.1 h
    refine beq_iff_eq.2 ?_
    rw [← hmask, ← UInt32.and_assoc, UInt32.and_comm word' word, hsub]
  | any =>
    have hsome : word &&& mask ≠ 0 := bne_iff_ne.1 h
    refine bne_iff_ne.2 fun hnone => hsome ?_
    rw [← hsub, UInt32.and_assoc, hnone, UInt32.and_zero]

/-- A condition does not depend on events outside its mask. -/
theorem isMet_clear (h : bits &&& mask = 0) :
    condition.isMet (word &&& ~~~bits) mask = condition.isMet word mask := by
  cases condition with
  | all => simp only [isMet, EventBits.and_not_and h]
  | any => simp only [isMet, EventBits.and_not_and h]

/-- What a wait that returns `taken` promises: its condition was met, the events it returns were
there, all that it asked for or those of them that were there and one at least, and just these have
left the word. -/
structure Exact (condition : Condition) (mask word taken word' : EventBits) : Prop where
  met : condition.isMet word mask = true
  subset : taken &&& word = taken
  all : condition = .all → taken = mask
  any : condition = .any → taken = word &&& mask ∧ taken ≠ 0
  rest : word' = word &&& ~~~taken

/-- What a wait that takes events does to the word, whether or not its condition is met. -/
structure Taken (condition : Condition) (mask word taken word' : EventBits) : Prop where
  events : taken = condition.consumed word mask
  rest : word' = word &&& ~~~taken

/-- A wait that takes events keeps its promise exactly if its condition is met. -/
theorem Taken.exact_iff (htaken : condition.Taken mask word taken word') :
    condition.Exact mask word taken word' ↔ condition.isMet word mask = true := by
  refine ⟨Exact.met, fun h => ?_⟩
  obtain ⟨rfl, hrest⟩ := htaken
  cases condition with
  | all =>
    have hmask : word &&& mask = mask := beq_iff_eq.1 h
    refine ⟨h, ?_, fun _ => rfl, nofun, hrest⟩
    show mask &&& word = mask
    rw [UInt32.and_comm]; exact hmask
  | any =>
    refine ⟨h, ?_, nofun, fun _ => ⟨rfl, bne_iff_ne.1 h⟩, hrest⟩
    show word &&& mask &&& word = word &&& mask
    rw [UInt32.and_comm word mask, UInt32.and_assoc, UInt32.and_self]

end Condition

end Executive
