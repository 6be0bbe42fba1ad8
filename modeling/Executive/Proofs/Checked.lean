/-
Laws of guarded arithmetic and table access: a step that keeps its rule has a result, and a
computation goes on from the result of its first step.
-/
import Executive.Checked

namespace Executive.Checked

variable {α β : Type}

@[simp] theorem ok_bind (a : α) (f : α → Checked β) : (Except.ok a >>= f) = f a := rfl

theorem read_eq {xs : Array α} {i : Nat} (h : i < xs.size) : read xs i = .ok xs[i] := by
  unfold read
  rw [dif_pos h]

theorem write_eq {xs : Array α} {i : Nat} (x : α) (h : i < xs.size) :
    write xs i x = .ok (xs.setIfInBounds i x) := by
  unfold write
  rw [dif_pos h, Array.setIfInBounds, dif_pos h]

theorem update_eq {xs : Array α} {i : Nat} (f : α → α) (h : i < xs.size) :
    update xs i f = .ok (xs.modify i f) := by
  unfold update
  rw [if_pos h]

theorem read_of_getElem? {xs : Array α} {i : Nat} {x : α} (h : xs[i]? = some x) : read xs i = .ok x := by
  obtain ⟨hlt, rfl⟩ := Array.getElem?_eq_some_iff.1 h
  exact read_eq hlt

theorem read_eq_ok {xs : Array α} {i : Nat} {x : α} : read xs i = .ok x ↔ xs[i]? = some x := by
  constructor
  · intro h
    unfold read at h
    split at h
    · rename_i hlt
      cases h
      exact Array.getElem?_eq_getElem hlt
    · cases h
  · exact read_of_getElem?

theorem write_eq_ok {xs ys : Array α} {i : Nat} {x : α} :
    write xs i x = .ok ys ↔ i < xs.size ∧ ys = xs.setIfInBounds i x := by
  by_cases hlt : i < xs.size
  · rw [write_eq x hlt]
    constructor
    · intro h; exact ⟨hlt, (Except.ok.inj h).symm⟩
    · rintro ⟨-, rfl⟩; rfl
  · unfold write
    rw [dif_neg hlt]
    constructor
    · intro h; cases h
    · rintro ⟨hlt', -⟩; exact absurd hlt' hlt

/-- An entry that is put where it is changes nothing. -/
theorem setIfInBounds_self {xs : Array α} {i : Nat} {x : α} (h : xs[i]? = some x) :
    xs.setIfInBounds i x = xs := by
  obtain ⟨hlt, rfl⟩ := Array.getElem?_eq_some_iff.1 h
  rw [Array.setIfInBounds, dif_pos hlt, Array.set_getElem_self]

theorem modify_of_getElem? {xs : Array α} {i : Nat} {x : α} (h : xs[i]? = some x) (f : α → α) :
    xs.modify i f = xs.setIfInBounds i (f x) := by
  refine Array.ext_getElem? fun j => ?_
  rw [Array.getElem?_modify, Array.getElem?_setIfInBounds]
  split
  · rename_i hij
    subst hij
    rw [h, if_pos (Array.getElem?_eq_some_iff.1 h).1]; rfl
  · rfl

theorem update_of_getElem? {xs : Array α} {i : Nat} {x : α} (h : xs[i]? = some x) (f : α → α) :
    update xs i f = .ok (xs.setIfInBounds i (f x)) := by
  rw [update_eq f (Array.getElem?_eq_some_iff.1 h).1, modify_of_getElem? h]

theorem update_eq_ok {xs ys : Array α} {i : Nat} {f : α → α} :
    update xs i f = .ok ys ↔ ∃ x, xs[i]? = some x ∧ ys = xs.setIfInBounds i (f x) := by
  by_cases hlt : i < xs.size
  · have hx := Array.getElem?_eq_getElem hlt
    rw [update_of_getElem? hx, hx]
    constructor
    · intro h; exact ⟨_, rfl, (Except.ok.inj h).symm⟩
    · rintro ⟨x, h, rfl⟩; cases h; rfl
  · unfold update
    rw [if_neg hlt, Array.getElem?_eq_none (Nat.not_lt.1 hlt)]
    constructor
    · intro h; cases h
    · rintro ⟨_, h, -⟩; cases h

theorem sub_eq {a b : Nat} (h : b ≤ a) : sub a b = .ok (a - b) := by
  unfold sub
  rw [if_pos h]

theorem clamp_eq {lo hi : Nat} (n : Nat) (h : lo ≤ hi) : clamp n lo hi = .ok (max lo (min n hi)) := by
  unfold clamp
  rw [if_pos h]

end Executive.Checked
