import Mathlib.Data.List.Forall2

/-!
# Computations that may fail

What the result of a computation in `Except` says of its parts: of a sequence of two, and of
one computation for each element of a list.
-/

namespace Machine

variable {ε α β : Type}

theorem ok_bind (a : α) (f : α → Except ε β) : (Except.ok a >>= f) = f a := rfl

/-- A sequence that succeeds succeeds in both parts. -/
theorem bind_eq_ok {x : Except ε α} {f : α → Except ε β} {result : β} (h : x >>= f = .ok result) :
    ∃ a, x = .ok a ∧ f a = .ok result := by
  cases x with
  | error _ => cases h
  | ok a => exact ⟨a, rfl, h⟩

/-- A computation for each element succeeds when each does, with their results in order. -/
theorem mapM_ok_iff {f : α → Except ε β} {l : List α} {results : List β} :
    l.mapM f = .ok results ↔ List.Forall₂ (fun a b => f a = .ok b) l results := by
  induction l generalizing results with
  | nil =>
    rw [List.mapM_nil, List.forall₂_nil_left_iff]
    constructor
    · rintro ⟨⟩; rfl
    · rintro rfl; rfl
  | cons a l ih =>
    rw [List.mapM_cons]
    constructor
    · intro h
      obtain ⟨b, hb, hrest⟩ := bind_eq_ok h
      obtain ⟨bs, hbs, hresults⟩ := bind_eq_ok hrest
      rw [← Except.ok.inj hresults]
      exact .cons hb (ih.1 hbs)
    · intro h
      obtain ⟨b, bs, hb, hbs, rfl⟩ := List.forall₂_cons_left_iff.1 h
      rw [hb, ih.2 hbs]
      rfl

theorem mapM_ok {f : α → Except ε β} {g : α → β} {l : List α} (h : ∀ a ∈ l, f a = .ok (g a)) :
    l.mapM f = .ok (l.map g) := by
  rw [mapM_ok_iff, List.forall₂_map_right_iff, List.forall₂_same]
  exact h

end Machine
