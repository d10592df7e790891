import Mathlib.Data.List.FinRange
import Mathlib.Tactic.Common

/-!
# Results in the order in which they arrive

`n` tasks, each with a result or none; whoever collects them reads the tasks in the order in
which they complete, a permutation, and keeps the results that are there.

* `arrivals_perm`: every order brings the same results.
* `arrivals_const_iff`: they come as the same list in every order exactly when no two
  results differ.
-/

namespace Machine

variable {α : Type*} {n : ℕ} {f : Fin n → Option α}

/-- The results that are there, when task `order k` is the `k`-th to complete. -/
def arrivals (f : Fin n → Option α) (order : Equiv.Perm (Fin n)) : List α :=
  (List.ofFn (f ∘ order)).filterMap id

theorem mem_arrivals {order : Equiv.Perm (Fin n)} {a : α} :
    a ∈ arrivals f order ↔ ∃ i, f i = some a := by
  simp only [arrivals, List.mem_filterMap, List.mem_ofFn, Function.comp_apply, id_eq]
  constructor
  · rintro ⟨_, ⟨k, rfl⟩, h⟩; exact ⟨order k, h⟩
  · rintro ⟨i, h⟩; exact ⟨some a, ⟨order.symm i, by simpa using h⟩, rfl⟩

theorem arrivals_perm (f : Fin n → Option α) (σ τ : Equiv.Perm (Fin n)) :
    (arrivals f σ).Perm (arrivals f τ) :=
  ((Equiv.Perm.ofFn_comp_perm σ f).trans (Equiv.Perm.ofFn_comp_perm τ f).symm).filterMap id

/-- Each task that has a result is the first to complete in some order. -/
theorem exists_arrivals_head {i : Fin n} {a : α} (h : f i = some a) :
    ∃ order : Equiv.Perm (Fin n), (arrivals f order).head? = some a := by
  cases n with
  | zero => exact i.elim0
  | succ n =>
    refine ⟨Equiv.swap 0 i, ?_⟩
    rw [arrivals, List.ofFn_succ, List.filterMap_cons_some (b := a) (by simpa using h)]
    rfl

/-- **When the order of completion does not show**: no two results differ. -/
theorem arrivals_const_iff :
    (∀ σ τ : Equiv.Perm (Fin n), arrivals f σ = arrivals f τ) ↔
      ∀ i j a b, f i = some a → f j = some b → a = b := by
  constructor
  · intro h i j a b hi hj
    obtain ⟨σ, hσ⟩ := exists_arrivals_head hi
    obtain ⟨τ, hτ⟩ := exists_arrivals_head hj
    rw [h σ τ, hτ] at hσ
    exact (Option.some.inj hσ).symm
  · intro h σ τ
    -- all that arrives is one value, so a rearrangement changes nothing
    have hall : ∀ a ∈ arrivals f σ, ∀ b ∈ arrivals f σ, a = b := by
      intro a ha b hb
      obtain ⟨i, hi⟩ := mem_arrivals.1 ha
      obtain ⟨j, hj⟩ := mem_arrivals.1 hb
      exact h i j a b hi hj
    cases hl : arrivals f σ with
    | nil => exact (List.nil_perm.1 (hl ▸ arrivals_perm f σ τ)).symm
    | cons a l =>
      have hrep : a :: l = List.replicate (a :: l).length a :=
        List.eq_replicate_of_mem fun b hb =>
          hall b (hl ▸ hb) a (hl ▸ List.mem_cons_self)
      have hperm : (List.replicate (a :: l).length a).Perm (arrivals f τ) := by
        rw [← hrep, ← hl]; exact arrivals_perm f σ τ
      rw [List.perm_replicate.1 hperm.symm, ← hrep]

end Machine
