import Mathlib.Data.List.Basic
import Mathlib.Tactic.Common

/-!
# A loop that returns at the first element it need not handle

`todo before a` says that `a` still has to be handled when the elements `before` it are.
A loop that returns, where it should go on, at the first element without work handles the
whole batch exactly when no work stands behind such an element (`Together`).
-/

namespace Machine

variable {α : Type} {todo : List α → α → Prop} {a : α} {rest : List α}

/-- No work behind an element without. -/
def Together (todo : List α → α → Prop) (batch : List α) : Prop :=
  ∀ before a after, batch = before ++ a :: after → ¬ todo before a → ∀ b ∈ after, ¬ todo before b

theorem together_nil : Together todo [] := by
  intro before a after h
  simp at h

/-- The loop goes on. -/
theorem together_cons_of_todo (h : todo [] a) :
    Together todo (a :: rest) ↔ Together (fun before => todo (a :: before)) rest := by
  constructor
  · intro ht before b after hr
    exact ht (a :: before) b after (by rw [hr]; rfl)
  · intro ht before b after hb
    cases before with
    | nil =>
      obtain ⟨rfl, -⟩ := List.cons_eq_cons.mp hb
      exact fun hn => absurd h hn
    | cons c before =>
      obtain ⟨rfl, hr⟩ := List.cons_eq_cons.mp hb
      exact ht before b after hr

/-- The loop returns; handling more leaves no more to do. -/
theorem together_cons_of_not (fewer : ∀ before b, todo before b → todo [] b) (h : ¬ todo [] a) :
    Together todo (a :: rest) ↔ ∀ b ∈ rest, ¬ todo [] b := by
  constructor
  · intro ht
    exact ht [] a rest rfl h
  · intro hr before b after hb _ c hc
    have hm : c ∈ rest := by
      cases before with
      | nil =>
        obtain ⟨-, rfl⟩ := List.cons_eq_cons.mp hb
        exact hc
      | cons d before =>
        obtain ⟨-, rfl⟩ := List.cons_eq_cons.mp hb
        exact List.mem_append_right _ (List.mem_cons_of_mem _ hc)
    exact fun hd => hr c hm (fewer before c hd)

end Machine
