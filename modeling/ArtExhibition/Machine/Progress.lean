import Mathlib.Algebra.BigOperators.Group.List.Basic
import Mathlib.Algebra.GroupWithZero.Nat
import ArtExhibition.Machine.Run

/-!
# Work that runs out

A measure that every event of a kind lowers: a run of such events is no longer than the measure of
the state it starts in (`run_length_le`), and some run of them ends in a state where none can happen
(`exists_exhausted_run`).

For systems with numbered records, `sum_map_set` is the measure of the list after one record has been
replaced.
-/

namespace Machine

variable {S E : Type*} {step : S → E → Option S} {kind : E → Prop} {measure : S → ℕ}

/-- None of these events can happen. -/
def Exhausted (step : S → E → Option S) (kind : E → Prop) (s : S) : Prop :=
  ∀ e, kind e → step s e = none

/-- **A run is no longer than the work there is**, and what it does not do is left. -/
theorem run_length_le (hless : ∀ s e s', kind e → step s e = some s' → measure s' < measure s)
    {es : List E} (hes : ∀ e ∈ es, kind e) {s t : S} (hr : run step s es = some t) :
    es.length + measure t ≤ measure s := by
  induction es generalizing s with
  | nil =>
    obtain rfl := Option.some.inj hr
    simp
  | cons e es ih =>
    obtain ⟨s', hs, hr⟩ := run_cons.1 hr
    have hfirst := hless s e s' (hes e List.mem_cons_self) hs
    have hrest := ih (fun e he => hes e (List.mem_cons_of_mem _ he)) hr
    rw [List.length_cons]
    omega

/-- **The work can be done**: by induction on how much there is. -/
theorem exists_exhausted_run (hless : ∀ s e s', kind e → step s e = some s' → measure s' < measure s)
    (s : S) : ∃ es t, (∀ e ∈ es, kind e) ∧ run step s es = some t ∧ Exhausted step kind t := by
  induction hn : measure s using Nat.strongRecOn generalizing s with
  | _ n ih =>
    by_cases hstuck : Exhausted step kind s
    · exact ⟨[], s, nofun, rfl, hstuck⟩
    · obtain ⟨e, hstuck⟩ := not_forall.1 hstuck
      obtain ⟨he, hstuck⟩ := Classical.not_imp.1 hstuck
      obtain ⟨s', hs⟩ := Option.ne_none_iff_exists'.1 hstuck
      obtain ⟨es, t, hes, hr, ht⟩ := ih _ (hn ▸ hless s e s' he hs) s' rfl
      exact ⟨e :: es, t, List.forall_mem_cons.2 ⟨he, hes⟩, run_cons.2 ⟨s', hs, hr⟩, ht⟩

theorem sum_map_set {α : Type*} {l : List α} {i : ℕ} {a b : α} (weight : α → ℕ) (h : l[i]? = some a) :
    ((l.set i b).map weight).sum + weight a = (l.map weight).sum + weight b := by
  induction l generalizing i with
  | nil => simp at h
  | cons x l ih =>
    cases i with
    | zero =>
      obtain rfl : x = a := by simpa using h
      simp only [List.set_cons_zero, List.map_cons, List.sum_cons]
      omega
    | succ i =>
      have hrest := ih (i := i) (by simpa using h)
      simp only [List.set_cons_succ, List.map_cons, List.sum_cons]
      omega

end Machine
