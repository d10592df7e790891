import Mathlib.Data.List.Basic
import Mathlib.Tactic.Common

/-!
# Sequences of calls on a shared store

A store is used through total calls `step : C → S → R × S`: each gives a result and the next
store. `trace` is what a sequence of calls gave, `after` the store it leaves.

* `trace_inv`: what each call keeps of a store and of the history so far holds after every
  sequence of calls.
* `trace_filter`: when a party's calls depend on its view of the store alone, and the calls
  of the others leave its view alone, its results are those without the others' calls.
-/

namespace Machine

variable {S C R V : Type*}

/-- The calls in order, each with its result. -/
def trace (step : C → S → R × S) : S → List C → List (C × R)
  | _, [] => []
  | s, c :: cs => (c, (step c s).1) :: trace step (step c s).2 cs

/-- The store after the calls. -/
def after (step : C → S → R × S) : S → List C → S
  | s, [] => s
  | s, c :: cs => after step (step c s).2 cs

variable {step : C → S → R × S}

/-- **An invariant of a store with its history.** -/
theorem trace_inv {I : List (C × R) → S → Prop}
    (hstep : ∀ h s c, I h s → I (h ++ [(c, (step c s).1)]) (step c s).2) :
    ∀ (cs : List C) {h : List (C × R)} {s : S}, I h s → I (h ++ trace step s cs) (after step s cs) := by
  intro cs
  induction cs with
  | nil => intro h s hI; simpa [trace, after] using hI
  | cons c cs ih =>
    intro h s hI
    have hnext := ih (hstep h s c hI)
    rwa [List.append_assoc, List.singleton_append] at hnext

/-- **Unwinding.** Calls of a party that depend on its view alone, among calls of others that
leave its view as it was, give what they give without them. -/
theorem trace_filter {mine : C → Bool} {view : S → V}
    (hresult : ∀ c s t, mine c → view s = view t → (step c s).1 = (step c t).1)
    (hview : ∀ c s t, mine c → view s = view t → view (step c s).2 = view (step c t).2)
    (hother : ∀ c s, mine c = false → view (step c s).2 = view s) :
    ∀ (cs : List C) {s t : S}, view s = view t →
      (trace step s cs).filter (fun p => mine p.1) = trace step t (cs.filter mine) := by
  intro cs
  induction cs with
  | nil => intro s t _; rfl
  | cons c cs ih =>
    intro s t hst
    by_cases hc : mine c
    · simp only [trace, List.filter_cons, hc, if_true]
      rw [hresult c s t hc hst, ih (hview c s t hc hst)]
    · have hskip : view (step c s).2 = view t := by rw [hother c s (by simpa using hc), hst]
      simp only [trace, List.filter_cons, hc, Bool.false_eq_true, if_false]
      exact ih hskip

end Machine
