import Mathlib.Data.List.Basic
import Mathlib.Data.List.Perm.Basic
import Mathlib.Tactic.Common

/-!
# Runs of a partial step function

A system is a step function `step : S → E → Option S`: `none` when the event cannot
happen in the state. A run is a list of events (`run`); `Along ok` says that a
condition on states and events holds at every step of a run.

* `run_inv`, `run_inv_along`: an inductive invariant holds wherever a run ends, with
  no condition on the steps or with one.
* `run_append`, `run_inv_forall`: runs one after the other, and invariants of runs whose events
  all meet a condition.
* `along_of_inv`: under an invariant, one condition along a run gives another.
* `along_of_run`: what every step of the invariant shows holds along a run.
* `along_iff_of_inv`: two conditions that agree at every step of the invariant hold
  along the same runs.
* `holds_iff_along`: a property that each step keeps exactly when the step meets a
  condition holds at the end of a run exactly when the condition holds along it.
* `states_iff_along_of`, `states_iff_along`: such a property of every state of a run, whose steps are
  fair or any.
-/

namespace Machine

variable {S E : Type*} {step : S → E → Option S}

/-- The state after the events `es`, if each of them could happen. -/
def run (step : S → E → Option S) : S → List E → Option S
  | s, [] => some s
  | s, e :: es => (step s e).bind fun s' => run step s' es

/-- `ok` holds at every step of the run of `es` from `s`. -/
def Along (step : S → E → Option S) (ok : S → E → Prop) : S → List E → Prop
  | _, [] => True
  | s, e :: es => ok s e ∧ ∀ s' ∈ step s e, Along step ok s' es

instance Along.decide (ok : S → E → Prop) [∀ s e, Decidable (ok s e)] :
    ∀ (s : S) (es : List E), Decidable (Along step ok s es)
  | _, [] => .isTrue trivial
  | s, e :: es =>
    have : ∀ s', Decidable (Along step ok s' es) := fun s' => Along.decide ok s' es
    inferInstanceAs (Decidable (ok s e ∧ ∀ s' ∈ step s e, Along step ok s' es))

@[simp] theorem run_nil (s : S) : run step s [] = some s := rfl

@[simp] theorem along_nil (ok : S → E → Prop) (s : S) : Along step ok s [] := trivial

theorem run_cons {s t : S} {e : E} {es : List E} :
    run step s (e :: es) = some t ↔ ∃ s', step s e = some s' ∧ run step s' es = some t := by
  simp only [run, Option.bind_eq_some_iff]

theorem along_cons {ok : S → E → Prop} {s s' : S} {e : E} {es : List E} (h : step s e = some s') :
    Along step ok s (e :: es) ↔ ok s e ∧ Along step ok s' es := by
  simp [Along, h]

/-- A condition along a run, with its last step apart. -/
theorem along_snoc {ok : S → E → Prop} {es : List E} {e : E} :
    ∀ {s t : S}, run step s es = some t →
      (Along step ok s (es ++ [e]) ↔ Along step ok s es ∧ ok t e) := by
  induction es with
  | nil =>
    intro s t hr
    simp only [run_nil, Option.some.injEq] at hr
    subst hr
    simp [Along]
  | cons e' es ih =>
    intro s t hr
    obtain ⟨s', hs, hr⟩ := run_cons.1 hr
    rw [List.cons_append, along_cons hs, along_cons hs, ih hr, and_assoc]

/-- **Invariants along a run**, for steps that meet a condition. -/
theorem run_inv_along {I : S → Prop} {ok : S → E → Prop}
    (hstep : ∀ s e s', I s → ok s e → step s e = some s' → I s') :
    ∀ (es : List E) {s t : S}, I s → run step s es = some t → Along step ok s es → I t := by
  intro es
  induction es with
  | nil => intro s t hs hr _; simp only [run_nil, Option.some.injEq] at hr; exact hr ▸ hs
  | cons e es ih =>
    intro s t hs hr ha
    obtain ⟨s', h, hr⟩ := run_cons.1 hr
    obtain ⟨hok, ha⟩ := (along_cons h).1 ha
    exact ih (hstep s e s' hs hok h) hr ha

theorem along_true (s : S) (es : List E) : Along step (fun _ _ => True) s es := by
  induction es generalizing s with
  | nil => trivial
  | cons e es ih => exact ⟨trivial, fun s' _ => ih s'⟩

/-- **Invariants of a run.** -/
theorem run_inv {I : S → Prop} (hstep : ∀ s e s', I s → step s e = some s' → I s') (es : List E)
    {s t : S} (hs : I s) (hr : run step s es = some t) : I t :=
  run_inv_along (fun s e s' h _ => hstep s e s' h) es hs hr (along_true s es)

/-- **One condition along a run from another**, under an invariant that needs the first. -/
theorem along_of_inv {I : S → Prop} {ok good : S → E → Prop}
    (hstep : ∀ s e s', I s → ok s e → step s e = some s' → I s')
    (hgood : ∀ s e, I s → ok s e → good s e) :
    ∀ (es : List E) {s : S}, I s → Along step ok s es → Along step good s es := by
  intro es
  induction es with
  | nil => intro s _ _; trivial
  | cons e es ih =>
    intro s hs ha
    exact ⟨hgood s e hs ha.1, fun s' h => ih (hstep s e s' hs ha.1 h) (ha.2 s' h)⟩

/-- **One run after another.** -/
theorem run_append {es es' : List E} :
    ∀ {s t : S}, run step s (es ++ es') = some t ↔
      ∃ m, run step s es = some m ∧ run step m es' = some t := by
  induction es with
  | nil => intro s t; simp
  | cons e es ih =>
    intro s t
    rw [List.cons_append, run_cons]
    constructor
    · rintro ⟨s', hs, hr⟩
      obtain ⟨m, hm, hr⟩ := ih.1 hr
      exact ⟨m, run_cons.2 ⟨s', hs, hm⟩, hr⟩
    · rintro ⟨m, hm, hr⟩
      obtain ⟨s', hs, hm⟩ := run_cons.1 hm
      exact ⟨s', hs, ih.2 ⟨m, hm, hr⟩⟩

/-- **Invariants of runs with events of one kind.** -/
theorem run_inv_forall {I : S → Prop} {ok : E → Prop}
    (hstep : ∀ s e s', I s → ok e → step s e = some s' → I s') {es : List E} (hes : ∀ e ∈ es, ok e)
    {s t : S} (hs : I s) (hr : run step s es = some t) : I t := by
  induction es generalizing s with
  | nil => simp only [run_nil, Option.some.injEq] at hr; exact hr ▸ hs
  | cons e es ih =>
    obtain ⟨s', h, hr⟩ := run_cons.1 hr
    have hs' := hstep s e s' hs (hes e List.mem_cons_self) h
    exact ih (fun e' he' => hes e' (List.mem_cons_of_mem e he')) hs' hr

/-- **What every step shows**, under an invariant, holds along a run. -/
theorem along_of_run {I : S → Prop} {good : S → E → Prop}
    (hstep : ∀ s e s', I s → step s e = some s' → I s' ∧ good s e) :
    ∀ (es : List E) {s t : S}, I s → run step s es = some t → Along step good s es := by
  intro es
  induction es with
  | nil => intro s t _ _; trivial
  | cons e es ih =>
    intro s t hs hr
    obtain ⟨s', h, hr⟩ := run_cons.1 hr
    obtain ⟨hs', hgood⟩ := hstep s e s' hs h
    exact (along_cons h).2 ⟨hgood, ih hs' hr⟩

/-- **A property that the good steps keep**: where it holds, a step is good exactly when it
meets a condition; so a run from there is good exactly when the condition holds along it. -/
theorem along_iff_of_kept {P : S → Prop} {ok good : S → E → Prop}
    (hkeep : ∀ s e s', P s → good s e → step s e = some s' → P s')
    (hiff : ∀ s e s', P s → step s e = some s' → (good s e ↔ ok s e)) :
    ∀ (es : List E) {s t : S}, P s → run step s es = some t →
      (Along step good s es ↔ Along step ok s es) := by
  intro es
  induction es with
  | nil => intro s t _ _; exact Iff.rfl
  | cons e es ih =>
    intro s t hs hr
    obtain ⟨s', h, hr⟩ := run_cons.1 hr
    rw [along_cons h, along_cons h, hiff s e s' hs h]
    exact and_congr_right fun hok => ih (hkeep s e s' hs ((hiff s e s' hs h).2 hok) h) hr

/-- **Conditions that agree at every step** hold along the same runs. -/
theorem along_iff_of_inv {I : S → Prop} {ok good : S → E → Prop}
    (hstep : ∀ s e s', I s → step s e = some s' → I s')
    (hiff : ∀ s e s', I s → step s e = some s' → (good s e ↔ ok s e)) (es : List E) {s t : S}
    (hs : I s) (hr : run step s es = some t) : Along step good s es ↔ Along step ok s es :=
  along_iff_of_kept (fun s e s' h _ => hstep s e s' h) hiff es hs hr

/-- **A property lost exactly at the steps that break a condition** holds at the end of a
run exactly when the condition holds along it. -/
theorem holds_iff_along {I P : S → Prop} {ok : S → E → Prop}
    (hstep : ∀ s e s', I s → step s e = some s' → I s')
    (hiff : ∀ s e s', I s → step s e = some s' → (P s' ↔ P s ∧ ok s e)) :
    ∀ (es : List E) {s t : S}, I s → run step s es = some t →
      (P t ↔ P s ∧ Along step ok s es) := by
  intro es
  induction es with
  | nil => intro s t _ hr; simp only [run_nil, Option.some.injEq] at hr; simp [hr]
  | cons e es ih =>
    intro s t hs hr
    obtain ⟨s', h, hr⟩ := run_cons.1 hr
    rw [ih (hstep s e s' hs h) hr, hiff s e s' hs h, along_cons h, and_assoc]

/-- **Steps that always happen**, under a condition on the events alone: it holds along a run from
the invariant exactly when each event meets it. -/
theorem along_iff_forall_mem {I : S → Prop} {good : S → E → Prop} {ok : E → Prop} {next : S → E → S}
    (htotal : ∀ s e, step s e = some (next s e)) (hstep : ∀ s e, I s → ok e → I (next s e))
    (hiff : ∀ s e, I s → (good s e ↔ ok e)) (es : List E) :
    ∀ {s : S}, I s → (Along step good s es ↔ ∀ e ∈ es, ok e) := by
  induction es with
  | nil => intro s _; simp
  | cons e es ih =>
    intro s hs
    rw [along_cons (htotal s e), hiff s e hs, List.forall_mem_cons]
    exact and_congr_right fun hok => ih (hstep s e hs hok)

theorem along_mono {ok ok' : S → E → Prop} (h : ∀ s e, ok s e → ok' s e) (es : List E) {s : S}
    (ha : Along step ok s es) : Along step ok' s es :=
  along_of_inv (I := fun _ => True) (fun _ _ _ _ _ _ => trivial) (fun s e _ => h s e) es trivial ha

/-- Two conditions hold along a run together. -/
theorem along_and {ok ok' : S → E → Prop} (es : List E) {s : S} (h : Along step ok s es)
    (h' : Along step ok' s es) : Along step (fun s e => ok s e ∧ ok' s e) s es := by
  induction es generalizing s with
  | nil => trivial
  | cons e es ih =>
    exact ⟨⟨h.1, h'.1⟩, fun s' hs => ih (h.2 s' hs) (h'.2 s' hs)⟩

/-- **A property of every state**, in a run whose steps are `fair`, where a fair step keeps the property
exactly when it meets a condition: all states of the run have it exactly when the condition holds along
the run, and then the state reached has it. -/
theorem states_iff_along_of {I P : S → Prop} {fair ok : S → E → Prop}
    (hinv : ∀ s e s', I s → step s e = some s' → I s')
    (hiff : ∀ s e s', I s → P s → fair s e → step s e = some s' → (P s' ↔ ok s e))
    (es : List E) {s t : S} (hs : I s) (hp : P s) (hr : run step s es = some t)
    (hfair : Along step fair s es) :
    (Along step (fun s e => ∀ s' ∈ step s e, P s') s es ↔ Along step ok s es) ∧
      (Along step ok s es → P t) := by
  constructor
  · have hboth : Along step (fun s e => fair s e ∧ ∀ s' ∈ step s e, P s') s es ↔
        Along step (fun s e => fair s e ∧ ok s e) s es := by
      refine along_iff_of_kept (P := fun s => I s ∧ P s) ?_ ?_ es ⟨hs, hp⟩ hr
      · intro s e s' h hgood hstep
        exact ⟨hinv s e s' h.1 hstep, hgood.2 s' hstep⟩
      · intro s e s' h hstep
        refine and_congr_right fun hfair => ?_
        rw [← hiff s e s' h.1 h.2 hfair hstep]
        simp [hstep]
    constructor
    · intro hgood
      exact along_mono (fun _ _ h => h.2) es (hboth.1 (along_and es hfair hgood))
    · intro hok
      exact along_mono (fun _ _ h => h.2) es (hboth.2 (along_and es hfair hok))
  · intro hok
    have hboth := run_inv_along (I := fun s => I s ∧ P s) ?_ es ⟨hs, hp⟩ hr (along_and es hfair hok)
    · exact hboth.2
    · intro s e s' h hok hstep
      exact ⟨hinv s e s' h.1 hstep, (hiff s e s' h.1 h.2 hok.1 hstep).2 hok.2⟩

/-- **A property of every state**, one that a step keeps exactly when it meets a condition: all
states of a run have it exactly when the condition holds along the run, and then the state reached
has it. -/
theorem states_iff_along {I P : S → Prop} {ok : S → E → Prop}
    (hinv : ∀ s e s', I s → step s e = some s' → I s')
    (hiff : ∀ s e s', I s → P s → step s e = some s' → (P s' ↔ ok s e))
    (es : List E) {s t : S} (hs : I s) (hp : P s) (hr : run step s es = some t) :
    (Along step (fun s e => ∀ s' ∈ step s e, P s') s es ↔ Along step ok s es) ∧
      (Along step ok s es → P t) :=
  states_iff_along_of hinv (fun s e s' h hp _ => hiff s e s' h hp) es hs hp hr (along_true s es)

end Machine
