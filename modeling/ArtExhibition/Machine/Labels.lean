import Mathlib.Data.List.Nodup
import Mathlib.Logic.Function.Basic
import Mathlib.Tactic.Common

/-!
# Labels that keep their alert

A form shows a label under each of its fields. A submission checks the fields one after the
other and stops behind the first field with a failed check (`validated`). Each check of a field
hands its alert, or none, to the label of the field, and a label that is handed none stays as it
is (`handed`).

`submit_matches_iff`: after a submission the label of every validated field is the one of its
checks (`LabelMatches`) exactly when no label was showing under a field whose checks all pass.
-/

namespace Machine

variable {F A : Type}

/-- A field with the outcomes of its checks: the alert of each, if any, and whether it passed. -/
structure Checked (F A : Type) where
  field : F
  checks : List (Option A × Bool)

def Checked.passes (c : Checked F A) : Bool := c.checks.all Prod.snd

/-- The fields that a submission gets to. -/
def validated : List (Checked F A) → List (Checked F A)
  | [] => []
  | c :: cs => if c.passes then c :: validated cs else [c]

/-- A label after the alerts of these checks. -/
def handed (label : Option A) (checks : List (Option A × Bool)) : Option A :=
  checks.foldl (fun label check => check.1 <|> label) label

/-- The labels after a submission that got to these fields. -/
def submit [DecidableEq F] (labels : F → Option A) (cs : List (Checked F A)) : F → Option A :=
  cs.foldl (fun labels c => Function.update labels c.field (handed (labels c.field) c.checks)) labels

/-- The label shows an alert exactly when a check failed, and the alert is that of one. -/
def LabelMatches (label : Option A) (checks : List (Option A × Bool)) : Prop :=
  (label.isSome ↔ ∃ check ∈ checks, check.2 = false) ∧
    ∀ alert ∈ label, ∃ check ∈ checks, check.2 = false ∧ check.1 = some alert

instance [DecidableEq A] (label : Option A) (checks : List (Option A × Bool)) :
    Decidable (LabelMatches label checks) :=
  inferInstanceAs (Decidable (_ ∧ _))

/-- Checks that pass have no alert, and of those that fail one has. -/
structure Reports (checks : List (Option A × Bool)) : Prop where
  silent : ∀ check ∈ checks, check.2 = true → check.1 = none
  alert : (∃ check ∈ checks, check.2 = false) → ∃ check ∈ checks, check.1.isSome

/-! ## One label -/

@[simp] theorem handed_nil (label : Option A) : handed label [] = label := rfl

@[simp] theorem handed_cons (label : Option A) (check : Option A × Bool) (checks : List (Option A × Bool)) :
    handed label (check :: checks) = handed (check.1 <|> label) checks := rfl

/-- A label stays when it is handed no alert. -/
theorem handed_of_silent {checks : List (Option A × Bool)} :
    ∀ {label : Option A}, (∀ check ∈ checks, check.1 = none) → handed label checks = label := by
  induction checks with
  | nil => intro label _; rfl
  | cons check checks ih =>
    intro label h
    obtain ⟨hnone, h⟩ := List.forall_mem_cons.1 h
    rw [handed_cons, hnone, ih h]
    rfl

/-- An alert that it is handed replaces what it shows. -/
theorem handed_of_alert {checks : List (Option A × Bool)} :
    ∀ {label : Option A}, (∃ check ∈ checks, check.1.isSome) →
      ∃ check ∈ checks, check.1.isSome ∧ handed label checks = check.1 := by
  induction checks with
  | nil => rintro label ⟨check, hcheck, -⟩; cases hcheck
  | cons check checks ih =>
    intro label h
    by_cases hrest : ∃ check ∈ checks, check.1.isSome
    · obtain ⟨c, hc, hsome, heq⟩ := @ih (check.1 <|> label) hrest
      exact ⟨c, List.mem_cons_of_mem _ hc, hsome, heq⟩
    · -- this alert is the last one
      have hsilent : ∀ c ∈ checks, c.1 = none := by
        intro c hc
        exact Option.not_isSome_iff_eq_none.1 fun hsome => hrest ⟨c, hc, hsome⟩
      obtain ⟨c, hc, hsome⟩ := h
      rcases List.mem_cons.1 hc with rfl | hc
      · obtain ⟨alert, halert⟩ := Option.isSome_iff_exists.1 hsome
        exact ⟨c, List.mem_cons_self, hsome, by rw [handed_cons, handed_of_silent hsilent, halert]; rfl⟩
      · exact absurd ⟨c, hc, hsome⟩ hrest

theorem reports_one {check : Option A × Bool} (h : check.2 = true ↔ check.1 = none) : Reports [check] where
  silent := List.forall_mem_singleton.2 h.1
  alert := by
    rintro ⟨c, hc, hfail⟩
    rw [List.mem_singleton.1 hc] at hfail
    refine ⟨check, List.mem_singleton_self check, ?_⟩
    rw [← Option.ne_none_iff_isSome, ne_eq, ← h, hfail]
    exact Bool.false_ne_true

/-- A second check that may leave the alert to the first, where that one fails. -/
theorem reports_two {first second : Option A × Bool} (hfirst : first.2 = true ↔ first.1 = none)
    (hsecond : first.2 = true → (second.2 = true ↔ second.1 = none))
    (hpass : second.2 = true → first.2 = true) : Reports [first, second] := by
  by_cases h : first.2 = true
  · have hreports := reports_one (hsecond h)
    refine ⟨List.forall_mem_cons.2 ⟨hfirst.1, hreports.silent⟩, ?_⟩
    rintro ⟨c, hc, hfail⟩
    rcases List.mem_cons.1 hc with rfl | hc
    · rw [h] at hfail
      cases hfail
    · obtain ⟨c, hc, halert⟩ := hreports.alert ⟨c, hc, hfail⟩
      exact ⟨c, List.mem_cons_of_mem _ hc, halert⟩
  · have halert : first.1.isSome := Option.ne_none_iff_isSome.1 (mt hfirst.2 h)
    have hsilent : second.2 = true → second.1 = none := fun hp => absurd (hpass hp) h
    refine ⟨List.forall_mem_cons.2 ⟨hfirst.1, List.forall_mem_singleton.2 hsilent⟩, fun _ => ?_⟩
    exact ⟨first, List.mem_cons_self, halert⟩

/-- **One label matches its checks** unless they all pass and it was showing something. -/
theorem labelMatches_handed_iff {label : Option A} {checks : List (Option A × Bool)} (h : Reports checks) :
    LabelMatches (handed label checks) checks ↔ (checks.all Prod.snd = true → label = none) := by
  by_cases hpass : checks.all Prod.snd = true
  · have hall : ∀ check ∈ checks, check.2 = true := List.all_eq_true.1 hpass
    have hnone : ¬ ∃ check ∈ checks, check.2 = false := by
      rintro ⟨check, hcheck, hfalse⟩
      rw [hall check hcheck] at hfalse
      cases hfalse
    rw [handed_of_silent fun check hcheck => h.silent check hcheck (hall check hcheck), LabelMatches]
    cases label with
    | none => simp [hnone]
    | some alert => simp [hnone, hpass]
  · have hfail : ∃ check ∈ checks, check.2 = false := by
      by_contra hno
      refine hpass (List.all_eq_true.2 fun check hcheck => ?_)
      by_contra hfalse
      exact hno ⟨check, hcheck, Bool.eq_false_iff.2 hfalse⟩
    obtain ⟨check, hcheck, hsome, heq⟩ := @handed_of_alert A checks label (h.alert hfail)
    -- a check with an alert has failed
    have hfalse : check.2 = false := by
      by_contra htrue
      rw [h.silent check hcheck (Bool.not_eq_false _ ▸ htrue)] at hsome
      cases hsome
    rw [heq, LabelMatches]
    refine iff_of_true ⟨iff_of_true hsome hfail, fun alert halert => ?_⟩ fun hp => absurd hp hpass
    exact ⟨check, hcheck, hfalse, halert⟩

/-! ## All fields -/

theorem validated_sublist : ∀ cs : List (Checked F A), (validated cs).Sublist cs
  | [] => List.Sublist.refl []
  | c :: cs => by
    rw [validated]
    split
    · exact (validated_sublist cs).cons_cons c
    · exact (List.nil_sublist cs).cons_cons c

section Submit

variable [DecidableEq F] {labels : F → Option A} {cs : List (Checked F A)} {c : Checked F A}

/-- A label of another field stays. -/
theorem submit_of_not_mem {field : F} (h : field ∉ cs.map Checked.field) :
    submit labels cs field = labels field := by
  induction cs generalizing labels with
  | nil => rfl
  | cons c cs ih =>
    rw [List.map_cons, List.mem_cons, not_or] at h
    rw [submit, List.foldl_cons, ← submit, ih h.2, Function.update_of_ne h.1]

theorem submit_of_mem (hnodup : (cs.map Checked.field).Nodup) (hc : c ∈ cs) :
    submit labels cs c.field = handed (labels c.field) c.checks := by
  induction cs generalizing labels with
  | nil => cases hc
  | cons d cs ih =>
    rw [List.map_cons, List.nodup_cons] at hnodup
    rw [submit, List.foldl_cons, ← submit]
    rcases List.mem_cons.1 hc with rfl | hc
    · rw [submit_of_not_mem hnodup.1, Function.update_self]
    · have hne : c.field ≠ d.field := by
        intro heq
        exact hnodup.1 (heq ▸ List.mem_map_of_mem hc)
      rw [ih hnodup.2 hc, Function.update_of_ne hne]

/-- **After a submission** the labels of its fields match the checks exactly when none was showing
under a field whose checks all pass. -/
theorem submit_matches_iff (hnodup : (cs.map Checked.field).Nodup) (hreports : ∀ c ∈ cs, Reports c.checks) :
    (∀ c ∈ cs, LabelMatches (submit labels cs c.field) c.checks) ↔
      ∀ c ∈ cs, c.passes = true → labels c.field = none := by
  refine forall₂_congr fun c hc => ?_
  rw [submit_of_mem hnodup hc, labelMatches_handed_iff (hreports c hc)]
  rfl

end Submit

end Machine
