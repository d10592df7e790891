import Mathlib.Algebra.Order.Field.Basic
import Mathlib.Data.List.Chain
import Mathlib.Tactic.Linarith

/-!
# A running total over a moving scale

After each sample the total of all gains is divided by the scale of that sample and capped at 1
(`ratiosFrom`). The gains may all be positive and the ratio may still go down, when the scale grows
faster than the total: `ratios_isChain_iff` says exactly when it does not (`Steady`).
-/

namespace Machine

variable {K : Type} [Field K] [LinearOrder K]

structure Sample (K : Type) where
  gain : K
  scale : K
  deriving DecidableEq, Repr

/-- The ratios after each sample, from a total so far. -/
def ratiosFrom (total : K) : List (Sample K) → List K
  | [] => []
  | s :: rest => min ((total + s.gain) / s.scale) 1 :: ratiosFrom (total + s.gain) rest

/-- From a total and the scale it is divided by, a sample that gains in proportion to the growth of
the scale, or that reaches the cap. -/
def KeepsUp (total scale : K) (s : Sample K) : Prop :=
  total * (s.scale - scale) ≤ s.gain * scale ∨ s.scale ≤ total + s.gain

/-- Every sample behind the first keeps up. -/
def Steady : K → List (Sample K) → Prop
  | total, s :: s' :: rest =>
    KeepsUp (total + s.gain) s.scale s' ∧ Steady (total + s.gain) (s' :: rest)
  | _, _ => True

instance (total scale : K) (s : Sample K) : Decidable (KeepsUp total scale s) :=
  inferInstanceAs (Decidable (_ ∨ _))

instance Steady.decide : ∀ (total : K) (samples : List (Sample K)), Decidable (Steady total samples)
  | _, [] | _, [_] => .isTrue trivial
  | total, s :: s' :: rest =>
    have := Steady.decide (total + s.gain) (s' :: rest)
    inferInstanceAs (Decidable (_ ∧ _))

variable {total : K} {samples : List (Sample K)} {s s' : Sample K}

@[simp] theorem ratiosFrom_nil : ratiosFrom total [] = [] := rfl

theorem ratiosFrom_cons : ratiosFrom total (s :: samples) =
    min ((total + s.gain) / s.scale) 1 :: ratiosFrom (total + s.gain) samples := rfl

variable [IsStrictOrderedRing K]

/-- **Ratios are ratios.** -/
theorem mem_ratiosFrom (htotal : 0 ≤ total) (hs : ∀ s ∈ samples, 0 ≤ s.gain ∧ 0 < s.scale) :
    ∀ r ∈ ratiosFrom total samples, 0 ≤ r ∧ r ≤ 1 := by
  induction samples generalizing total with
  | nil => simp
  | cons s samples ih =>
    obtain ⟨⟨hgain, hscale⟩, hs⟩ := List.forall_mem_cons.1 hs
    have hnext : 0 ≤ total + s.gain := add_nonneg htotal hgain
    rw [ratiosFrom_cons]
    refine List.forall_mem_cons.2 ⟨⟨?_, min_le_right _ _⟩, ih hnext hs⟩
    exact le_min (div_nonneg hnext hscale.le) zero_le_one

/-- **One step** of the ratio, up or down. -/
theorem keepsUp_iff {scale : K} (hscale : 0 < scale) (hs : 0 < s.scale) :
    min (total / scale) 1 ≤ min ((total + s.gain) / s.scale) 1 ↔ KeepsUp total scale s := by
  rw [KeepsUp]
  by_cases hcap : s.scale ≤ total + s.gain
  · have hone : 1 ≤ (total + s.gain) / s.scale := (one_le_div hs).2 hcap
    rw [min_eq_right hone]
    exact iff_of_true (min_le_right _ _) (.inr hcap)
  · -- below the cap the ratios themselves are compared
    have hlt : (total + s.gain) / s.scale < 1 := (div_lt_one hs).2 (not_le.1 hcap)
    rw [min_eq_left hlt.le, min_le_iff, or_iff_left hlt.not_ge, or_iff_left hcap,
      div_le_div_iff₀ hscale hs, mul_sub, add_mul, sub_le_iff_le_add, add_comm (s.gain * scale)]

/-- **When the ratio never goes down.** -/
theorem ratios_isChain_iff (hs : ∀ s ∈ samples, 0 < s.scale) :
    (ratiosFrom total samples).IsChain (· ≤ ·) ↔ Steady total samples := by
  induction samples generalizing total with
  | nil => simp [Steady]
  | cons s samples ih =>
    cases samples with
    | nil => simp [ratiosFrom_cons, Steady]
    | cons s' rest =>
      obtain ⟨hscale, hs⟩ := List.forall_mem_cons.1 hs
      have hscale' := hs s' List.mem_cons_self
      rw [ratiosFrom_cons, ratiosFrom_cons, List.isChain_cons_cons, keepsUp_iff hscale hscale',
        ← ratiosFrom_cons, ih hs]
      rfl

end Machine
