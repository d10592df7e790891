import Mathlib.Algebra.GCDMonoid.Multiset
import Mathlib.Algebra.GCDMonoid.Nat
import Mathlib.Data.Rat.Cast.Order
import Mathlib.Tactic

/-!
# An array shown uniformly over a total time

Every entry of the array is shown for the same time, `total / length`. To show items for
given times the array repeats them.

* `expand`: every item of a list repeated in place; `shownFor_expand`: how long it is shown.
* `sum_le_gcd_mul_length`: an array that shows every item for its time has at least
  `sum / gcd` entries.
-/

namespace Machine

variable {α β ι : Type}

/-- Shown uniformly over `total`, the array shows `item` in one piece, for `time`. -/
def ShownFor (array : List ι) (total : ℚ) (item : ι) (time : ℚ) : Prop :=
  ∃ before count after, array = before ++ (List.replicate count item ++ after) ∧
    item ∉ before ∧ item ∉ after ∧ count * (total / array.length) = time

/-- Every item repeated in place. -/
def expand (items : List α) (counts : List ℕ) : List α :=
  (List.zipWith (fun item count => List.replicate count item) items counts).flatten

@[simp] theorem expand_nil (counts : List ℕ) : expand ([] : List α) counts = [] := rfl

@[simp] theorem expand_cons (item : α) (items : List α) (count : ℕ) (counts : List ℕ) :
    expand (item :: items) (count :: counts) = List.replicate count item ++ expand items counts :=
  rfl

theorem expand_map (f : α → β) (items : List α) (counts : List ℕ) :
    expand (items.map f) counts = (expand items counts).map f := by
  induction items generalizing counts with
  | nil => rfl
  | cons item items ih =>
    cases counts with
    | nil => rfl
    | cons count counts => simp [ih]

theorem length_expand {items : List α} {counts : List ℕ} (h : items.length = counts.length) :
    (expand items counts).length = counts.sum := by
  induction items generalizing counts with
  | nil => rw [List.eq_nil_of_length_eq_zero h.symm]; rfl
  | cons item items ih =>
    cases counts with
    | nil => simp at h
    | cons count counts => simp [ih (by simpa using h)]

theorem mem_of_mem_expand {items : List α} {counts : List ℕ} {item : α}
    (h : item ∈ expand items counts) : item ∈ items := by
  induction items generalizing counts with
  | nil => simp at h
  | cons first items ih =>
    cases counts with
    | nil => simp [expand] at h
    | cons count counts =>
      rw [expand_cons, List.mem_append, List.mem_replicate] at h
      rcases h with ⟨-, rfl⟩ | h
      · exact List.mem_cons_self
      · exact List.mem_cons_of_mem _ (ih h)

/-- An item stands in one piece, `counts[i]` times. -/
theorem expand_eq_around {items : List α} {counts : List ℕ} (nodup : items.Nodup)
    (h : items.length = counts.length) {i : ℕ} (hi : i < items.length) (hi' : i < counts.length) :
    ∃ before after, expand items counts = before ++ (List.replicate counts[i] items[i] ++ after) ∧
      items[i] ∉ before ∧ items[i] ∉ after := by
  induction items generalizing counts i with
  | nil => simp at hi
  | cons item items ih =>
    cases counts with
    | nil => simp at h
    | cons count counts =>
      obtain ⟨fresh, nodup⟩ := List.nodup_cons.mp nodup
      cases i with
      | zero => exact ⟨[], _, rfl, List.not_mem_nil, fun hm => fresh (mem_of_mem_expand hm)⟩
      | succ i =>
        have hi : i < items.length := by simpa using hi
        have hi' : i < counts.length := by simpa using hi'
        have h : items.length = counts.length := by simpa using h
        obtain ⟨before, after, eq, hb, ha⟩ := ih nodup h hi hi'
        refine ⟨List.replicate count item ++ before, after, ?_, ?_, ha⟩
        · simp [eq]
        · rw [List.mem_append, List.mem_replicate]
          rintro (⟨-, same⟩ | hm)
          · exact fresh (same ▸ List.getElem_mem hi)
          · exact hb hm

/-- The first `n` numbers, each repeated, are shown each for its share of the total. -/
theorem shownFor_expand {counts : List ℕ} {n : ℕ} (h : counts.length = n) (total : ℚ) {i : ℕ}
    (hi : i < counts.length) :
    ShownFor (expand (List.range n) counts) total i (counts[i] * (total / counts.sum)) := by
  subst h
  obtain ⟨before, after, eq, hb, ha⟩ := expand_eq_around List.nodup_range
    (List.length_range : (List.range counts.length).length = counts.length) (List.length_range ▸ hi) hi
  simp only [List.getElem_range] at eq hb ha
  exact ⟨before, counts[i], after, eq, hb, ha, by rw [length_expand List.length_range]⟩

/-- What an array shows for a time says how often the item stands in it. -/
theorem ShownFor.dvd {array : List ι} {unit : ℚ} {sum d : ℤ} {item : ι} (unit_pos : 0 < unit)
    (d_pos : 0 < d) (h : ShownFor array (unit * sum) item (unit * d)) :
    0 < array.length ∧ sum ∣ array.length * d := by
  obtain ⟨before, count, after, rfl, -, -, shown⟩ := h
  set length := (before ++ (List.replicate count item ++ after)).length
  have length_ne : (length : ℚ) ≠ 0 := by
    intro zero
    rw [zero, div_zero, mul_zero] at shown
    have : 0 < unit * (d : ℚ) := mul_pos unit_pos (by exact_mod_cast d_pos)
    linarith
  have cleared : (count : ℚ) * sum = length * d := by
    field_simp at shown
    linarith
  refine ⟨Nat.pos_of_ne_zero (by exact_mod_cast length_ne), count, ?_⟩
  have : (count : ℤ) * sum = length * d := by exact_mod_cast cleared
  linarith

theorem gcd_pos_of_pos {times : List ℤ} (ne : times ≠ []) (pos : ∀ d ∈ times, 0 < d) :
    0 < (times : Multiset ℤ).gcd := by
  obtain ⟨first, hf⟩ := List.exists_mem_of_ne_nil times ne
  have nonneg := Int.nonneg_of_normalize_eq_self (Multiset.normalize_gcd (times : Multiset ℤ))
  have gcd_ne : (times : Multiset ℤ).gcd ≠ 0 :=
    (Multiset.gcd_ne_zero_iff _).mpr ⟨first, hf, (pos first hf).ne'⟩
  omega

/-- **No shorter array.** An array that shows every number below `n` for its time out of
their sum has an entry for each `gcd` of that sum. -/
theorem sum_le_gcd_mul_length {times : List ℤ} (pos : ∀ d ∈ times, 0 < d) {array : List ℕ}
    {unit : ℚ} (unit_pos : 0 < unit) (shown : ∀ i (hi : i < times.length),
      ShownFor array (unit * times.sum) i (unit * times[i])) :
    times.sum ≤ array.length * (times : Multiset ℤ).gcd := by
  have each : ∀ d ∈ times, 0 < array.length ∧ times.sum ∣ array.length * d := by
    intro d hd
    obtain ⟨i, hi, rfl⟩ := List.getElem_of_mem hd
    exact (shown i hi).dvd unit_pos (pos _ hd)
  rcases times with _ | ⟨first, rest⟩
  · simp
  have dvd : (first :: rest).sum ∣ array.length * (↑(first :: rest) : Multiset ℤ).gcd := by
    rw [← (Multiset.associated_gcd_map_mul _ _).dvd_iff_dvd_right, Multiset.dvd_gcd]
    simpa using fun d hd => (each d hd).2
  have gcd_pos := gcd_pos_of_pos (List.cons_ne_nil first rest) pos
  exact Int.le_of_dvd (mul_pos (by exact_mod_cast (each first (by simp)).1) gcd_pos) dvd

end Machine
