import Mathlib.Data.List.Infix
import Mathlib.Data.Nat.Notation
import Mathlib.Tactic.Common

/-!
# Regular expressions with lookahead

The part of the regular expressions of ICU that has sets of characters, `.`, `^`, repetitions
`{n,}` and lookaheads `(?=..)`, on lists of code points. The decimal digits (`\d`) are a table of
the library's user (`DecimalTable`).

`Expr.Takes` is the meaning: between which rests of the input an expression matches. `Expr.ends`
computes all ends of a match, and `mem_ends` says that it does. `matches_iff` is for matches of
the whole input; `repeats_one`, `takes_contains` and `takes_all` say what repetitions of one
character mean.
-/

namespace Regex

/-- The characters of category `Nd`, with what does not depend on the version of the tables. -/
structure DecimalTable where
  isDecimal : Char → Bool
  ascii : ∀ c : Char, c.toNat < 128 → isDecimal c = c.isDigit
  separators : ∀ c : Char, c.toNat ∈ [0x85, 0x2028, 0x2029] → isDecimal c = false

/-- The ten digits of ASCII alone. -/
instance : Inhabited DecimalTable where
  default :=
    { isDecimal := Char.isDigit
      ascii := fun _ _ => rfl
      separators := by
        intro c hc
        by_contra hdigit
        rw [Bool.not_eq_false, Char.isDigit, Bool.and_eq_true, decide_eq_true_iff,
          decide_eq_true_iff] at hdigit
        have hle : c.toNat ≤ 57 := hdigit.2
        simp only [List.mem_cons, List.not_mem_nil, or_false] at hc
        omega }

/-- What a set of characters lists. -/
inductive SetItem
  | char (c : Char)
  | range (lo hi : Char)
  | decimal
  deriving DecidableEq, Repr

def SetItem.has (table : DecimalTable) (c : Char) : SetItem → Bool
  | .char c' => c == c'
  | .range lo hi => decide (lo ≤ c) && decide (c ≤ hi)
  | .decimal => table.isDecimal c

/-- `.` takes all characters but these. -/
def lineTerminator (c : Char) : Bool :=
  10 ≤ c.toNat && c.toNat ≤ 13 || c.toNat ∈ [0x85, 0x2028, 0x2029]

inductive Expr
  | empty
  /-- `^` -/
  | start
  /-- `.` -/
  | dot
  /-- `[..]` -/
  | set (items : List SetItem)
  | seq (e e' : Expr)
  /-- `e{n,}`; `e*` is `e{0,}` -/
  | atLeast (n : ℕ) (e : Expr)
  /-- `(?=e)` -/
  | ahead (e : Expr)
  deriving DecidableEq, Repr

/-! ## Meaning -/

/-- At least `n` steps, from one rest of the input to another. -/
inductive Repeats (R : List Char → List Char → Prop) : ℕ → List Char → List Char → Prop
  | done (rest : List Char) : Repeats R 0 rest rest
  | more {n : ℕ} {rest mid rest' : List Char} :
    R rest mid → Repeats R (n - 1) mid rest' → Repeats R n rest rest'

/-- The expression matches what stands between `rest` and `rest'`. -/
def Expr.Takes (table : DecimalTable) (input : List Char) : Expr → List Char → List Char → Prop
  | .empty => fun rest rest' => rest' = rest
  | .start => fun rest rest' => rest = input ∧ rest' = rest
  | .dot => fun rest rest' => ∃ c, rest = c :: rest' ∧ lineTerminator c = false
  | .set items => fun rest rest' => ∃ c, rest = c :: rest' ∧ items.any (SetItem.has table c) = true
  | .seq e e' => fun rest rest' => ∃ mid, e.Takes table input rest mid ∧ e'.Takes table input mid rest'
  | .atLeast n e => Repeats (e.Takes table input) n
  | .ahead e => fun rest rest' => rest' = rest ∧ ∃ after, e.Takes table input rest after

/-! ## Matcher -/

/-- One character. -/
def oneEnds (p : Char → Bool) : List Char → List (List Char)
  | [] => []
  | c :: rest => if p c then [rest] else []

/-- At least `n` steps; `fuel` bounds their number. -/
def repeatEnds (step : List Char → List (List Char)) : ℕ → ℕ → List Char → List (List Char)
  | 0, n, rest => if n = 0 then [rest] else []
  | fuel + 1, n, rest =>
    (if n = 0 then [rest] else []) ++ (step rest).flatMap (repeatEnds step fuel (n - 1))

/-- The rests that a match can leave. -/
def Expr.ends (table : DecimalTable) (input : List Char) : Expr → List Char → List (List Char)
  | .empty => fun rest => [rest]
  | .start => fun rest => if rest = input then [rest] else []
  | .dot => oneEnds fun c => !lineTerminator c
  | .set items => oneEnds fun c => items.any (SetItem.has table c)
  | .seq e e' => fun rest => (e.ends table input rest).flatMap (e'.ends table input)
  | .atLeast n e => fun rest => repeatEnds (e.ends table input) (n + rest.length) n rest
  | .ahead e => fun rest => if (e.ends table input rest).isEmpty then [] else [rest]

/-- The whole input matches. -/
def Expr.matches (table : DecimalTable) (e : Expr) (input : List Char) : Bool :=
  [] ∈ e.ends table input input

variable {table : DecimalTable} {input rest rest' : List Char}

theorem mem_oneEnds {p : Char → Bool} : rest' ∈ oneEnds p rest ↔ ∃ c, rest = c :: rest' ∧ p c = true := by
  cases rest with
  | nil => simp [oneEnds]
  | cons c rest =>
    rw [oneEnds]
    split
    · rename_i hc
      rw [List.mem_singleton]
      constructor
      · rintro rfl
        exact ⟨c, rfl, hc⟩
      · rintro ⟨d, hd, -⟩
        exact (List.cons_eq_cons.1 hd).2.symm
    · rename_i hc
      simp only [List.not_mem_nil, false_iff]
      rintro ⟨d, hd, hp⟩
      exact hc ((List.cons_eq_cons.1 hd).1 ▸ hp)

section Repeat

variable {R : List Char → List Char → Prop} {step : List Char → List (List Char)}

/-- What steps leave is an end of what they start from. -/
theorem repeats_suffix (hsuffix : ∀ rest rest', R rest rest' → rest' <:+ rest) {n : ℕ}
    (h : Repeats R n rest rest') : rest' <:+ rest := by
  induction h with
  | done rest => exact List.suffix_rfl
  | more hstep _ ih => exact ih.trans (hsuffix _ _ hstep)

theorem repeats_of_mem (hstep : ∀ rest rest', rest' ∈ step rest → R rest rest') {fuel : ℕ} :
    ∀ {n : ℕ} {rest : List Char}, rest' ∈ repeatEnds step fuel n rest → Repeats R n rest rest' := by
  induction fuel with
  | zero =>
    intro n rest h
    rw [repeatEnds] at h
    split at h
    · rename_i hn
      rw [List.mem_singleton.1 h, hn]
      exact .done rest
    · cases h
  | succ fuel ih =>
    intro n rest h
    rw [repeatEnds, List.mem_append, List.mem_flatMap] at h
    rcases h with h | ⟨mid, hmid, h⟩
    · split at h
      · rename_i hn
        rw [List.mem_singleton.1 h, hn]
        exact .done rest
      · cases h
    · exact .more (hstep _ _ hmid) (ih h)

/-- Steps that take nothing are not needed, once there were `n`. -/
theorem mem_of_repeats (hsuffix : ∀ rest rest', R rest rest' → rest' <:+ rest)
    (hstep : ∀ rest rest', R rest rest' → rest' ∈ step rest) {n : ℕ} (h : Repeats R n rest rest') :
    ∀ {fuel : ℕ}, n + rest.length ≤ fuel → rest' ∈ repeatEnds step fuel n rest := by
  induction h with
  | done rest => intro fuel _; cases fuel <;> simp [repeatEnds]
  | @more n rest mid rest' hmid _ ih =>
    intro fuel hfuel
    have hsuf := hsuffix _ _ hmid
    have hlen := hsuf.length_le
    by_cases hskip : n = 0 ∧ mid = rest
    · obtain ⟨rfl, rfl⟩ := hskip
      exact ih hfuel
    · -- a needed step: one of the `n`, or one that takes something
      have hneeded : n - 1 + mid.length < n + rest.length := by
        rcases Nat.eq_zero_or_pos n with rfl | hn
        · have hne : mid.length ≠ rest.length := fun he => hskip ⟨rfl, hsuf.eq_of_length he⟩
          omega
        · omega
      obtain ⟨fuel, rfl⟩ : ∃ fuel', fuel = fuel' + 1 := ⟨fuel - 1, by omega⟩
      rw [repeatEnds, List.mem_append, List.mem_flatMap]
      exact .inr ⟨mid, hstep _ _ hmid, ih (by omega)⟩

end Repeat

theorem takes_suffix (e : Expr) : ∀ rest rest', e.Takes table input rest rest' → rest' <:+ rest := by
  induction e with
  | empty => rintro rest _ rfl; exact List.suffix_rfl
  | start => rintro rest _ ⟨-, rfl⟩; exact List.suffix_rfl
  | dot => rintro _ rest' ⟨c, rfl, -⟩; exact List.suffix_cons c rest'
  | set items => rintro _ rest' ⟨c, rfl, -⟩; exact List.suffix_cons c rest'
  | seq e e' ih ih' => rintro rest rest' ⟨mid, h, h'⟩; exact (ih' _ _ h').trans (ih _ _ h)
  | atLeast n e ih => exact fun rest rest' h => repeats_suffix ih h
  | ahead e _ => rintro rest _ ⟨rfl, -⟩; exact List.suffix_rfl

/-- **The matcher computes the meaning.** -/
theorem mem_ends (e : Expr) :
    ∀ rest rest', rest' ∈ e.ends table input rest ↔ e.Takes table input rest rest' := by
  induction e with
  | empty => exact fun rest rest' => List.mem_singleton
  | start =>
    intro rest rest'
    simp only [Expr.ends, Expr.Takes]
    split <;> simp [*]
  | dot => simp [Expr.ends, Expr.Takes, mem_oneEnds]
  | set items => exact fun rest rest' => mem_oneEnds
  | seq e e' ih ih' =>
    intro rest rest'
    simp only [Expr.ends, Expr.Takes, List.mem_flatMap, ih, ih']
  | atLeast n e ih =>
    intro rest rest'
    constructor
    · exact repeats_of_mem fun rest rest' => (ih rest rest').1
    · exact fun h => mem_of_repeats (takes_suffix e) (fun rest rest' => (ih rest rest').2) h le_rfl
  | ahead e ih =>
    intro rest rest'
    have hmatch : (e.ends table input rest).isEmpty = false ↔ ∃ after, e.Takes table input rest after := by
      simp only [← ih, List.isEmpty_eq_false_iff_exists_mem]
    simp only [Expr.ends, Expr.Takes, ← hmatch]
    cases (e.ends table input rest).isEmpty <;> simp

theorem matches_iff {e : Expr} : e.matches table input = true ↔ e.Takes table input input [] := by
  rw [Expr.matches, decide_eq_true_iff, mem_ends]

/-! ## Repetitions of one character -/

/-- At least `n` characters, each of them one that `p` accepts. -/
theorem repeats_one {R : List Char → List Char → Prop} {p : Char → Prop}
    (hR : ∀ rest rest', R rest rest' ↔ ∃ c, rest = c :: rest' ∧ p c) {n : ℕ} :
    Repeats R n rest rest' ↔ ∃ taken, rest = taken ++ rest' ∧ n ≤ taken.length ∧ ∀ c ∈ taken, p c := by
  constructor
  · intro h
    induction h with
    | done rest => exact ⟨[], rfl, le_rfl, nofun⟩
    | more hstep _ ih =>
      obtain ⟨c, rfl, hc⟩ := (hR _ _).1 hstep
      obtain ⟨taken, rfl, hn, hall⟩ := ih
      refine ⟨c :: taken, rfl, ?_, List.forall_mem_cons.2 ⟨hc, hall⟩⟩
      rw [List.length_cons]
      omega
  · rintro ⟨taken, rfl, hn, hall⟩
    induction taken generalizing n with
    | nil =>
      obtain rfl : n = 0 := Nat.le_zero.1 hn
      exact .done rest'
    | cons c taken ih =>
      obtain ⟨hc, hall⟩ := List.forall_mem_cons.1 hall
      rw [List.length_cons] at hn
      exact .more ((hR _ _).2 ⟨c, rfl, hc⟩) (ih (by omega) hall)

/-! ## Rules for sequences -/

section Sequence

variable {e e' : Expr} {items : List SetItem}

theorem takes_start_seq :
    (Expr.seq .start e).Takes table input input rest' ↔ e.Takes table input input rest' := by
  constructor
  · rintro ⟨_, ⟨-, rfl⟩, h⟩
    exact h
  · exact fun h => ⟨input, ⟨rfl, rfl⟩, h⟩

theorem takes_ahead_seq : (Expr.seq (.ahead e) e').Takes table input rest rest' ↔
    (∃ after, e.Takes table input rest after) ∧ e'.Takes table input rest rest' := by
  constructor
  · rintro ⟨_, ⟨rfl, hahead⟩, h⟩
    exact ⟨hahead, h⟩
  · exact fun h => ⟨rest, ⟨rfl, h.1⟩, h.2⟩

/-- `.*[..]` where no line ends: a character of the set stands somewhere ahead. -/
theorem takes_contains (hline : ∀ c ∈ rest, lineTerminator c = false) :
    (∃ after, (Expr.seq (.atLeast 0 .dot) (.seq (.set items) .empty)).Takes table input rest after) ↔
      ∃ c ∈ rest, items.any (SetItem.has table c) = true := by
  constructor
  · rintro ⟨_, mid, hdots, _, ⟨c, rfl, hc⟩, -⟩
    obtain ⟨taken, rfl, -⟩ := (repeats_one fun _ _ => Iff.rfl).1 hdots
    exact ⟨c, List.mem_append_right _ List.mem_cons_self, hc⟩
  · rintro ⟨c, hmem, hc⟩
    obtain ⟨before, after, rfl⟩ := List.append_of_mem hmem
    refine ⟨after, c :: after, (repeats_one fun _ _ => Iff.rfl).2 ?_, after, ⟨c, rfl, hc⟩, rfl⟩
    exact ⟨before, rfl, Nat.zero_le _, fun d hd => hline d (List.mem_append_left _ hd)⟩

/-- `[..]{n,}` to the end of the input. -/
theorem takes_all {n : ℕ} : (Expr.seq (.atLeast n (.set items)) .empty).Takes table input rest [] ↔
    n ≤ rest.length ∧ ∀ c ∈ rest, items.any (SetItem.has table c) = true := by
  constructor
  · rintro ⟨_, hset, rfl⟩
    obtain ⟨taken, rfl, h⟩ := (repeats_one fun _ _ => Iff.rfl).1 hset
    rw [List.append_nil]
    exact h
  · intro h
    exact ⟨[], (repeats_one fun _ _ => Iff.rfl).2 ⟨rest, (List.append_nil rest).symm, h⟩, rfl⟩

end Sequence

/-- A digit does not end a line. -/
theorem DecimalTable.not_lineTerminator (table : DecimalTable) {c : Char} (h : table.isDecimal c = true) :
    lineTerminator c = false := by
  by_contra hline
  rw [Bool.not_eq_false, lineTerminator, Bool.or_eq_true, Bool.and_eq_true, decide_eq_true_iff,
    decide_eq_true_iff, decide_eq_true_iff] at hline
  rcases hline with ⟨hlo, hhi⟩ | hsep
  · rw [table.ascii c (by omega), Char.isDigit, Bool.and_eq_true, decide_eq_true_iff] at h
    have hzero : 48 ≤ c.toNat := h.1
    omega
  · rw [table.separators c hsep] at h
    cases h

end Regex
