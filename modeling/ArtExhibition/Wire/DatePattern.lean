import Mathlib.Data.Nat.Digits.Lemmas
import ArtExhibition.Wire.Bytes

/-!
# Dates written by a pattern

The part of the date patterns of ICU in which the day, the month and the year are numbers, and what
stands between them is no letter. A number has at least as many digits as its field has letters.
`write_eq_iff`: by a pattern that has all three and separates them, a text in western digits is
written for one date only, and in western digits only.
-/

namespace DatePattern

open Wire

/-! ## Numbers -/

def westernDigit (d : Fin 10) : Char := Char.ofNat (48 + d)

/-- The ten decimal digits of a script; no digits but the western ones are ASCII. -/
@[ext] structure NumberingSystem where
  digit : Fin 10 → Char
  injective : Function.Injective digit
  ascii : ∀ d, IsASCII (digit d) → digit = westernDigit

def NumberingSystem.western : NumberingSystem where
  digit := westernDigit
  injective := by decide
  ascii := fun _ _ => rfl

/-- The decimal digits of a number behind leading zeros. -/
def digits (width n : ℕ) : List (Fin 10) := (Nat.digitsAppend 10 width n).reverse.map (Fin.ofNat 10)

def NumberingSystem.number (system : NumberingSystem) (width n : ℕ) : List Char :=
  (digits width n).map system.digit

theorem digits_injective (width : ℕ) : Function.Injective (digits width) := by
  have hvalue : ∀ n, Nat.ofDigits 10 ((digits width n).map Fin.val).reverse = n := by
    intro n
    have hval : (digits width n).map Fin.val = (Nat.digitsAppend 10 width n).reverse := by
      rw [digits, List.map_map]
      refine (List.map_congr_left fun d hd => ?_).trans (List.map_id _)
      exact Nat.mod_eq_of_lt (Nat.lt_of_mem_digitsAppend (by decide) width d (List.mem_reverse.1 hd))
    rw [hval, List.reverse_reverse, Nat.digitsAppend, Nat.ofDigits_append_replicate_zero,
      Nat.ofDigits_digits]
  intro n m h
  rw [← hvalue n, h, hvalue]

theorem digits_ne_nil {width : ℕ} (hwidth : 0 < width) (n : ℕ) : digits width n ≠ [] := by
  have hlength : width ≤ (digits width n).length := by
    rw [digits, List.length_map, List.length_reverse, Nat.digitsAppend, List.length_append,
      List.length_replicate]
    omega
  exact List.ne_nil_of_length_pos (hwidth.trans_le hlength)

variable {system : NumberingSystem} {c : Char} {width n m : ℕ}

theorem number_eq_iff (hwidth : 0 < width) :
    system.number width n = NumberingSystem.western.number width m ↔
      system = NumberingSystem.western ∧ n = m := by
  constructor
  · intro h
    -- the first digit tells the script
    have hsystem : system = NumberingSystem.western := by
      obtain ⟨d, rest, hdigits⟩ := List.exists_cons_of_ne_nil (digits_ne_nil hwidth n)
      obtain ⟨d', rest', hdigits'⟩ := List.exists_cons_of_ne_nil (digits_ne_nil hwidth m)
      rw [NumberingSystem.number, NumberingSystem.number, hdigits, hdigits', List.map_cons,
        List.map_cons] at h
      have hascii : ∀ d, IsASCII (westernDigit d) := by decide
      exact NumberingSystem.ext (system.ascii d ((List.cons.inj h).1 ▸ hascii d'))
    subst hsystem
    exact ⟨rfl, digits_injective width
      ((List.map_injective_iff.2 NumberingSystem.western.injective) h)⟩
  · rintro ⟨rfl, rfl⟩
    rfl

/-- An ASCII character that is no digit: no number has it. -/
def Separator (c : Char) : Prop := IsASCII c ∧ ∀ d, westernDigit d ≠ c

instance (c : Char) : Decidable (Separator c) := inferInstanceAs (Decidable (_ ∧ _))

theorem notMem_number (hc : Separator c) : c ∉ system.number width n := by
  intro h
  obtain ⟨d, -, hd⟩ := List.mem_map.1 h
  rw [system.ascii d (hd ▸ hc.1)] at hd
  exact hc.2 d hd

/-! ## Patterns -/

inductive Field
  | day
  | month
  | year
  deriving DecidableEq, Repr

/-- A day as a calendar tells it; the year is that of its era. -/
@[ext] structure DateFields where
  day : ℕ
  month : ℕ
  year : ℕ
  deriving DecidableEq, Repr

def DateFields.get (fields : DateFields) : Field → ℕ
  | .day => fields.day
  | .month => fields.month
  | .year => fields.year

inductive Item
  | number (field : Field) (width : ℕ)
  | literal (c : Char)
  deriving DecidableEq, Repr

/-- Equal characters, as many as there are: `MMM` and more is a name of the month, `yy` the year's
last two digits. -/
def readRun (c : Char) (width : ℕ) : Option (List Item) :=
  if c = 'd' then some [.number .day width]
  else if c = 'M' then if width ≤ 2 then some [.number .month width] else none
  else if c = 'y' then if width = 2 then none else some [.number .year width]
  else if c.isAlpha || c = '\'' then none
  else some (List.replicate width (.literal c))

def read (pattern : String) : Option (List Item) :=
  let runs := pattern.toList.splitBy (· == ·)
  (runs.mapM fun run : List Char => run.head?.bind fun c => readRun c run.length).map List.flatten

def Item.write (system : NumberingSystem) (fields : DateFields) : Item → List Char
  | .number field width => system.number width (fields.get field)
  | .literal c => [c]

def write (system : NumberingSystem) (fields : DateFields) (items : List Item) : List Char :=
  items.flatMap (Item.write system fields)

/-- Behind every number the pattern ends, or a separator stands. -/
def Separated : List Item → Prop
  | [] => True
  | [.number _ width] => 0 < width
  | .number _ width :: .literal c :: rest => 0 < width ∧ Separator c ∧ Separated rest
  | .number _ _ :: .number _ _ :: _ => False
  | .literal _ :: rest => Separated rest

instance Separated.decide : ∀ items, Decidable (Separated items)
  | [] => .isTrue trivial
  | [.number _ width] => inferInstanceAs (Decidable (0 < width))
  | .number _ width :: .literal c :: rest =>
    have := Separated.decide rest
    inferInstanceAs (Decidable (0 < width ∧ Separator c ∧ Separated rest))
  | .number _ _ :: .number _ _ :: _ => .isFalse id
  | .literal _ :: rest => Separated.decide rest

variable {fields fields' : DateFields} {items : List Item} {field : Field}

theorem append_cons_inj {l l' rest rest' : List Char} (hl : c ∉ l) (hl' : c ∉ l') :
    l ++ c :: rest = l' ++ c :: rest' ↔ l = l' ∧ rest = rest' := by
  induction l generalizing l' with
  | nil =>
    cases l' with
    | nil => simp
    | cons d l' => simp [List.ne_of_not_mem_cons hl']
  | cons d l ih =>
    cases l' with
    | nil => simp [(List.ne_of_not_mem_cons hl).symm]
    | cons d' l' =>
      rw [List.cons_append, List.cons_append, List.cons.injEq, List.cons.injEq,
        ih (List.not_mem_of_not_mem_cons hl) (List.not_mem_of_not_mem_cons hl'), and_assoc]

theorem write_number : write system fields (.number field width :: items) =
    system.number width (fields.get field) ++ write system fields items := rfl

theorem write_literal : write system fields (.literal c :: items) = c :: write system fields items := rfl

/-- What a text in western digits says by an item of its pattern. -/
def Item.Tells (system : NumberingSystem) (fields fields' : DateFields) : Item → Prop
  | .number field _ => system = .western ∧ fields.get field = fields'.get field
  | .literal _ => True

/-- A text in western digits tells the fields of its pattern, and that its digits are western. -/
theorem write_eq_iff_tells (h : Separated items) :
    write system fields items = write .western fields' items ↔
      ∀ item ∈ items, item.Tells system fields fields' := by
  fun_induction Separated items with
  | case1 => simp [write]
  | case2 field width =>
    rw [write_number, write_number, write, write, List.flatMap_nil, List.flatMap_nil, List.append_nil,
      List.append_nil, number_eq_iff h, List.forall_mem_singleton, Item.Tells]
  | case3 field width c rest ih =>
    obtain ⟨hwidth, hc, hrest⟩ := h
    rw [write_number, write_number, write_literal, write_literal,
      append_cons_inj (notMem_number hc) (notMem_number hc), number_eq_iff hwidth, ih hrest,
      List.forall_mem_cons, List.forall_mem_cons, Item.Tells, Item.Tells, true_and]
  | case4 => exact h.elim
  | case5 c rest ih =>
    rw [write_literal, write_literal, List.cons_inj_right, ih h, List.forall_mem_cons, Item.Tells,
      true_and]

/-- **A date written by a pattern with all its fields** is the only one that is written so. -/
theorem write_eq_iff (h : Separated items) (hall : ∀ field, ∃ width, .number field width ∈ items) :
    write system fields items = write .western fields' items ↔ system = .western ∧ fields = fields' := by
  rw [write_eq_iff_tells h]
  constructor
  · intro htells
    have htell : ∀ field, system = .western ∧ fields.get field = fields'.get field := by
      intro field
      obtain ⟨width, hitem⟩ := hall field
      exact htells _ hitem
    exact ⟨(htell .day).1, DateFields.ext (htell .day).2 (htell .month).2 (htell .year).2⟩
  · rintro ⟨rfl, rfl⟩ item -
    cases item with
    | number field width => exact ⟨rfl, rfl⟩
    | literal c => trivial

end DatePattern
