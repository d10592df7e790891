import ArtExhibition.Spec.PasswordRule

/-!
# The regular expression is the rule

The pattern reads as four lookaheads and a repetition of one set (`parse_passwordRegex`); its list
of special characters is the space with the punctuation of ASCII (`mem_specials`). No character of
the set ends a line, so each lookahead asks for a character somewhere in the password
(`password_rule_exact`).
-/

namespace ArtExhibition

open Regex

variable {table : DecimalTable} {c : Char}

/-- The special characters, in the pattern's order. -/
def specials : List Char := " !\"\\#$%&'()*+,-./:;<=>?@[]^_`\x7b|\x7d~".toList

/-- `(?=.*[..])`. -/
def contains (items : List SetItem) : Expr := .ahead (.seq (.atLeast 0 .dot) (.seq (.set items) .empty))

def specialItems : List SetItem := specials.map SetItem.char

/-- The characters of a password. -/
def allowedItems : List SetItem := [.range 'A' 'Z', .range 'a' 'z', .decimal] ++ specialItems

theorem parse_passwordRegex : parse passwordRegex = some (.seq .start
    (.seq (contains [.range 'a' 'z']) (.seq (contains [.range 'A' 'Z']) (.seq (contains [.decimal])
      (.seq (contains specialItems) (.seq (.atLeast 12 (.set allowedItems)) .empty)))))) := by
  decide +kernel

/-! ## Sets of characters -/

instance (c : Char) : Decidable (SpaceOrPunctuation c) :=
  inferInstanceAs (Decidable (_ ∨ _ ∧ _ ∨ _ ∧ _ ∨ _ ∧ _ ∨ _ ∧ _))

theorem spaceOrPunctuation_lt (h : SpaceOrPunctuation c) : c.toNat < 128 := by
  rcases h with rfl | h | h | h | h
  · decide
  all_goals
    have hle : c.toNat ≤ 126 := Nat.le_trans h.2 (by decide)
    omega

/-- **The specials** are the space and the punctuation of ASCII. -/
theorem mem_specials : c ∈ specials ↔ SpaceOrPunctuation c := by
  constructor
  · have hall : (specials.all fun c => decide (SpaceOrPunctuation c)) = true := by decide +kernel
    intro h
    exact of_decide_eq_true (List.all_eq_true.1 hall c h)
  · intro h
    have hascii : ∀ n < 128, SpaceOrPunctuation (Char.ofNat n) → Char.ofNat n ∈ specials := by
      decide +kernel
    have hc := hascii c.toNat (spaceOrPunctuation_lt h)
    rw [Char.ofNat_toNat] at hc
    exact hc h

theorem any_specialItems : specialItems.any (SetItem.has table c) = true ↔ SpaceOrPunctuation c := by
  rw [← mem_specials, specialItems, List.any_map, List.any_eq_true]
  constructor
  · rintro ⟨d, hd, hc⟩
    rw [Function.comp_apply, SetItem.has, beq_iff_eq] at hc
    exact hc ▸ hd
  · intro h
    exact ⟨c, h, beq_self_eq_true c⟩

theorem has_range {lo hi : Char} :
    [SetItem.range lo hi].any (SetItem.has table c) = true ↔ lo ≤ c ∧ c ≤ hi := by
  simp [SetItem.has]

theorem has_decimal : [SetItem.decimal].any (SetItem.has table c) = true ↔ table.isDecimal c = true := by
  simp [SetItem.has]

/-- The characters that the rule allows. -/
theorem any_allowedItems : allowedItems.any (SetItem.has table c) = true ↔
    LowercaseLetter c ∨ UppercaseLetter c ∨ table.isDecimal c = true ∨ SpaceOrPunctuation c := by
  have hclasses : [SetItem.range 'A' 'Z', .range 'a' 'z', .decimal].any (SetItem.has table c) = true ↔
      UppercaseLetter c ∨ LowercaseLetter c ∨ table.isDecimal c = true := by
    simp [SetItem.has, LowercaseLetter, UppercaseLetter]
  rw [allowedItems, List.any_append, Bool.or_eq_true, any_specialItems, hclasses, or_assoc, or_assoc,
    or_left_comm]

theorem not_lineTerminator_of_le (hlo : 32 ≤ c.toNat) (hhi : c.toNat < 128) : lineTerminator c = false := by
  simp only [lineTerminator, List.mem_cons, List.not_mem_nil, or_false]
  simp
  omega

/-- No allowed character ends a line. -/
theorem not_lineTerminator (h : allowedItems.any (SetItem.has table c) = true) :
    lineTerminator c = false := by
  rcases any_allowedItems.1 h with h | h | h | h
  · have hlo : 97 ≤ c.toNat := h.1
    have hhi : c.toNat ≤ 122 := h.2
    exact not_lineTerminator_of_le (by omega) (by omega)
  · have hlo : 65 ≤ c.toNat := h.1
    have hhi : c.toNat ≤ 90 := h.2
    exact not_lineTerminator_of_le (by omega) (by omega)
  · exact table.not_lineTerminator h
  · have hlo : 32 ≤ c.toNat := by
      rcases h with rfl | h | h | h | h
      · decide
      all_goals exact Nat.le_trans (by decide) h.1
    exact not_lineTerminator_of_le hlo (spaceOrPunctuation_lt h)

/-! ## Passwords -/

/-- **The pattern matches** exactly the passwords of the rule. -/
theorem rightFormat_iff {password : String} :
    rightFormat table password = true ↔ PasswordRule table password.toList := by
  simp only [rightFormat, parse_passwordRegex, Option.get_some, matches_iff, takes_start_seq, contains,
    takes_ahead_seq, takes_all]
  constructor
  · rintro ⟨hlower, hupper, hdigit, hspecial, hlength, hall⟩
    have hline : ∀ c ∈ password.toList, lineTerminator c = false :=
      fun c hc => not_lineTerminator (hall c hc)
    simp only [takes_contains hline, has_range, has_decimal, any_specialItems]
      at hlower hupper hdigit hspecial
    exact ⟨hlength, fun c hc => any_allowedItems.1 (hall c hc), hlower, hupper, hdigit, hspecial⟩
  · intro h
    have hall : ∀ c ∈ password.toList, allowedItems.any (SetItem.has table c) = true :=
      fun c hc => any_allowedItems.2 (h.all c hc)
    have hline : ∀ c ∈ password.toList, lineTerminator c = false :=
      fun c hc => not_lineTerminator (hall c hc)
    simp only [takes_contains hline, has_range, has_decimal, any_specialItems]
    exact ⟨h.lowercase, h.uppercase, h.digit, h.special, h.length, hall⟩

theorem rule_not_empty {password : String} (h : PasswordRule table password.toList) :
    password.isEmpty = false := by
  have hlength := h.length
  by_contra hempty
  rw [Bool.not_eq_false, String.isEmpty_iff] at hempty
  subst hempty
  simp at hlength

/-- **The password check is the rule**, for every password. -/
theorem password_rule_exact (table : DecimalTable) (viewModel : SignUpViewModel) :
    (viewModel.checkPasswordIsRightFormat (rightFormat table)).2 = true ↔
      ∃ password, viewModel.password = some password ∧ PasswordRule table password.toList := by
  rw [SignUpViewModel.checkPasswordIsRightFormat]
  cases viewModel.password with
  | none => simp
  | some password =>
    simp only [Option.some.injEq, exists_eq_left', ← rightFormat_iff]
    cases hformat : rightFormat table password with
    | false => split <;> simp
    | true =>
      rw [rule_not_empty (rightFormat_iff.1 hformat)]
      simp

/-- Twelve characters; the space is the special one. -/
example : rightFormat default "Art Museum 1" = true := by decide +kernel

end ArtExhibition
