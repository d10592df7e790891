import Mathlib.Data.List.Basic
import Mathlib.Data.List.Infix
import Mathlib.Tactic.Common

/-!
# Texts as bytes

`utf8` is the UTF-8 encoding of a text as a list of bytes, `text?` reads it back. An ASCII
character is one byte below 128 and every byte of another character is at least 128; so a
piece of ASCII that occurs in the bytes of a text occurs in the text (`infix_of_utf8`).
-/

namespace Wire

abbrev Bytes := List UInt8

/-- A property of the elements of a list, decided element by element. -/
theorem forall_of_all {α : Type} {p : α → Prop} [DecidablePred p] {l : List α}
    (h : (l.all fun a => decide (p a)) = true) : ∀ a ∈ l, p a := by
  simpa using h

/-- The UTF-8 bytes of a text. -/
def utf8 (text : String) : Bytes := text.toList.flatMap String.utf8EncodeChar

/-- The text with these UTF-8 bytes. -/
def text? (bytes : Bytes) : Option String := String.fromUTF8? bytes.toByteArray

@[simp] theorem utf8_append (a b : String) : utf8 (a ++ b) = utf8 a ++ utf8 b := by
  simp [utf8]

theorem toByteArray_utf8 (text : String) : (utf8 text).toByteArray = text.toByteArray := by
  rw [← String.utf8Encode_toList]
  rfl

theorem text?_utf8 (text : String) : text? (utf8 text) = some text := by
  rw [text?, toByteArray_utf8]
  exact dif_pos text.isValidUTF8

theorem utf8_inj {a b : String} : utf8 a = utf8 b ↔ a = b := by
  constructor
  · intro h
    have ha := text?_utf8 a
    rw [h, text?_utf8] at ha
    exact (Option.some.inj ha).symm
  · exact congrArg utf8

/-! ## ASCII -/

/-- An ASCII character. -/
def IsASCII (c : Char) : Prop := c.toNat < 128

instance (c : Char) : Decidable (IsASCII c) := inferInstanceAs (Decidable (_ < _))

theorem utf8EncodeChar_ascii {c : Char} (h : IsASCII c) :
    String.utf8EncodeChar c = [UInt8.ofNat c.toNat] := by
  have hle : c.val.toNat ≤ 127 := Nat.le_of_lt_succ h
  unfold String.utf8EncodeChar
  exact if_pos hle

/-- Every byte of a character that is not ASCII has its high bit. -/
theorem le_of_mem_utf8EncodeChar {c : Char} (h : ¬ IsASCII c) :
    ∀ b ∈ String.utf8EncodeChar c, 128 ≤ b.toNat := by
  have hlt : 127 < c.val.toNat := Nat.lt_of_not_le fun hle => h (Nat.lt_succ_of_le hle)
  have hvalid := c.valid
  intro b hb
  unfold String.utf8EncodeChar at hb
  dsimp only at hb
  rw [if_neg (by omega)] at hb
  split at hb
  · simp only [List.mem_cons, List.not_mem_nil, or_false] at hb
    rcases hb with rfl | rfl <;> simp only [UInt8.toNat_ofNat'] <;> omega
  split at hb
  · simp only [List.mem_cons, List.not_mem_nil, or_false] at hb
    rcases hb with rfl | rfl | rfl <;> simp only [UInt8.toNat_ofNat'] <;> omega
  · simp only [List.mem_cons, List.not_mem_nil, or_false] at hb
    rcases hb with rfl | rfl | rfl | rfl <;> simp only [UInt8.toNat_ofNat'] <;> omega

theorem ofNat_toNat_ascii {c : Char} (h : IsASCII c) : (UInt8.ofNat c.toNat).toNat = c.toNat := by
  have hlt : c.toNat < 128 := h
  rw [UInt8.toNat_ofNat']
  omega

/-! ## ASCII in a text -/

/-- An ASCII byte in the encoding of a character is that character. -/
theorem eq_of_mem_utf8EncodeChar {c d : Char} (hc : IsASCII c)
    (h : UInt8.ofNat c.toNat ∈ String.utf8EncodeChar d) : d = c := by
  have hlt : c.toNat < 128 := hc
  by_cases hd : IsASCII d
  · rw [utf8EncodeChar_ascii hd, List.mem_singleton] at h
    have hbyte := congrArg UInt8.toNat h
    rw [ofNat_toNat_ascii hc, ofNat_toNat_ascii hd] at hbyte
    exact Char.toNat_inj.1 hbyte.symm
  · have hhigh := le_of_mem_utf8EncodeChar hd _ h
    rw [ofNat_toNat_ascii hc] at hhigh
    omega

theorem mem_of_mem_utf8 {c : Char} (hc : IsASCII c) {text : String} (h : UInt8.ofNat c.toNat ∈ utf8 text) :
    c ∈ text.toList := by
  obtain ⟨d, hd, hmem⟩ := List.mem_flatMap.1 h
  rwa [← eq_of_mem_utf8EncodeChar hc hmem]

theorem head?_of_head?_utf8 {c : Char} (hc : IsASCII c) {text : String}
    (h : (utf8 text).head? = some (UInt8.ofNat c.toNat)) : text.toList.head? = some c := by
  unfold utf8 at h
  cases htext : text.toList with
  | nil => simp [htext] at h
  | cons d chars =>
    rw [htext, List.flatMap_cons, List.head?_append_of_ne_nil _ String.utf8EncodeChar_ne_nil] at h
    rw [← eq_of_mem_utf8EncodeChar hc (List.mem_of_mem_head? h), List.head?_cons]

theorem getLast?_of_getLast?_utf8 {c : Char} (hc : IsASCII c) {text : String}
    (h : (utf8 text).getLast? = some (UInt8.ofNat c.toNat)) : text.toList.getLast? = some c := by
  unfold utf8 at h
  rcases List.eq_nil_or_concat' text.toList with htext | ⟨chars, d, htext⟩
  · simp [htext] at h
  · rw [htext, List.flatMap_append, List.flatMap_singleton,
      List.getLast?_append_of_ne_nil _ String.utf8EncodeChar_ne_nil] at h
    rw [htext, List.getLast?_concat, eq_of_mem_utf8EncodeChar hc (List.mem_of_getLast? h)]

/-- ASCII at the start of the bytes of a text is at the start of the text. -/
theorem prefix_of_utf8 {pattern : List Char} (hascii : ∀ c ∈ pattern, IsASCII c) {text : List Char}
    (h : pattern.flatMap String.utf8EncodeChar <+: text.flatMap String.utf8EncodeChar) :
    pattern <+: text := by
  induction pattern generalizing text with
  | nil => exact List.nil_prefix
  | cons c pattern ih =>
    have hc : IsASCII c := hascii c List.mem_cons_self
    rw [List.flatMap_cons, utf8EncodeChar_ascii hc, List.singleton_append] at h
    cases text with
    | nil => simp at h
    | cons d text =>
      rw [List.flatMap_cons] at h
      by_cases hd : IsASCII d
      · rw [utf8EncodeChar_ascii hd, List.singleton_append, List.cons_prefix_cons] at h
        have hcd : c = d := by
          have hbyte := congrArg UInt8.toNat h.1
          rw [ofNat_toNat_ascii hc, ofNat_toNat_ascii hd] at hbyte
          exact Char.toNat_inj.1 hbyte
        subst hcd
        exact List.cons_prefix_cons.2 ⟨rfl, ih (fun x hx => hascii x (List.mem_cons_of_mem _ hx)) h.2⟩
      · -- the first byte of `d` has its high bit, that of `c` has not
        obtain ⟨b, bs, hbs⟩ := List.exists_cons_of_ne_nil (String.utf8EncodeChar_ne_nil (c := d))
        rw [hbs, List.cons_append, List.cons_prefix_cons] at h
        have hb : 128 ≤ b.toNat := le_of_mem_utf8EncodeChar hd b (hbs ▸ List.mem_cons_self)
        have hlt : c.toNat < 128 := hc
        have hbyte := ofNat_toNat_ascii hc
        rw [h.1] at hbyte
        omega

/-- Bytes with their high bit cannot be where ASCII starts. -/
theorem infix_of_infix_append {x : UInt8} {bytes high rest : Bytes} (hx : x.toNat < 128)
    (hhigh : ∀ b ∈ high, 128 ≤ b.toNat) (h : x :: bytes <:+: high ++ rest) : x :: bytes <:+: rest := by
  induction high with
  | nil => exact h
  | cons b high ih =>
    rw [List.cons_append, List.infix_cons_iff] at h
    rcases h with h | h
    · have hb := hhigh b List.mem_cons_self
      rw [(List.cons_prefix_cons.1 h).1] at hx
      omega
    · exact ih (fun y hy => hhigh y (List.mem_cons_of_mem _ hy)) h

theorem infix_of_flatMap {pattern : List Char} (hne : pattern ≠ [])
    (hascii : ∀ c ∈ pattern, IsASCII c) {text : List Char}
    (h : pattern.flatMap String.utf8EncodeChar <:+: text.flatMap String.utf8EncodeChar) :
    pattern <:+: text := by
  obtain ⟨c, cs, rfl⟩ := List.exists_cons_of_ne_nil hne
  have hc : IsASCII c := hascii c List.mem_cons_self
  have hlt : (UInt8.ofNat c.toNat).toNat < 128 := by
    rw [ofNat_toNat_ascii hc]
    exact hc
  induction text with
  | nil => simp at h
  | cons d text ih =>
    have hskip : text <:+: d :: text := (List.suffix_cons d text).isInfix
    rw [List.flatMap_cons (x := d)] at h
    by_cases hd : IsASCII d
    · rw [utf8EncodeChar_ascii hd, List.singleton_append, List.infix_cons_iff] at h
      rcases h with h | h
      · have hstarts : (c :: cs).flatMap String.utf8EncodeChar <+:
            (d :: text).flatMap String.utf8EncodeChar := by
          rwa [List.flatMap_cons (x := d), utf8EncodeChar_ascii hd, List.singleton_append]
        exact (prefix_of_utf8 hascii hstarts).isInfix
      · exact (ih h).trans hskip
    · rw [List.flatMap_cons, utf8EncodeChar_ascii hc, List.singleton_append] at h ih
      exact (ih (infix_of_infix_append hlt (le_of_mem_utf8EncodeChar hd) h)).trans hskip

/-- **ASCII that occurs in the bytes of a text occurs in the text.** -/
theorem infix_of_utf8 {pattern text : String} (hne : pattern.toList ≠ [])
    (hascii : ∀ c ∈ pattern.toList, IsASCII c) (h : utf8 pattern <:+: utf8 text) :
    pattern.toList <:+: text.toList :=
  infix_of_flatMap hne hascii h

end Wire
