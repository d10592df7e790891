import ArtExhibition.Wire.Bytes
import Mathlib.Data.List.TakeWhile

/-!
# Percent-encoding

A text is percent-encoded with a set of characters that stand for themselves; every other
character becomes the percent-encoding of its UTF-8 bytes. Decoding gives the bytes back
(`percentDecode_encode`), whatever the set. Encoding changes a text exactly when it has a
character outside the set (`addingPercentEncoding_eq_iff`).

A query is a list of fields joined by `&`, each a name with or without `=` and a value, and
both percent-encoded. It is read by splitting and decoding once (`parseQuery_printQuery`).
-/

namespace Wire

/-! ## Hexadecimal digits -/

/-- The upper-case digit of a number below 16. -/
def hexDigit (n : ℕ) : Char := if n < 10 then Char.ofNat (48 + n) else Char.ofNat (55 + n)

def hexValue (c : Char) : Option ℕ :=
  if '0' ≤ c ∧ c ≤ '9' then some (c.toNat - 48)
  else if 'A' ≤ c ∧ c ≤ 'F' then some (c.toNat - 55)
  else if 'a' ≤ c ∧ c ≤ 'f' then some (c.toNat - 87)
  else none

theorem hexValue_hexDigit {n : ℕ} (h : n < 16) : hexValue (hexDigit n) = some n := by
  have hall : ∀ m : Fin 16, hexValue (hexDigit m) = some m.val := by decide
  exact hall ⟨n, h⟩

/-! ## Encoding and decoding -/

/-- A set of characters that stand for themselves. -/
structure CharacterSet where
  allowed : Char → Bool
  percent : allowed '%' = false

def percentByte (b : UInt8) : List Char := ['%', hexDigit (b.toNat / 16), hexDigit (b.toNat % 16)]

def percentEncodeChar (set : CharacterSet) (c : Char) : List Char :=
  if set.allowed c then [c] else (String.utf8EncodeChar c).flatMap percentByte

def percentEncode (set : CharacterSet) (text : List Char) : List Char :=
  text.flatMap (percentEncodeChar set)

/-- The bytes that a percent-encoded text stands for; a `%` without two digits stands for itself. -/
def percentDecode : List Char → Bytes
  | '%' :: a :: b :: rest =>
    match hexValue a, hexValue b with
    | some x, some y => UInt8.ofNat (16 * x + y) :: percentDecode rest
    | _, _ => String.utf8EncodeChar '%' ++ percentDecode (a :: b :: rest)
  | c :: rest => String.utf8EncodeChar c ++ percentDecode rest
  | [] => []

theorem percentDecode_percentByte (b : UInt8) (rest : List Char) :
    percentDecode (percentByte b ++ rest) = b :: percentDecode rest := by
  have hb : b.toNat < 256 := UInt8.toNat_lt b
  have hhigh : hexValue (hexDigit (b.toNat / 16)) = some (b.toNat / 16) := hexValue_hexDigit (by omega)
  have hlow : hexValue (hexDigit (b.toNat % 16)) = some (b.toNat % 16) := hexValue_hexDigit (by omega)
  have hbyte : UInt8.ofNat (16 * (b.toNat / 16) + b.toNat % 16) = b := by
    rw [Nat.div_add_mod]
    exact UInt8.ofNat_toNat
  simp only [percentByte, List.cons_append, List.nil_append, percentDecode, hhigh, hlow, hbyte]

theorem percentDecode_percentBytes (bytes : Bytes) (rest : List Char) :
    percentDecode (bytes.flatMap percentByte ++ rest) = bytes ++ percentDecode rest := by
  induction bytes with
  | nil => rfl
  | cons b bytes ih =>
    rw [List.flatMap_cons, List.append_assoc, percentDecode_percentByte, ih, List.cons_append]

theorem percentDecode_cons {c : Char} (hc : c ≠ '%') (rest : List Char) :
    percentDecode (c :: rest) = String.utf8EncodeChar c ++ percentDecode rest := by
  rw [percentDecode]
  intro a b rest' h
  exact absurd h hc

/-- **Decoding undoes encoding**, with any set. -/
theorem percentDecode_encode (set : CharacterSet) (text rest : List Char) :
    percentDecode (percentEncode set text ++ rest) =
      text.flatMap String.utf8EncodeChar ++ percentDecode rest := by
  unfold percentEncode
  induction text with
  | nil => rfl
  | cons c text ih =>
    rw [List.flatMap_cons, List.flatMap_cons, List.append_assoc, List.append_assoc, percentEncodeChar]
    by_cases hc : set.allowed c
    · have hpercent : c ≠ '%' := by
        rintro rfl
        rw [set.percent] at hc
        cases hc
      rw [if_pos hc, List.singleton_append, percentDecode_cons hpercent, ih]
    · rw [if_neg hc, percentDecode_percentBytes, ih]

/-- A text percent-encoded with `set`. -/
def addingPercentEncoding (set : CharacterSet) (text : String) : String :=
  String.ofList (percentEncode set text.toList)

/-- The text whose UTF-8 bytes a percent-encoded text stands for. -/
def removingPercentEncoding (text : String) : Option String := text? (percentDecode text.toList)

theorem percentDecode_adding (set : CharacterSet) (text : String) :
    percentDecode (addingPercentEncoding set text).toList = utf8 text := by
  have h := percentDecode_encode set text.toList []
  rwa [List.append_nil, percentDecode, List.append_nil, ← String.toList_ofList (l := percentEncode _ _)] at h

theorem removing_adding (set : CharacterSet) (text : String) :
    removingPercentEncoding (addingPercentEncoding set text) = some text := by
  rw [removingPercentEncoding, percentDecode_adding, text?_utf8]

/-! ## What encoding leaves alone -/

theorem length_percentEncode (set : CharacterSet) (text : List Char) :
    text.length ≤ (percentEncode set text).length ∧
    ((percentEncode set text).length = text.length → ∀ c ∈ text, set.allowed c = true) := by
  unfold percentEncode
  induction text with
  | nil => simp
  | cons c text ih =>
    rw [List.flatMap_cons, List.length_append, List.length_cons, percentEncodeChar]
    by_cases hc : set.allowed c
    · rw [if_pos hc, List.length_singleton]
      refine ⟨by omega, fun h => ?_⟩
      intro d hd
      rcases List.mem_cons.1 hd with rfl | hd
      · exact hc
      · exact ih.2 (by omega) d hd
    · obtain ⟨b, bs, hbs⟩ := List.exists_cons_of_ne_nil (String.utf8EncodeChar_ne_nil (c := c))
      -- a byte alone is three characters long
      have hlong : 3 ≤ ((String.utf8EncodeChar c).flatMap percentByte).length := by
        rw [hbs, List.flatMap_cons, List.length_append]
        exact Nat.le_add_right 3 _
      rw [if_neg hc]
      exact ⟨by omega, fun h => by omega⟩

theorem percentEncode_of_allowed {set : CharacterSet} {text : List Char}
    (h : ∀ c ∈ text, set.allowed c = true) : percentEncode set text = text := by
  unfold percentEncode
  induction text with
  | nil => rfl
  | cons c text ih =>
    rw [List.flatMap_cons, percentEncodeChar, if_pos (h c List.mem_cons_self),
      ih fun d hd => h d (List.mem_cons_of_mem _ hd), List.singleton_append]

/-- **Encoding leaves a text alone** exactly when all its characters are in the set. -/
theorem addingPercentEncoding_eq_iff (set : CharacterSet) (text : String) :
    addingPercentEncoding set text = text ↔ ∀ c ∈ text.toList, set.allowed c = true := by
  constructor
  · intro h
    refine (length_percentEncode set text.toList).2 (congrArg List.length ?_)
    have hlist := congrArg String.toList h
    rwa [addingPercentEncoding, String.toList_ofList] at hlist
  · intro h
    rw [addingPercentEncoding, percentEncode_of_allowed h, String.ofList_toList]

/-- Characters that stand for themselves are at the start of the encoding when they start the text. -/
theorem prefix_percentEncode_iff {set : CharacterSet} {pattern : List Char}
    (hpattern : ∀ c ∈ pattern, set.allowed c = true) {text : List Char} :
    pattern <+: percentEncode set text ↔ pattern <+: text := by
  induction pattern generalizing text with
  | nil => simp
  | cons c pattern ih =>
    have hc : set.allowed c = true := hpattern c List.mem_cons_self
    cases text with
    | nil => simp [percentEncode]
    | cons d text =>
      have hcons : percentEncode set (d :: text) = percentEncodeChar set d ++ percentEncode set text :=
        List.flatMap_cons
      rw [hcons, percentEncodeChar]
      by_cases hd : set.allowed d
      · rw [if_pos hd, List.singleton_append, List.cons_prefix_cons, List.cons_prefix_cons,
          ih fun x hx => hpattern x (List.mem_cons_of_mem _ hx)]
      · -- the encoding of `d` starts with `%`
        obtain ⟨b, bs, hbs⟩ := List.exists_cons_of_ne_nil (String.utf8EncodeChar_ne_nil (c := d))
        have hpercent : c ≠ '%' := by
          rintro rfl
          rw [set.percent] at hc
          cases hc
        have hne : c ≠ d := by
          rintro rfl
          exact hd hc
        rw [if_neg hd, hbs, List.flatMap_cons, percentByte, List.cons_append, List.cons_append,
          List.cons_prefix_cons, List.cons_prefix_cons]
        simp [hpercent, hne]

theorem percentEncode_eq_nil_iff {set : CharacterSet} {text : List Char} :
    percentEncode set text = [] ↔ text = [] := by
  constructor
  · intro h
    have hlength := (length_percentEncode set text).1
    rw [h] at hlength
    exact List.eq_nil_of_length_eq_zero (Nat.le_zero.1 hlength)
  · rintro rfl
    rfl

/-! ## Queries -/

/-- The characters that stand for themselves in a name or a value of a query. -/
structure QuerySet extends CharacterSet where
  ampersand : allowed '&' = false
  equals : allowed '=' = false

/-- A field of a query: its name and its value, if it has one. -/
abbrev QueryField := String × Option String

def printField (set : QuerySet) : QueryField → List Char
  | (name, some value) =>
    percentEncode set.toCharacterSet name.toList ++ '=' :: percentEncode set.toCharacterSet value.toList
  | (name, none) => percentEncode set.toCharacterSet name.toList

def printQuery (set : QuerySet) (fields : List QueryField) : List Char :=
  ['&'].intercalate (fields.map (printField set))

/-- The bytes of the name and of the value of a field: split at the first `=`, then decoded. -/
def parseField (field : List Char) : Bytes × Option Bytes :=
  match field.dropWhile (· ≠ '=') with
  | [] => (percentDecode field, none)
  | _ :: value => (percentDecode (field.takeWhile (· ≠ '=')), some (percentDecode value))

/-- The fields of a query; an empty query has none. -/
def parseQuery (query : List Char) : List (Bytes × Option Bytes) :=
  if query = [] then [] else (query.splitOn '&').map parseField

/-- A separator outside the set does not occur in an encoded text. -/
theorem not_mem_percentEncode {set : CharacterSet} {x : Char} (hx : set.allowed x = false)
    (hdigits : x ≠ '%' ∧ ∀ n : Fin 16, x ≠ hexDigit n) (text : List Char) : x ∉ percentEncode set text := by
  intro hmem
  obtain ⟨c, -, hc⟩ := List.mem_flatMap.1 hmem
  unfold percentEncodeChar at hc
  split at hc
  · rename_i hallowed
    rw [List.mem_singleton.1 hc, hallowed] at hx
    cases hx
  · obtain ⟨b, -, hb⟩ := List.mem_flatMap.1 hc
    have hlt : b.toNat < 256 := UInt8.toNat_lt b
    simp only [percentByte, List.mem_cons, List.not_mem_nil, or_false] at hb
    rcases hb with hb | hb | hb
    · exact hdigits.1 hb
    · exact hdigits.2 ⟨b.toNat / 16, by omega⟩ hb
    · exact hdigits.2 ⟨b.toNat % 16, by omega⟩ hb

theorem equals_not_mem (set : QuerySet) (text : List Char) :
    '=' ∉ percentEncode set.toCharacterSet text :=
  not_mem_percentEncode set.equals ⟨by decide, by decide⟩ text

theorem ampersand_not_mem (set : QuerySet) (field : QueryField) : '&' ∉ printField set field := by
  have hnot := not_mem_percentEncode set.ampersand ⟨by decide, by decide⟩
  rcases field with ⟨name, - | value⟩
  · exact hnot name.toList
  · intro hmem
    rcases List.mem_append.1 hmem with h | h
    · exact hnot name.toList h
    · rcases List.mem_cons.1 h with h | h
      · exact absurd h (by decide)
      · exact hnot value.toList h

theorem percentDecode_percentEncode (set : CharacterSet) (text : String) :
    percentDecode (percentEncode set text.toList) = utf8 text := by
  rw [← percentDecode_adding set text, addingPercentEncoding, String.toList_ofList]

theorem parseField_printField (set : QuerySet) (field : QueryField) :
    parseField (printField set field) = (utf8 field.1, field.2.map utf8) := by
  rcases field with ⟨name, - | value⟩
  · have hnone : (percentEncode set.toCharacterSet name.toList).dropWhile (· ≠ '=') = [] := by
      rw [List.dropWhile_eq_nil_iff]
      intro c hc
      have hne : c ≠ '=' := fun h => equals_not_mem set name.toList (h ▸ hc)
      simpa using hne
    rw [printField, parseField, hnone]
    simp only [percentDecode_percentEncode, Option.map_none]
  · have hall : ∀ c ∈ percentEncode set.toCharacterSet name.toList, decide (c ≠ '=') = true := by
      intro c hc
      have hne : c ≠ '=' := fun h => equals_not_mem set name.toList (h ▸ hc)
      simpa using hne
    rw [printField, parseField, List.dropWhile_append_of_pos hall, List.takeWhile_append_of_pos hall]
    simp [percentDecode_percentEncode]

/-- **Reading a printed query**: its fields, decoded once. -/
theorem parseQuery_printQuery (set : QuerySet) {fields : List QueryField}
    (hvalues : ∀ field ∈ fields, field.2.isSome) :
    parseQuery (printQuery set fields) = fields.map fun field => (utf8 field.1, field.2.map utf8) := by
  cases fields with
  | nil => rfl
  | cons field fields =>
    have hsplit : (printQuery set (field :: fields)).splitOn '&' = (field :: fields).map (printField set) := by
      refine List.splitOn_intercalate _ ?_ (by simp)
      intro l hl
      obtain ⟨f, -, rfl⟩ := List.mem_map.1 hl
      exact ampersand_not_mem set f
    -- a field with a value is not empty, so neither is the query
    have hne : printQuery set (field :: fields) ≠ [] := by
      intro h
      rw [h, List.splitOn_nil, List.map_cons] at hsplit
      obtain ⟨name, - | value⟩ := field
      · exact absurd (hvalues _ List.mem_cons_self) (by simp)
      · simp [printField] at hsplit
    rw [parseQuery, if_neg hne, hsplit, List.map_map]
    exact List.map_congr_left fun f _ => parseField_printField set f

end Wire
