import ArtExhibition.Spec.Challenge

/-!
# The challenge loses nothing of the digest

The replacements turn the standard alphabet into the one for URLs and take the padding away
(`replaced_eq`), no character of which is trimmed. What the replacements did can be undone
(`restored_replaced`), and base64 gives the digest back: `challenge_lossless`.
-/

namespace ArtExhibition.AuthenticationViewModel

open Wire Wire.Base64

/-- Undo the substitutions and fill up the last group with padding. -/
def restored (text : List Char) : List Char :=
  (replacingOccurrences '_' ['/'] (replacingOccurrences '-' ['+'] text)) ++
    List.replicate ((4 - text.length % 4) % 4) pad

/-- Replacing a character by one other is a map. -/
theorem replacingOccurrences_singleton (target replacement : Char) (text : List Char) :
    replacingOccurrences target [replacement] text =
      text.map fun c => if c = target then replacement else c := by
  rw [replacingOccurrences, List.map_eq_flatMap]
  congr 1
  funext c
  split <;> rfl

/-- Replacing a character by nothing is a filter. -/
theorem replacingOccurrences_nil (target : Char) (text : List Char) :
    replacingOccurrences target [] text = text.filter (· ≠ target) := by
  induction text with
  | nil => rfl
  | cons c text ih =>
    rw [replacingOccurrences, List.flatMap_cons, ← replacingOccurrences, ih]
    by_cases h : c = target <;> simp [h]

/-- What the two substitutions make of a character, and what undoes them. -/
def substituted (c : Char) : Char :=
  let c := if c = '+' then '-' else c
  if c = '/' then '_' else c

def unsubstituted (c : Char) : Char :=
  let c := if c = '-' then '+' else c
  if c = '_' then '/' else c

theorem substituted_symbol (i : Fin 64) :
    substituted (Alphabet.standard.symbol i) = Alphabet.urlSafe.symbol i := by
  revert i
  decide +kernel

theorem unsubstituted_symbol (i : Fin 64) :
    unsubstituted (Alphabet.urlSafe.symbol i) = Alphabet.standard.symbol i := by
  revert i
  decide +kernel

/-- **The replacements** give the unpadded text over the alphabet for URLs. -/
theorem replaced_eq (hash : List UInt8) : replaced hash = encodeUnpadded .urlSafe hash := by
  have substitutions (text : List Char) : replacingOccurrences '/' ['_']
      (replacingOccurrences '+' ['-'] text) = text.map substituted := by
    rw [replacingOccurrences_singleton, replacingOccurrences_singleton, List.map_map]
    rfl
  have no_pad : ∀ c ∈ encodeUnpadded .urlSafe hash, decide (c ≠ '=') = true := by
    intro c hc
    obtain ⟨i, -, rfl⟩ := List.mem_map.mp hc
    exact decide_eq_true (Alphabet.urlSafe.symbol_ne_pad i)
  have symbols : (encodeUnpadded .standard hash).map substituted = encodeUnpadded .urlSafe hash := by
    rw [encodeUnpadded, List.map_map, encodeUnpadded]
    exact List.map_congr_left fun i _ => substituted_symbol i
  rw [replaced, substitutions, replacingOccurrences_nil, encode, List.map_append, symbols,
    List.filter_append, List.filter_eq_self.mpr no_pad, List.map_replicate]
  simp [pad, substituted]

theorem length_replaced (hash : List UInt8) : (replaced hash).length = (4 * hash.length + 2) / 3 := by
  rw [replaced_eq, encodeUnpadded, List.length_map, length_sextets]

theorem urlSafe_symbol (i : Fin 64) :
    let c := Alphabet.urlSafe.symbol i
    (c.isAlphanum ∨ c = '-' ∨ c = '_') ∧ c ∉ whitespaces := by
  revert i
  decide +kernel

theorem mem_replaced {hash : List UInt8} {c : Char} (h : c ∈ replaced hash) :
    (c.isAlphanum ∨ c = '-' ∨ c = '_') ∧ c ∉ whitespaces := by
  rw [replaced_eq] at h
  obtain ⟨i, -, rfl⟩ := List.mem_map.mp h
  exact urlSafe_symbol i

/-- There is nothing to trim from a text without the characters of the set. -/
theorem trimmingCharacters_of_notMem {set text : List Char} (h : ∀ c ∈ text, c ∉ set) :
    trimmingCharacters set text = text := by
  have front : text.dropWhile (· ∈ set) = text := by
    cases text with
    | nil => rfl
    | cons c text => rw [List.dropWhile_cons_of_neg (by simpa using h c List.mem_cons_self)]
  rw [trimmingCharacters, front, List.rdropWhile_eq_self_iff]
  exact fun ne => by simpa using h _ (List.getLast_mem ne)

/-- **Undoing the replacements** gives the base64 text back. -/
theorem restored_replaced (hash : List UInt8) : restored (replaced hash) = encode .standard hash := by
  have symbols : (encodeUnpadded .urlSafe hash).map unsubstituted = encodeUnpadded .standard hash := by
    rw [encodeUnpadded, List.map_map, encodeUnpadded]
    exact List.map_congr_left fun i _ => unsubstituted_symbol i
  have filled : (4 - (replaced hash).length % 4) % 4 = padding hash.length := by
    rw [replaced_eq, encodeUnpadded, List.length_map, fill_sextets]
  rw [restored, filled, replaced_eq, replacingOccurrences_singleton,
    replacingOccurrences_singleton, List.map_map, encode, ← symbols]
  rfl

theorem challenge_eq (CC_SHA256 : Bytes → Vector UInt8 32) (string : String) :
    (challenge CC_SHA256 string).toList = replaced (CC_SHA256 (utf8 string)).toList := by
  rw [challenge, dataUsingUTF8]
  dsimp only
  rw [String.toList_ofList, trimmingCharacters_of_notMem fun c hc => (mem_replaced hc).2]

/-- Different digests have different texts. -/
theorem replaced_injective {hash hash' : List UInt8} (h : replaced hash = replaced hash') :
    hash = hash' := by
  apply encode_injective .standard
  rw [← restored_replaced, h, restored_replaced]

/-- **The challenge loses nothing of the digest.** It is the unpadded base64url text of the
digest, forty-three characters that the trim leaves alone; undoing the substitutions and
restoring the padding makes it decode to the digest, so two texts have one challenge exactly
when they have one digest. -/
theorem challenge_lossless (CC_SHA256 : Bytes → Vector UInt8 32) (string : String) :
    let text := (challenge CC_SHA256 string).toList
    let digest := (CC_SHA256 (utf8 string)).toList
    text = encodeUnpadded .urlSafe digest ∧ text.length = 43 ∧
      (∀ c ∈ text, c.isAlphanum ∨ c = '-' ∨ c = '_') ∧
      decode .standard (restored text) = some digest ∧
      trimmingCharacters whitespaces (replaced digest) = replaced digest ∧
      ∀ string', challenge CC_SHA256 string = challenge CC_SHA256 string' ↔
        CC_SHA256 (utf8 string) = CC_SHA256 (utf8 string') := by
  extract_lets text digest
  have text_eq : text = replaced digest := challenge_eq CC_SHA256 string
  refine ⟨text_eq.trans (replaced_eq digest), ?_, ?_, ?_, ?_, fun string' => ⟨fun same => ?_, fun same => ?_⟩⟩
  · rw [text_eq, length_replaced, Vector.length_toList]
  · rw [text_eq]
    exact fun c hc => (mem_replaced hc).1
  · rw [text_eq, restored_replaced, decode_encode]
  · exact trimmingCharacters_of_notMem fun c hc => (mem_replaced hc).2
  · have := congrArg String.toList same
    rw [challenge_eq, challenge_eq] at this
    exact Vector.toList_inj.mp (replaced_injective this)
  · apply String.toList_injective
    rw [challenge_eq, challenge_eq, same]

end ArtExhibition.AuthenticationViewModel
