import Mathlib.Data.Nat.Find
import Mathlib.Order.Basic
import ArtExhibition.Machine.Results
import ArtExhibition.Spec.Nonce

/-!
# Nonces are exact and unbiased

A batch appends what the bytes below `charset.count` stand for until the length is reached
(`foldl_appendRandom`), so after any number of batches the result is told by the bytes read
(`nonceLoop_eq`). The loop ends with the first batch that brings enough of them, and the
characters give the accepted bytes back: `randomNonceString_exact`.
-/

namespace ArtExhibition.AuthenticationViewModel

open Machine

variable {letters : List Char}

/-- The bytes that stand for a character. -/
def accepted (letters : List Char) (bytes : List UInt8) : List UInt8 :=
  bytes.filter (·.toNat < letters.length)

/-- The characters of bytes; one that stands for none is dropped. -/
def characters (letters : List Char) (bytes : List UInt8) : List Char :=
  bytes.filterMap fun byte => letters[byte.toNat]?

/-- The first `count` bytes of a stream. -/
def firstBytes (stream : ℕ → UInt8) (count : ℕ) : List UInt8 :=
  (List.range count).map stream

theorem accepted_append (bytes bytes' : List UInt8) :
    accepted letters (bytes ++ bytes') = accepted letters bytes ++ accepted letters bytes' :=
  List.filter_append ..

theorem firstBytes_add (stream : ℕ → UInt8) (n m : ℕ) :
    firstBytes stream (n + m) =
      firstBytes stream n ++ (List.range m).map fun i => stream (n + i) := by
  simp [firstBytes, List.range_add, Function.comp_def]

theorem characters_append (bytes bytes' : List UInt8) :
    characters letters (bytes ++ bytes') =
      characters letters bytes ++ characters letters bytes' :=
  List.filterMap_append ..

/-- A batch appends the first accepted bytes' characters, as many as remain. -/
theorem foldl_appendRandom (bytes : List UInt8) (result : String) (remaining : ℕ) :
    let state := bytes.foldl (appendRandom letters) (result, remaining)
    state.1.toList =
        result.toList ++ characters letters ((accepted letters bytes).take remaining) ∧
      state.2 = remaining - (accepted letters bytes).length := by
  induction bytes generalizing result remaining with
  | nil => simp [accepted, characters]
  | cons byte bytes ih =>
    rw [List.foldl_cons]
    by_cases done : remaining = 0
    · subst done
      rw [appendRandom, if_pos rfl]
      obtain ⟨text, count⟩ := ih result 0
      exact ⟨by simpa [characters] using text, by simpa using count⟩
    by_cases accepts : byte.toNat < letters.length
    · rw [appendRandom, if_neg done, dif_pos accepts]
      obtain ⟨text, count⟩ := ih (result.push letters[byte.toNat]) (remaining - 1)
      obtain ⟨remaining, rfl⟩ := Nat.exists_eq_succ_of_ne_zero done
      refine ⟨text.trans ?_, count.trans ?_⟩
      · simp [accepted, characters, accepts, String.toList_push]
      · simp [accepted, accepts]
    · rw [appendRandom, if_neg done, dif_neg accepts]
      obtain ⟨text, count⟩ := ih result remaining
      exact ⟨by simpa [accepted, accepts] using text, by simpa [accepted, accepts] using count⟩

/-- A batch of a source that never fails. -/
theorem mapM_random (stream : ℕ → UInt8) (read : ℕ) :
    (List.range 16).mapM (fun i => random (fun call => .ok (stream call)) (read + i)) =
      .ok ((List.range 16).map fun i => stream (read + i)) :=
  mapM_ok fun _ _ => rfl

/-- **After any number of batches**, the result is the characters of the first accepted bytes
read; with batches enough to bring `length` of them to come, the loop ends there. -/
theorem nonceLoop_eq {stream : ℕ → UInt8} {length : ℕ} {batches : ℕ}
    (enough : length ≤ (accepted letters (firstBytes stream (16 * batches))).length)
    (least : ∀ k < batches, (accepted letters (firstBytes stream (16 * k))).length < length)
    {k : ℕ} (hk : k ≤ batches) {fuel : ℕ} (hfuel : batches ≤ k + fuel) {result : String}
    (text : result.toList =
      characters letters ((accepted letters (firstBytes stream (16 * k))).take length)) :
    ∃ nonce, nonceLoop letters (fun call => .ok (stream call)) fuel
        (result, length - (accepted letters (firstBytes stream (16 * k))).length) (16 * k) =
          .ok (some (nonce, 16 * batches)) ∧
      nonce.toList =
        characters letters ((accepted letters (firstBytes stream (16 * batches))).take length) := by
  induction fuel generalizing k result with
  | zero =>
    have : k = batches := by omega
    subst this
    rw [nonceLoop, if_pos (by omega)]
    exact ⟨result, rfl, text⟩
  | succ fuel ih =>
    rcases Nat.eq_or_lt_of_le hk with rfl | lt
    · rw [nonceLoop, if_pos (by omega)]
      exact ⟨result, rfl, text⟩
    have short := least k lt
    rw [nonceLoop, if_neg (by omega), mapM_random, ok_bind]
    set batch := (List.range 16).map fun i => stream (16 * k + i)
    obtain ⟨text', count⟩ := @foldl_appendRandom letters batch result
      (length - (accepted letters (firstBytes stream (16 * k))).length)
    generalize batch.foldl (appendRandom letters) _ = state at text' count ⊢
    obtain ⟨result', remaining⟩ := state
    have next : accepted letters (firstBytes stream (16 * (k + 1))) =
        accepted letters (firstBytes stream (16 * k)) ++ accepted letters batch := by
      rw [Nat.mul_succ, firstBytes_add, accepted_append]
    have ended := @ih (k + 1) (by omega) (by omega) result'
      (by rw [text', text, next, List.take_append, characters_append])
    rwa [next, List.length_append, ← Nat.sub_sub, ← count, Nat.mul_succ] at ended

/-- Which characters a character set maps its bytes to: all of them distinct. -/
theorem charset_nodup (includesSpecialCharaters : Bool) :
    (AuthenticationViewModel.charset includesSpecialCharaters).Nodup := by
  cases includesSpecialCharaters <;> decide

theorem characters_cons {byte : UInt8} (h : byte.toNat < letters.length) (bytes : List UInt8) :
    characters letters (byte :: bytes) = letters[byte.toNat] :: characters letters bytes := by
  simp [characters, h]

/-- Distinct bytes stand for distinct characters. -/
theorem byte_injective (nodup : letters.Nodup) {byte byte' : UInt8}
    (h : byte.toNat < letters.length) (same : letters[byte.toNat]? = letters[byte'.toNat]?) :
    byte = byte' :=
  UInt8.toNat_inj.mp ((List.getElem?_inj h nodup).mp same)

/-- Distinct sequences of accepted bytes stand for distinct texts. -/
theorem bytes_injective (nodup : letters.Nodup) {bytes bytes' : List UInt8}
    (h : ∀ byte ∈ bytes, byte.toNat < letters.length)
    (same : bytes.map (fun byte => letters[byte.toNat]?) =
      bytes'.map fun byte => letters[byte.toNat]?) : bytes = bytes' := by
  induction bytes generalizing bytes' with
  | nil => exact (List.map_eq_nil_iff.mp same.symm).symm
  | cons byte bytes ih =>
    obtain ⟨hb, h⟩ := List.forall_mem_cons.mp h
    cases bytes' with
    | nil => cases same
    | cons byte' bytes' =>
      obtain ⟨same_head, same⟩ := List.cons_eq_cons.mp same
      rw [byte_injective nodup hb same_head, ih h same]

/-- More bytes read bring no fewer accepted ones. -/
theorem accepted_length_mono (stream : ℕ → UInt8) {n m : ℕ} (h : n ≤ m) :
    (accepted letters (firstBytes stream n)).length ≤
      (accepted letters (firstBytes stream m)).length := by
  obtain ⟨k, rfl⟩ := Nat.exists_eq_add_of_le h
  rw [firstBytes_add, accepted_append, List.length_append]
  exact Nat.le_add_right _ _

/-- The loop from the start: it ends with the first batch that brings enough bytes. -/
theorem randomNonceString_eq {stream : ℕ → UInt8} {length : ℕ} (pos : 0 < length)
    (includesSpecialCharaters : Bool) {batches : ℕ}
    (enough : length ≤
      (accepted (charset includesSpecialCharaters) (firstBytes stream (16 * batches))).length)
    (least : ∀ k < batches,
      (accepted (charset includesSpecialCharaters) (firstBytes stream (16 * k))).length < length) :
    ∃ nonce, nonce.toList = characters (charset includesSpecialCharaters)
        ((accepted (charset includesSpecialCharaters) (firstBytes stream (16 * batches))).take length) ∧
      ∀ fuel ≥ batches,
        randomNonceString fuel (fun call => .ok (stream call)) length includesSpecialCharaters =
          .ok (some (nonce, 16 * batches)) := by
  have from_start : ∀ fuel ≥ batches, ∃ nonce,
      randomNonceString fuel (fun call => .ok (stream call)) length includesSpecialCharaters =
          .ok (some (nonce, 16 * batches)) ∧
        nonce.toList = characters (charset includesSpecialCharaters) ((accepted
          (charset includesSpecialCharaters) (firstBytes stream (16 * batches))).take length) := by
    intro fuel hfuel
    rw [randomNonceString, if_pos (by omega)]
    exact nonceLoop_eq enough least (Nat.zero_le _) (by omega) (by simp [firstBytes, accepted, characters])
  obtain ⟨nonce, -, text⟩ := from_start batches (le_refl _)
  refine ⟨nonce, text, fun fuel hfuel => ?_⟩
  obtain ⟨nonce', returned, text'⟩ := from_start fuel hfuel
  rwa [String.toList_injective (text'.trans text.symm)] at returned

/-- On accepted bytes the characters are read off the character set. -/
theorem map_some_characters {bytes : List UInt8} (h : ∀ byte ∈ bytes, byte.toNat < letters.length) :
    (characters letters bytes).map some = bytes.map fun byte => letters[byte.toNat]? := by
  induction bytes with
  | nil => rfl
  | cons byte bytes ih =>
    obtain ⟨hb, h⟩ := List.forall_mem_cons.mp h
    rw [characters_cons hb, List.map_cons, List.map_cons, ih h, List.getElem?_eq_getElem hb]

theorem mem_accepted {bytes : List UInt8} {byte : UInt8} {n : ℕ}
    (h : byte ∈ (accepted letters bytes).take n) : byte.toNat < letters.length :=
  of_decide_eq_true (List.mem_filter.mp (List.mem_of_mem_take h)).2

/-- **Nonces are exact and unbiased.** When a stream holds `length` bytes below
`charset.count`, the loop ends, for every fuel from some on; it has read the smallest multiple
of 16 bytes that holds them, and the nonce is their characters in order. Distinct accepted
bytes stand for distinct characters, so just one sequence of accepted bytes gives it. -/
theorem randomNonceString_exact (stream : ℕ → UInt8) {length : ℕ} (pos : 0 < length)
    (includesSpecialCharaters : Bool)
    (holds_ : ∃ count,
      length ≤ ((firstBytes stream count).filter
        (·.toNat < (charset includesSpecialCharaters).length)).length) :
    let accepts (byte : UInt8) := byte.toNat < (charset includesSpecialCharaters).length
    let character (byte : UInt8) := (charset includesSpecialCharaters)[byte.toNat]?
    ∃ read nonce,
      (∃ enough, ∀ fuel ≥ enough,
        randomNonceString fuel (fun call => .ok (stream call)) length includesSpecialCharaters =
          .ok (some (nonce, read))) ∧
      nonce.toList.map some = (((firstBytes stream read).filter accepts).take length).map character ∧
      nonce.length = length ∧
      16 ∣ read ∧ length ≤ ((firstBytes stream read).filter accepts).length ∧
      (∀ fewer, 16 ∣ fewer → length ≤ ((firstBytes stream fewer).filter accepts).length →
        read ≤ fewer) ∧
      (∀ byte byte', accepts byte → accepts byte' → character byte = character byte' →
        byte = byte') ∧
      ∃! bytes : List UInt8, (∀ byte ∈ bytes, accepts byte) ∧ bytes.length = length ∧
        nonce.toList.map some = bytes.map character := by
  extract_lets accepts character
  have enough_batches : ∃ k, length ≤ (accepted (charset includesSpecialCharaters)
      (firstBytes stream (16 * k))).length := by
    obtain ⟨count, h⟩ := holds_
    exact ⟨count, le_trans h (accepted_length_mono stream (by omega))⟩
  -- the batch that brings the last byte needed
  let batches := Nat.find enough_batches
  have enough := Nat.find_spec enough_batches
  have nodup := charset_nodup includesSpecialCharaters
  obtain ⟨nonce, text, returned⟩ := randomNonceString_eq pos includesSpecialCharaters enough
    fun k hk => not_le.mp (Nat.find_min enough_batches hk)
  set taken := (accepted (charset includesSpecialCharaters)
    (firstBytes stream (16 * batches))).take length
  have all_accepted : ∀ byte ∈ taken, accepts byte := fun byte hb => mem_accepted hb
  have taken_length : taken.length = length := by
    rw [List.length_take]
    exact min_eq_left enough
  have chars : nonce.toList.map some = taken.map character := by
    rw [text]
    exact map_some_characters all_accepted
  have only : ∀ bytes : List UInt8, ((∀ byte ∈ bytes, accepts byte) ∧ bytes.length = length ∧
      nonce.toList.map some = bytes.map character) → bytes = taken :=
    fun bytes ⟨h, _, same⟩ => bytes_injective nodup h (same.symm.trans chars)
  refine ⟨16 * batches, nonce, ⟨batches, returned⟩, chars, ?_, ⟨batches, rfl⟩, enough, ?_,
    fun byte byte' h _ same => byte_injective nodup h same,
    taken, ⟨all_accepted, taken_length, chars⟩, only⟩
  · rw [← String.length_toList, ← List.length_map some, chars, List.length_map, taken_length]
  · rintro _ ⟨k, rfl⟩ holds_
    exact Nat.mul_le_mul_left 16 (Nat.find_min' enough_batches holds_)

/-- Three characters from a stream that counts up from 60: one byte is below 61, then 195 are
not, and the next two come after 256 wraps round. -/
theorem randomNonceString_exact_wrapping :
    ∃ read nonce, nonce.length = 3 ∧ ∃ enough, ∀ fuel ≥ enough,
      randomNonceString fuel (fun call => .ok (UInt8.ofNat (call + 60))) 3 false =
        .ok (some (nonce, read)) := by
  obtain ⟨read, nonce, ends, -, count, -⟩ :=
    randomNonceString_exact (fun call => UInt8.ofNat (call + 60)) (by decide : 0 < 3) false
      ⟨256, by decide +kernel⟩
  exact ⟨read, nonce, count, ends⟩

end ArtExhibition.AuthenticationViewModel
