import Mathlib.Data.Fintype.Basic
import Mathlib.Data.List.Basic
import Mathlib.Tactic.Common

/-!
# Base64

Three bytes are four values of six bits (`sextets`); a group of one or two bytes at the end
is two or three, the missing bits zero. An `Alphabet` gives each value its character, and
padding fills the last group up to four (`encode`). `decode_encode` reads the bytes back,
over every alphabet.
-/

namespace Wire.Base64

/-! ## Bytes as values of six bits -/

def sextets : List UInt8 → List (Fin 64)
  | a :: b :: c :: rest =>
    .ofNat 64 (a.toNat / 4) :: .ofNat 64 (a.toNat % 4 * 16 + b.toNat / 16) ::
      .ofNat 64 (b.toNat % 16 * 4 + c.toNat / 64) :: .ofNat 64 (c.toNat % 64) :: sextets rest
  | [a, b] =>
    [.ofNat 64 (a.toNat / 4), .ofNat 64 (a.toNat % 4 * 16 + b.toNat / 16),
      .ofNat 64 (b.toNat % 16 * 4)]
  | [a] => [.ofNat 64 (a.toNat / 4), .ofNat 64 (a.toNat % 4 * 16)]
  | [] => []

/-- The first, second and third byte of a group of values. -/
def byte₁ (w x : Fin 64) : UInt8 := .ofNat (w.val * 4 + x.val / 16)
def byte₂ (x y : Fin 64) : UInt8 := .ofNat (x.val % 16 * 16 + y.val / 4)
def byte₃ (y z : Fin 64) : UInt8 := .ofNat (y.val % 4 * 64 + z.val)

theorem byte₁_sextets (a : UInt8) (b : ℕ) (hb : b < 256) :
    byte₁ (.ofNat 64 (a.toNat / 4)) (.ofNat 64 (a.toNat % 4 * 16 + b / 16)) = a := by
  have := a.toNat_lt
  apply UInt8.toNat_inj.mp
  simp only [byte₁, Fin.val_ofNat, UInt8.toNat_ofNat']
  omega

theorem byte₂_sextets (a b : UInt8) (c : ℕ) (hc : c < 256) :
    byte₂ (.ofNat 64 (a.toNat % 4 * 16 + b.toNat / 16)) (.ofNat 64 (b.toNat % 16 * 4 + c / 64)) =
      b := by
  have := b.toNat_lt
  apply UInt8.toNat_inj.mp
  simp only [byte₂, Fin.val_ofNat, UInt8.toNat_ofNat']
  omega

theorem byte₃_sextets (b c : UInt8) :
    byte₃ (.ofNat 64 (b.toNat % 16 * 4 + c.toNat / 64)) (.ofNat 64 (c.toNat % 64)) = c := by
  have := c.toNat_lt
  apply UInt8.toNat_inj.mp
  simp only [byte₃, Fin.val_ofNat, UInt8.toNat_ofNat']
  omega

/-- How many characters fill up the last group. -/
def padding (count : ℕ) : ℕ := (3 - count % 3) % 3

theorem length_sextets (bytes : List UInt8) :
    (sextets bytes).length = (4 * bytes.length + 2) / 3 := by
  induction bytes using sextets.induct with
  | case1 a b c rest ih =>
    simp only [sextets, List.length_cons, ih]
    omega
  | case2 a b => simp [sextets]
  | case3 a => simp [sextets]
  | case4 => rfl

/-- The padding fills the last group up. -/
theorem fill_sextets (bytes : List UInt8) :
    (4 - (sextets bytes).length % 4) % 4 = padding bytes.length := by
  induction bytes using sextets.induct with
  | case1 a b c rest ih =>
    simp only [sextets, padding, List.length_cons] at ih ⊢
    omega
  | case2 a b => simp [sextets, padding]
  | case3 a => simp [sextets, padding]
  | case4 => rfl

/-! ## The text -/

def pad : Char := '='

/-- A character for each value of six bits, none of them the padding, and the value of a
character. -/
structure Alphabet where
  symbol : Fin 64 → Char
  value : Char → Option (Fin 64)
  value_symbol : ∀ i, value (symbol i) = some i
  symbol_ne_pad : ∀ i, symbol i ≠ pad

namespace Alphabet

/-- Sixty-four distinct characters in the order of their values. -/
def ofList (characters : List Char) (count : characters.length = 64) (nodup : characters.Nodup)
    (no_pad : pad ∉ characters) : Alphabet where
  symbol i := characters.get (i.cast count.symm)
  value c := if h : characters.idxOf c < 64 then some ⟨characters.idxOf c, h⟩ else none
  value_symbol i := by
    have h : characters.idxOf (characters.get (i.cast count.symm)) = i.val := by
      rw [List.get_eq_getElem, List.Nodup.idxOf_getElem nodup]
      rfl
    rw [dif_pos (h ▸ i.isLt)]
    exact congrArg some (Fin.ext h)
  symbol_ne_pad i same := no_pad (same ▸ List.get_mem _ _)

/-- The base64 alphabet. -/
def standard : Alphabet :=
  ofList "ABCDEFGHIJKLMNOPQRSTUVWXYZabcdefghijklmnopqrstuvwxyz0123456789+/".toList (by decide)
    (by decide +kernel) (by decide +kernel)

/-- The alphabet that is safe in URLs and file names. -/
def urlSafe : Alphabet :=
  ofList "ABCDEFGHIJKLMNOPQRSTUVWXYZabcdefghijklmnopqrstuvwxyz0123456789-_".toList (by decide)
    (by decide +kernel) (by decide +kernel)

end Alphabet

variable (alphabet : Alphabet)

/-- Without padding. -/
def encodeUnpadded (bytes : List UInt8) : List Char := (sextets bytes).map alphabet.symbol

def encode (bytes : List UInt8) : List Char :=
  encodeUnpadded alphabet bytes ++ List.replicate (padding bytes.length) pad

def decode : List Char → Option (List UInt8)
  | [] => some []
  | [w, x, y, z] => do
    let w ← alphabet.value w
    let x ← alphabet.value x
    if z = pad then
      if y = pad then
        some [byte₁ w x]
      else
        let y ← alphabet.value y
        some [byte₁ w x, byte₂ x y]
    else
      let y ← alphabet.value y
      let z ← alphabet.value z
      some [byte₁ w x, byte₂ x y, byte₃ y z]
  | w :: x :: y :: z :: rest => do
    let w ← alphabet.value w
    let x ← alphabet.value x
    let y ← alphabet.value y
    let z ← alphabet.value z
    let bytes ← decode rest
    some (byte₁ w x :: byte₂ x y :: byte₃ y z :: bytes)
  | _ => none

@[simp] theorem encode_nil : encode alphabet [] = [] := rfl

theorem encode_cons (a b c : UInt8) (rest : List UInt8) :
    encode alphabet (a :: b :: c :: rest) =
      (sextets [a, b, c]).map alphabet.symbol ++ encode alphabet rest := by
  have : padding (rest.length + 3) = padding rest.length := by simp [padding]
  simp [encode, encodeUnpadded, sextets, this]

/-- A full group of characters, whatever follows. -/
theorem decode_full (w x y z : Fin 64) {rest : List Char} {bytes : List UInt8}
    (h : decode alphabet rest = some bytes) :
    decode alphabet (alphabet.symbol w :: alphabet.symbol x :: alphabet.symbol y ::
      alphabet.symbol z :: rest) = some (byte₁ w x :: byte₂ x y :: byte₃ y z :: bytes) := by
  cases rest with
  | nil =>
    cases h
    simp [decode, alphabet.value_symbol, alphabet.symbol_ne_pad]
  | cons c rest => simp [decode, alphabet.value_symbol, h]

/-- **Decoding gives the bytes back.** -/
theorem decode_encode (bytes : List UInt8) : decode alphabet (encode alphabet bytes) = some bytes := by
  induction bytes using sextets.induct with
  | case1 a b c rest ih =>
    rw [encode_cons]
    refine (decode_full alphabet _ _ _ _ ih).trans ?_
    rw [byte₁_sextets a b.toNat b.toNat_lt, byte₂_sextets a b c.toNat c.toNat_lt,
      byte₃_sextets b c]
  | case2 a b =>
    have first := byte₁_sextets a b.toNat b.toNat_lt
    have second := byte₂_sextets a b 0 (by decide)
    simp_all [encode, encodeUnpadded, sextets, padding, decode, alphabet.value_symbol,
      alphabet.symbol_ne_pad]
  | case3 a =>
    have first := byte₁_sextets a 0 (by decide)
    simp_all [encode, encodeUnpadded, sextets, padding, decode, alphabet.value_symbol]
  | case4 => rfl

theorem encode_injective {bytes bytes' : List UInt8}
    (h : encode alphabet bytes = encode alphabet bytes') : bytes = bytes' := by
  have := decode_encode alphabet bytes
  rw [h, decode_encode] at this
  exact (Option.some.inj this).symm

end Wire.Base64
