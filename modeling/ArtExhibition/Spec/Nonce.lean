import Mathlib.Data.List.Basic

/-!
# Nonces

`AuthenticationViewModel.randomNonceString`. The bytes come from `SecRandomCopyBytes`, one a
call; its calls are numbered, and the loop says how many it has made. What its `while` needs
of rounds is a fuel.
-/

namespace ArtExhibition

inductive NonceTrap
  | preconditionFailed
  | fatalError (message : String)
  deriving DecidableEq, Repr

/-- What the calls of `SecRandomCopyBytes` bring: a byte, or an error code. -/
abbrev RandomSource := ℕ → Except Int UInt8

namespace AuthenticationViewModel

def charset (includesSpecialCharaters : Bool) : List Char :=
  if includesSpecialCharaters then
    "0123456789ABCDEFGHIJKLMNOPQRSTUVXYZabcdefghijklmnopqrstuvwxyz-._".toList
  else
    "0123456789ABCDEFGHIJKLMNOPQRSTUVXYZabcdefghijklmnopqrstuvwxyz".toList

/-- One byte of a batch, from the call with number `call`. -/
def random (source : RandomSource) (call : ℕ) : Except NonceTrap UInt8 :=
  match source call with
  | .ok random => .ok random
  | .error errorCode => .error (.fatalError
      s!"Unable to generate nonce. SecRandomCopyBytes failed with OSStatus {errorCode}")

/-- The closure of `forEach`, on the result so far and the remaining length. -/
def appendRandom (charset : List Char) (state : String × ℕ) (random : UInt8) : String × ℕ :=
  if state.2 = 0 then
    state
  else if h : random.toNat < charset.length then
    (state.1.push charset[random.toNat], state.2 - 1)
  else
    state

/-- `while remainingLength > 0`, with the number of bytes read: `none` when the fuel is out. -/
def nonceLoop (charset : List Char) (source : RandomSource) :
    ℕ → String × ℕ → ℕ → Except NonceTrap (Option (String × ℕ))
  | fuel, (result, remainingLength), read =>
    if remainingLength = 0 then
      .ok (some (result, read))
    else
      match fuel with
      | 0 => .ok none
      | fuel + 1 => do
        let randoms ← (List.range 16).mapM fun i => random source (read + i)
        nonceLoop charset source fuel
          (randoms.foldl (appendRandom charset) (result, remainingLength)) (read + 16)

def randomNonceString (fuel : ℕ) (source : RandomSource) (length : Int)
    (includesSpecialCharaters : Bool) : Except NonceTrap (Option (String × ℕ)) :=
  if length > 0 then
    nonceLoop (charset includesSpecialCharaters) source fuel ("", length.toNat) 0
  else
    .error .preconditionFailed

end AuthenticationViewModel

end ArtExhibition
