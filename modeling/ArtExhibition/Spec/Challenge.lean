import Mathlib.Data.List.DropRight
import ArtExhibition.Wire.Base64
import ArtExhibition.Wire.Bytes

/-!
# The challenge of a password

`AuthenticationViewModel.challenge`: the SHA-256 digest of the text in base64, three
replacements and a trim. The digest is a parameter, of thirty-two bytes.
-/

namespace ArtExhibition

open Wire

/-- `replacingOccurrences(of:with:)` for a target of one character. -/
def replacingOccurrences (target : Char) (replacement text : List Char) : List Char :=
  text.flatMap fun c => if c = target then replacement else [c]

/-- `CharacterSet.whitespaces`: the space separators of Unicode and the tab. -/
def whitespaces : List Char :=
  ['\t', ' ', '\u00A0', '\u1680', '\u2000', '\u2001', '\u2002', '\u2003', '\u2004', '\u2005',
    '\u2006', '\u2007', '\u2008', '\u2009', '\u200A', '\u202F', '\u205F', '\u3000']

def trimmingCharacters (set text : List Char) : List Char :=
  (text.dropWhile (· ∈ set)).rdropWhile (· ∈ set)

/-- `data(using: .utf8)`, which every text has. -/
def dataUsingUTF8 (string : String) : Option Bytes := some (utf8 string)

namespace AuthenticationViewModel

/-- The replacements, on the base64 text of a digest. -/
def replaced (hash : List UInt8) : List Char :=
  let challenge := Base64.encode .standard hash
  let challenge := replacingOccurrences '+' ['-'] challenge
  let challenge := replacingOccurrences '/' ['_'] challenge
  replacingOccurrences '=' [] challenge

def challenge (CC_SHA256 : Bytes → Vector UInt8 32) (string : String) : String :=
  match dataUsingUTF8 string with
  | none => "error"
  | some verifierData =>
    let hash := CC_SHA256 verifierData
    String.ofList (trimmingCharacters whitespaces (replaced hash.toList))

end AuthenticationViewModel

end ArtExhibition
