import ArtExhibition.Spec.SignUpScreen
import ArtExhibition.Wire.RegexPattern

/-!
# The rule for passwords

The regular expression of `checkPasswordIsRightFormat`, which `NSPredicate` matches against the
whole password, and the rule that it is to express (`PasswordRule`), in terms of code points.
-/

namespace ArtExhibition

open Regex

def passwordRegex : String :=
  "^(?=.*[a-z])(?=.*[A-Z])(?=.*\\d)(?=.*[ !\"\\\\#$%&'\\(\\)\\*+,\\-\\./:;<=>?@\\[\\]^_`\\\x7b|\\\x7d~])" ++
    "[A-Za-z\\d !\"\\\\#$%&'\\(\\)\\*+,\\-\\./:;<=>?@\\[\\]^_`\\\x7b|\\\x7d~]\x7b12,\x7d"

theorem passwordRegex_read : (parse passwordRegex).isSome := by decide +kernel

/-- `NSPredicate(format: "SELF MATCHES %@", passwordRegex).evaluate(with: password)`. -/
def rightFormat (table : DecimalTable) (password : String) : Bool :=
  ((parse passwordRegex).get passwordRegex_read).matches table password.toList

/-! ## The rule -/

def LowercaseLetter (c : Char) : Prop := 'a' ≤ c ∧ c ≤ 'z'

def UppercaseLetter (c : Char) : Prop := 'A' ≤ c ∧ c ≤ 'Z'

/-- The 32 punctuation characters of ASCII. -/
def Punctuation (c : Char) : Prop :=
  '!' ≤ c ∧ c ≤ '/' ∨ ':' ≤ c ∧ c ≤ '@' ∨ '[' ≤ c ∧ c ≤ '\x60' ∨ '\x7b' ≤ c ∧ c ≤ '~'

def SpaceOrPunctuation (c : Char) : Prop := c = ' ' ∨ Punctuation c

/-- **The rule for passwords.** -/
structure PasswordRule (table : DecimalTable) (password : List Char) : Prop where
  length : 12 ≤ password.length
  all : ∀ c ∈ password,
    LowercaseLetter c ∨ UppercaseLetter c ∨ table.isDecimal c = true ∨ SpaceOrPunctuation c
  lowercase : ∃ c ∈ password, LowercaseLetter c
  uppercase : ∃ c ∈ password, UppercaseLetter c
  digit : ∃ c ∈ password, table.isDecimal c = true
  special : ∃ c ∈ password, SpaceOrPunctuation c

end ArtExhibition
