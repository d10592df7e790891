import ArtExhibition.Wire.Regex

/-!
# Patterns

The text of a regular expression, for the part of ICU's syntax that `Expr` has; a pattern with
anything else is not read. It is cut into tokens first: a set of characters is one token, and inside
it most characters stand for themselves. A group is a lookahead here, so the tokens are put together
with a stack of the groups that are still open.
-/

namespace Regex

inductive Token
  | start | dot
  | set (items : List SetItem)
  | atLeast (n : ℕ)
  | openAhead | close
  deriving DecidableEq, Repr

/-- Where the next character stands. -/
inductive Mode
  | pattern
  /-- in a set, behind these items, the last one first -/
  | set (items : List SetItem)
  /-- in a repetition, behind the digits of this number -/
  | count (n : ℕ)

/-- What a character stands for behind a backslash. -/
def escaped (c : Char) : Option SetItem :=
  if c = 'd' then some .decimal else if c.isAlphanum then none else some (.char c)

/-- Characters with a meaning in a pattern, outside a set. -/
def special (c : Char) : Bool :=
  c ∈ ['\\', '^', '$', '.', '|', '?', '*', '+', '(', ')', '[', ']', '\x7b', '\x7d']

/-- Characters with a meaning in a set. -/
def specialInSet (c : Char) : Bool := c ∈ ['\\', '[', ']', '-']

def tokens : Mode → List Char → Option (List Token)
  | .pattern, [] => some []
  | .pattern, '\\' :: c :: cs => (escaped c).bind fun item => (tokens .pattern cs).map (.set [item] :: ·)
  | .pattern, '^' :: cs => (tokens .pattern cs).map (.start :: ·)
  | .pattern, '.' :: cs => (tokens .pattern cs).map (.dot :: ·)
  | .pattern, '*' :: cs => (tokens .pattern cs).map (.atLeast 0 :: ·)
  | .pattern, '(' :: '?' :: '=' :: cs => (tokens .pattern cs).map (.openAhead :: ·)
  | .pattern, ')' :: cs => (tokens .pattern cs).map (.close :: ·)
  | .pattern, '[' :: '^' :: _ => none
  | .pattern, '[' :: cs => tokens (.set []) cs
  | .pattern, '\x7b' :: c :: cs => if c.isDigit then tokens (.count (c.toNat - '0'.toNat)) cs else none
  | .pattern, c :: cs => if special c then none else (tokens .pattern cs).map (.set [.char c] :: ·)
  | .set items, '\\' :: c :: cs => (escaped c).bind fun item => tokens (.set (item :: items)) cs
  | .set _, '&' :: '&' :: _ => none
  | .set items, ']' :: cs =>
    if items = [] then none else (tokens .pattern cs).map (.set items.reverse :: ·)
  | .set items, lo :: '-' :: hi :: cs =>
    if specialInSet lo || specialInSet hi then none else tokens (.set (.range lo hi :: items)) cs
  | .set items, c :: cs => if specialInSet c then none else tokens (.set (.char c :: items)) cs
  | .count n, ',' :: '\x7d' :: cs => (tokens .pattern cs).map (.atLeast n :: ·)
  | .count n, c :: cs => if c.isDigit then tokens (.count (10 * n + (c.toNat - '0'.toNat))) cs else none
  | .set _, [] | .count _, [] => none

/-- The expressions of a group, the last one first. -/
def sequence (es : List Expr) : Expr := es.foldl (fun rest e => .seq e rest) .empty

/-- A repetition of the last expression, which takes one character. -/
def repeatLast (n : ℕ) : List Expr → Option (List Expr)
  | .dot :: es => some (.atLeast n .dot :: es)
  | .set items :: es => some (.atLeast n (.set items) :: es)
  | _ => none

/-- The groups that are open stand behind those around them, each with its expressions so far. -/
def build : List (List Expr) → List Expr → List Token → Option Expr
  | [], es, [] => some (sequence es)
  | _ :: _, _, [] => none
  | groups, es, .start :: ts => build groups (.start :: es) ts
  | groups, es, .dot :: ts => build groups (.dot :: es) ts
  | groups, es, .set items :: ts => build groups (.set items :: es) ts
  | groups, es, .atLeast n :: ts => (repeatLast n es).bind fun es => build groups es ts
  | groups, es, .openAhead :: ts => build (es :: groups) [] ts
  | outer :: groups, es, .close :: ts => build groups (.ahead (sequence es) :: outer) ts
  | [], _, .close :: _ => none

def parse (pattern : String) : Option Expr := (tokens .pattern pattern.toList).bind (build [] [])

example : parse "^(?=.*\\d)[a-c]\x7b12,\x7d" = some (.seq .start
    (.seq (.ahead (.seq (.atLeast 0 .dot) (.seq (.set [.decimal]) .empty)))
      (.seq (.atLeast 12 (.set [.range 'a' 'c'])) .empty))) := by decide +kernel

end Regex
