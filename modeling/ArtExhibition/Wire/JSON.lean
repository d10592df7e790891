import Mathlib.Data.Rat.Lemmas
import Mathlib.Tactic.NormNum

/-!
# JSON values and their shapes

A parsed JSON text is a value of `JSON`; numbers are the rationals that they denote. A `Shape` says
what a value has to look like to be read: every member of an object is optional, a null counts as a
missing member, and members that are not listed do not count.
-/

namespace Wire

inductive JSON
  | null
  | bool (value : Bool)
  | number (value : ℚ)
  | string (value : String)
  | array (elements : List JSON)
  | object (members : List (String × JSON))

/-- The integers of 64 bits as JSON numbers. -/
def JSON.int (n : Int64) : JSON := .number n.toInt

/-- The least number that rounds to an infinite double. -/
def doubleLimit : ℚ := 2 ^ 1024 - 2 ^ 970

/-- A finite double, by a number that rounds to it. -/
structure Double where
  value : ℚ
  finite : |value| < doubleLimit
  deriving DecidableEq

def JSON.double (d : Double) : JSON := .number d.value

inductive Shape
  | any
  | int
  | double
  | string
  | array (element : Shape)
  | object (members : List (String × Shape))

mutual

/-- The value has the shape. -/
def Shape.Fits : Shape → JSON → Prop
  | .any, _ => True
  | .int, j => ∃ n, j = .int n
  | .double, j => ∃ d, j = .double d
  | .string, j => ∃ text, j = .string text
  | .array element, j => ∃ elements, j = .array elements ∧ ∀ x ∈ elements, element.Fits x
  | .object shapes, j => ∃ members, j = .object members ∧ FitMembers shapes members

/-- Each listed member is missing, null or of its shape. -/
def FitMembers : List (String × Shape) → List (String × JSON) → Prop
  | [], _ => True
  | (key, shape) :: shapes, members =>
    (∀ j ∈ members.lookup key, j = .null ∨ shape.Fits j) ∧ FitMembers shapes members

end

end Wire
