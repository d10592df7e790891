import ArtExhibition.Wire.JSON
import Mathlib.Data.List.Basic

/-!
# Codable types

A `Codable` is what a type brings to be read from JSON and written to it, with what can be said of
the two: the values it reads are those of a shape, and a value that is written is read back as what
its encoding keeps. The laws are fields, so they hold of every type that is put together from the
basic ones, from arrays (`Codable.array`) and from structs (`Codable.struct`).

The stored properties of a struct are all optional (`Properties`): missing and null members are read
as nil, and a nil property is not written. Where a value is written as null it is read back as nil,
so it is lost.
-/

namespace Wire

inductive DecodingError
  | typeMismatch
  | valueNotFound
  | dataCorrupted
  deriving DecidableEq, Repr

structure Codable (α : Type) where
  shape : Shape
  /-- `init(from:)` -/
  decode : JSON → Except DecodingError α
  /-- `encode(to:)` -/
  encode : α → JSON
  /-- what is read back -/
  kept : α → α
  /-- every value is written as null -/
  writesNull : Bool
  decode_iff : ∀ j, (∃ a, decode j = .ok a) ↔ shape.Fits j
  decode_encode : ∀ a, decode (encode a) = .ok (kept a)
  encode_null : ∀ a, encode a = .null ↔ writesNull = true

namespace Codable

/-! ## Basic types -/

/-- A value of another kind: null, or a mismatch. -/
def mismatch {α : Type} : JSON → Except DecodingError α
  | .null => .error .valueNotFound
  | _ => .error .typeMismatch

def string : Codable String where
  shape := .string
  decode
    | .string text => .ok text
    | j => mismatch j
  encode := .string
  kept := id
  writesNull := false
  decode_iff j := by cases j <;> simp [Shape.Fits, mismatch]
  decode_encode _ := rfl
  encode_null _ := by simp

/-- `Int`, from a number without a fractional part in its range. -/
def int : Codable Int64 where
  shape := .int
  decode
    | .number q =>
      if h : q.den = 1 ∧ Int64.minValue.toInt ≤ q.num ∧ q.num ≤ Int64.maxValue.toInt then
        .ok (.ofIntLE q.num h.2.1 h.2.2)
      else .error .dataCorrupted
    | j => mismatch j
  encode := .int
  kept := id
  writesNull := false
  decode_iff j := by
    cases j with
    | number q =>
      simp only [Shape.Fits, JSON.int, JSON.number.injEq]
      constructor
      · rintro ⟨n, hn⟩
        split at hn
        · rename_i h
          refine ⟨.ofIntLE q.num h.2.1 h.2.2, ?_⟩
          rw [Int64.toInt_ofIntLE, Rat.den_eq_one_iff q |>.1 h.1]
        · cases hn
      · rintro ⟨n, rfl⟩
        exact ⟨_, dif_pos ⟨Rat.den_intCast n.toInt, n.minValue_le_toInt, n.toInt_le⟩⟩
    | _ => simp [Shape.Fits, mismatch, JSON.int]
  decode_encode n := by
    refine (dif_pos ⟨Rat.den_intCast n.toInt, n.minValue_le_toInt, n.toInt_le⟩).trans ?_
    exact congrArg Except.ok n.ofIntLE_toInt
  encode_null _ := by simp [JSON.int]

def double : Codable Double where
  shape := .double
  decode
    | .number q => if h : |q| < doubleLimit then .ok ⟨q, h⟩ else .error .dataCorrupted
    | j => mismatch j
  encode := .double
  kept := id
  writesNull := false
  decode_iff j := by
    cases j with
    | number q =>
      simp only [Shape.Fits, JSON.double, JSON.number.injEq]
      constructor
      · rintro ⟨d, hd⟩
        split at hd
        · rename_i h
          exact ⟨⟨q, h⟩, rfl⟩
        · cases hd
      · rintro ⟨d, rfl⟩
        exact ⟨d, dif_pos d.finite⟩
    | _ => simp [Shape.Fits, mismatch, JSON.double]
  decode_encode d := dif_pos d.finite
  encode_null _ := by simp [JSON.double]

/-! ## Arrays -/

variable {α β γ : Type}

theorem map_ok_iff {x : Except DecodingError α} {f : α → β} :
    (∃ b, x.map f = .ok b) ↔ ∃ a, x = .ok a := by
  cases x <;> simp [Except.map]

theorem mapM_ok_iff (decode : JSON → Except DecodingError α) (elements : List JSON) :
    (∃ values, elements.mapM decode = .ok values) ↔ ∀ j ∈ elements, ∃ a, decode j = .ok a := by
  induction elements with
  | nil => simp [pure, Except.pure]
  | cons j elements ih =>
    rw [List.forall_mem_cons, ← ih, List.mapM_cons]
    cases hj : decode j with
    | error e => simp [bind, Except.bind]
    | ok a => cases elements.mapM decode <;> simp [bind, Except.bind, pure, Except.pure]

theorem mapM_encode (c : Codable α) (values : List α) :
    (values.map c.encode).mapM c.decode = .ok (values.map c.kept) := by
  induction values with
  | nil => rfl
  | cons a values ih =>
    simp [List.mapM_cons, c.decode_encode, ih, bind, Except.bind, pure, Except.pure]

/-- `Array`, which is read whole or not at all. -/
def array (c : Codable α) : Codable (List α) where
  shape := .array c.shape
  decode
    | .array elements => elements.mapM c.decode
    | j => mismatch j
  encode values := .array (values.map c.encode)
  kept := List.map c.kept
  writesNull := false
  decode_iff j := by
    cases j with
    | array elements => simp [Shape.Fits, mapM_ok_iff, c.decode_iff]
    | _ => simp [Shape.Fits, mismatch]
  decode_encode := mapM_encode c
  encode_null _ := by simp

/-! ## Optional properties -/

/-- `decodeIfPresent(_:forKey:)`. -/
def decodeIfPresent (c : Codable α) (key : String) (members : List (String × JSON)) :
    Except DecodingError (Option α) :=
  match members.lookup key with
  | none => .ok none
  | some .null => .ok none
  | some j => (c.decode j).map some

/-- What is read back of an optional property. -/
def keptIfPresent (c : Codable α) (value : Option α) : Option α :=
  value.bind fun a => if c.writesNull then none else some (c.kept a)

theorem decodeIfPresent_iff (c : Codable α) (key : String) (members : List (String × JSON)) :
    (∃ value, c.decodeIfPresent key members = .ok value) ↔
      ∀ j ∈ members.lookup key, j = .null ∨ c.shape.Fits j := by
  unfold decodeIfPresent
  cases hj : members.lookup key with
  | none => simp
  | some j =>
    simp only [Option.mem_def, Option.some.injEq, forall_eq', ← c.decode_iff]
    cases j with
    | null => simp
    | _ => simp [map_ok_iff]

theorem decodeIfPresent_encode (c : Codable α) {key : String} {members : List (String × JSON)} {a : α}
    (h : members.lookup key = some (c.encode a)) :
    c.decodeIfPresent key members = .ok (c.keptIfPresent (some a)) := by
  have hnull := c.encode_null a
  unfold decodeIfPresent keptIfPresent
  rw [h, Option.bind_some]
  split
  · rename_i heq
    cases heq
  · rename_i heq
    rw [if_pos (hnull.1 (Option.some.inj heq))]
  · rename_i j hne heq
    obtain rfl := Option.some.inj heq
    rw [if_neg fun hw => hne (hnull.2 hw), c.decode_encode]
    rfl

end Codable

/-! ## Structs -/

/-- The stored properties of a struct with their coding keys, in their order. -/
inductive Properties : Type → Type 1
  | nil : Properties Unit
  | cons {β γ : Type} (key : String) (c : Codable β) (rest : Properties γ) : Properties (Option β × γ)

namespace Properties

variable {γ : Type}

def keys : {γ : Type} → Properties γ → List String
  | _, .nil => []
  | _, .cons key _ rest => key :: rest.keys

def shapes : {γ : Type} → Properties γ → List (String × Shape)
  | _, .nil => []
  | _, .cons key c rest => (key, c.shape) :: rest.shapes

/-- The synthesized `init(from:)`, property by property. -/
def decode : {γ : Type} → Properties γ → List (String × JSON) → Except DecodingError γ
  | _, .nil, _ => .ok ()
  | _, .cons key c rest, members => do
    let value ← c.decodeIfPresent key members
    let values ← rest.decode members
    return (value, values)

/-- The synthesized `encode(to:)`; `encodeIfPresent` writes no nil. -/
def encode : {γ : Type} → Properties γ → γ → List (String × JSON)
  | _, .nil, _ => []
  | _, .cons key c rest, (value, values) =>
    (value.map fun a => (key, c.encode a)).toList ++ rest.encode values

def kept : {γ : Type} → Properties γ → γ → γ
  | _, .nil, _ => ()
  | _, .cons _ c rest, (value, values) => (c.keptIfPresent value, rest.kept values)

@[simp] theorem kept_nil (values : Unit) : nil.kept values = () := rfl

@[simp] theorem kept_cons {β : Type} (key : String) (c : Codable β) (rest : Properties γ) (value : Option β)
    (values : γ) : (cons key c rest).kept (value, values) = (c.keptIfPresent value, rest.kept values) := rfl

theorem decode_iff (properties : Properties γ) (members : List (String × JSON)) :
    (∃ values, properties.decode members = .ok values) ↔ FitMembers properties.shapes members := by
  induction properties with
  | nil => simp [decode, shapes, FitMembers]
  | cons key c rest ih =>
    rw [shapes, FitMembers, ← ih, ← c.decodeIfPresent_iff, decode]
    cases c.decodeIfPresent key members <;> cases rest.decode members <;>
      simp [bind, Except.bind, pure, Except.pure]

/-- What a struct reads depends on the members of its keys. -/
theorem decode_congr (properties : Properties γ) {members members' : List (String × JSON)}
    (h : ∀ key ∈ properties.keys, members.lookup key = members'.lookup key) :
    properties.decode members = properties.decode members' := by
  induction properties with
  | nil => rfl
  | cons key c rest ih =>
    obtain ⟨hkey, h⟩ := List.forall_mem_cons.1 h
    rw [decode, decode, ih h, Codable.decodeIfPresent, hkey, ← Codable.decodeIfPresent]

/-- Nothing is written under other keys. -/
theorem lookup_encode_of_not_mem (properties : Properties γ) {key : String} (h : key ∉ properties.keys)
    (values : γ) : (properties.encode values).lookup key = none := by
  induction properties with
  | nil => rfl
  | cons key' c rest ih =>
    obtain ⟨value, values⟩ := values
    rw [keys, List.mem_cons, not_or] at h
    have hrest := ih h.2 values
    cases value with
    | none => exact hrest
    | some a => simpa [encode, List.lookup_cons, beq_false_of_ne h.1] using hrest

theorem decode_encode (properties : Properties γ) (h : properties.keys.Nodup) (values : γ) :
    properties.decode (properties.encode values) = .ok (properties.kept values) := by
  induction properties with
  | nil => rfl
  | cons key c rest ih =>
    obtain ⟨value, values⟩ := values
    obtain ⟨hkey, hrest⟩ := List.nodup_cons.1 h
    have hfirst : c.decodeIfPresent key ((cons key c rest).encode (value, values)) =
        .ok (c.keptIfPresent value) := by
      cases value with
      | none =>
        rw [Codable.decodeIfPresent, show ((cons key c rest).encode (none, values)).lookup key = none from
          rest.lookup_encode_of_not_mem hkey values]
        rfl
      | some a => exact c.decodeIfPresent_encode (by simp [encode])
    -- the other properties do not see the first member
    have hothers : rest.decode ((cons key c rest).encode (value, values)) = rest.decode (rest.encode values) := by
      refine rest.decode_congr fun key' hkey' => ?_
      have hne : key' ≠ key := fun heq => hkey (heq ▸ hkey')
      cases value with
      | none => rfl
      | some a => simp [encode, List.lookup_cons, beq_false_of_ne hne]
    rw [decode, hfirst, hothers, ih hrest values]
    rfl

end Properties

/-- A struct, by its values in the order of its properties. -/
def Codable.struct {α γ : Type} (properties : Properties γ) (ofValues : γ → α) (values : α → γ)
    (hkeys : properties.keys.Nodup) : Codable α where
  shape := .object properties.shapes
  decode
    | .object members => (properties.decode members).map ofValues
    | j => mismatch j
  encode a := .object (properties.encode (values a))
  kept a := ofValues (properties.kept (values a))
  writesNull := false
  decode_iff j := by
    cases j with
    | object members =>
      rw [Shape.Fits]
      simp only [JSON.object.injEq, exists_eq_left', ← properties.decode_iff, map_ok_iff]
    | _ => simp [Shape.Fits, mismatch]
  decode_encode a := by
    simp only [properties.decode_encode hkeys]
    rfl
  encode_null _ := by simp

@[simp] theorem Codable.struct_kept {α γ : Type} (properties : Properties γ) (ofValues : γ → α)
    (values : α → γ) (hkeys : properties.keys.Nodup) (a : α) :
    (Codable.struct properties ofValues values hkeys).kept a = ofValues (properties.kept (values a)) := rfl

end Wire
