import CriteriaQuery.Proofs.RenderingFailures
import CriteriaQuery.Wire.Encoding

/-!
# Which values bind to which types

A value is bound to a parameter in parts.  A list that meets an array type comes apart into
the parts of its items, each for the member type; every other value is a part of its own.

Encoding succeeds exactly if each part fits the type that it is bound to.  Otherwise the
first part that does not fit decides the error, in the order in which the parts are written
down.
-/

namespace CriteriaQuery

open Wire

namespace Wire

/-- Whether an integer is in the range of a built-in type, which only matters to the two
narrow types of integers. -/
def ScalarType.admits (number : Int) : ScalarType → Bool
  | .int2 => decide (-0x8000 ≤ number ∧ number < 0x8000)
  | .int4 => decide (-0x80000000 ≤ number ∧ number < 0x80000000)
  | _ => true

/-- Whether a type is one of texts: a built-in one, or one of extensions that goes by its
name. -/
def SqlType.isTextual (type : SqlType) : Bool :=
  decide (type ∈ [.scalar .text, .scalar .varchar, .scalar .bpchar, .scalar .name,
      .scalar .unknown] ∨
    type.name ∈ ["citext", "ltree", "lquery", "ltxtquery"])

end Wire

namespace Value

mutual

/-- Whether a value fits a type. -/
def fits (type : SqlType) : Value → Bool
  | .null => true
  | .bool _ => decide (type = .scalar .bool)
  | .int number =>
      match type with
      | .scalar scalar =>
          decide (scalar ∈ [.int2, .int4, .int8, .float8, .numeric]) && scalar.admits number.toInt
      | _ => false
  | .float number =>
      match type with
      | .scalar .numeric => (Decimal.ofBinary64? number).isSome
      | other => decide (other = .scalar .float4 ∨ other = .scalar .float8)
  | .text _ => type.isTextual
  | .uuid _ => decide (type = .scalar .uuid)
  | .timestamp _ => decide (type = .scalar .timestamp ∨ type = .scalar .timestamptz)
  | .json _ => decide (type = .scalar .json ∨ type = .scalar .jsonb)
  | .list items =>
      match type with
      | .array _ _ _ member => allFit member items
      | _ => false

/-- Whether all list items fit the member type. -/
def allFit (member : SqlType) : List Value → Bool
  | [] => true
  | item :: rest => fits member item && allFit member rest

end

mutual

/-- The parts that a value is bound in, from left to right, with the type of each. -/
def parts (type : SqlType) : Value → List (SqlType × Value)
  | .list items =>
      match type with
      | .array _ _ _ member => itemParts member items
      | other => [(other, .list items)]
  | value => [(type, value)]

/-- The parts of list items for the member type. -/
def itemParts (member : SqlType) : List Value → List (SqlType × Value)
  | [] => []
  | item :: rest => parts member item ++ itemParts member rest

end

/-- What is wrong with a part that does not fit its type. -/
def mismatch (type : SqlType) : Value → EncodingError
  | .int _ => if type = .scalar .int2 ∨ type = .scalar .int4 then .integerRange else .wrongType
  | .float _ => if type = .scalar .numeric then .decimalRange else .wrongType
  | .list _ => .listForOtherType type.name
  | _ => .wrongType

/-- The error of a part, if it does not fit its type. -/
def refusal? (part : SqlType × Value) : Option EncodingError :=
  if part.2.fits part.1 then none else some (part.2.mismatch part.1)

/-- Bytes under a condition fail with the error that stands for it. -/
theorem failure?_ite_encoded (accepted : Prop) [Decidable accepted] (bytes : Bytes)
    (error : EncodingError) :
    failure? (if accepted then encoded bytes else .error error) =
      if decide accepted then none else some error := by
  by_cases holds : accepted
  · rw [if_pos holds, decide_eq_true holds]
    rfl
  · rw [if_neg holds, decide_eq_false holds]
    rfl

section Kinds

variable (type : SqlType)

theorem failure?_encodeInt (number : Int64) :
    failure? (encodeInt number type) = refusal? (type, .int number) := by
  cases type with
  | scalar scalar =>
      cases scalar with
      | int2 | int4 => exact failure?_ite_encoded _ _ _
      | _ => rfl
  | _ => rfl

theorem failure?_encodeFloat (number : Binary64) :
    failure? (encodeFloat number type) = refusal? (type, .float number) := by
  cases type with
  | scalar scalar =>
      cases scalar with
      | numeric =>
          simp only [encodeFloat, refusal?, fits, mismatch, if_true]
          split
          · next decimal converted => simp [converted, failure?, encoded]
          · next converted => simp [converted, failure?]
      | _ => rfl
  | _ => rfl

/-- The types that text is encoded for are those of texts. -/
theorem isSome_textPrefix? : (textPrefix? type).isSome = type.isTextual := by
  have byName (name : String) :
      (if name = "citext" then some []
        else if name ∈ ["ltree", "lquery", "ltxtquery"] then some [1]
        else (none : Option Bytes)).isSome =
      decide (name ∈ ["citext", "ltree", "lquery", "ltxtquery"]) := by
    by_cases caseless : name = "citext"
    · simp [caseless]
    · by_cases tree : name ∈ ["ltree", "lquery", "ltxtquery"]
      · rw [if_neg caseless, if_pos tree, decide_eq_true (List.mem_cons_of_mem _ tree)]
        rfl
      · rw [if_neg caseless, if_neg tree, decide_eq_false (by simp [caseless, tree])]
        rfl
  cases type with
  | scalar scalar => cases scalar <;> rfl
  | named name | domain name | array name =>
      exact (byName name).trans (by simp [SqlType.isTextual, SqlType.name])

theorem failure?_encodeText (text : String) :
    failure? (encodeText text type) = refusal? (type, .text text) := by
  rw [refusal?, fits, ← isSome_textPrefix?, encodeText]
  cases textPrefix? type <;> rfl

theorem failure?_encodeJson (document : Json) :
    failure? (encodeJson document type) = refusal? (type, .json document) := by
  cases type with
  | scalar scalar => cases scalar <;> rfl
  | _ => rfl

end Kinds

mutual

/-- Encoding fails with the error of the first part that does not fit its type. -/
theorem failure?_encode (type : SqlType) (value : Value) :
    failure? (value.encode type) = (value.parts type).findSome? refusal? := by
  have single (value : Value) : [(type, value)].findSome? refusal? = refusal? (type, value) :=
    List.findSome?_singleton
  -- Only a list for an array type has parts other than itself, those of its items.
  cases value with
  | null => rfl
  | bool flag => exact (failure?_ite_encoded _ _ _).trans (single (.bool flag)).symm
  | int number => exact (failure?_encodeInt type number).trans (single _).symm
  | float number => exact (failure?_encodeFloat type number).trans (single _).symm
  | text content => exact (failure?_encodeText type content).trans (single _).symm
  | uuid id => exact (failure?_ite_encoded _ _ _).trans (single (.uuid id)).symm
  | timestamp instant => exact (failure?_ite_encoded _ _ _).trans (single (.timestamp instant)).symm
  | json document => exact (failure?_encodeJson type document).trans (single _).symm
  | list items =>
      cases type with
      | array name oid firstIndex member =>
          rw [encode, parts, ← failure?_encodeItems]
          cases encodeItems member items <;> rfl
      | _ => rfl

theorem failure?_encodeItems (member : SqlType) (items : List Value) :
    failure? (encodeItems member items) = (itemParts member items).findSome? refusal? := by
  cases items with
  | nil => rfl
  | cons item rest =>
      rw [encodeItems, itemParts, List.findSome?_append, ← failure?_encode,
        ← failure?_encodeItems]
      cases encode member item with
      | error cause => rfl
      | ok encoding => cases encodeItems member rest <;> rfl

end

mutual

/-- A value fits a type exactly if each of its parts fits the type that it is bound to. -/
theorem fits_eq_all_parts (type : SqlType) (value : Value) :
    value.fits type = (value.parts type).all fun part => part.2.fits part.1 := by
  have single (value : Value) :
      ([(type, value)].all fun part => part.2.fits part.1) = value.fits type := Bool.and_true _
  cases value with
  | list items =>
      cases type with
      | array name oid firstIndex member => exact allFit_eq_all_parts member items
      | _ => exact (single _).symm
  | _ => exact (single _).symm

theorem allFit_eq_all_parts (member : SqlType) (items : List Value) :
    allFit member items = (itemParts member items).all fun part => part.2.fits part.1 := by
  cases items with
  | nil => rfl
  | cons item rest =>
      rw [allFit, itemParts, List.all_append, fits_eq_all_parts, allFit_eq_all_parts]

end

/-- Encoding a value succeeds exactly if it fits the type.  Otherwise it has the error of the
first part that does not fit, with all parts in front of that one fitting their types. -/
theorem encode_exact (type : SqlType) (value : Value) :
    ((∃ encoding, value.encode type = .ok encoding) ↔ value.fits type) ∧
      ∀ error, value.encode type = .error error ↔
        ∃ before part after, value.parts type = before ++ part :: after ∧
          (∀ earlier ∈ before, earlier.2.fits earlier.1) ∧
          ¬part.2.fits part.1 ∧ error = part.2.mismatch part.1 := by
  have first : failure? (value.encode type) = ((value.parts type).find? fun part =>
      !part.2.fits part.1).map fun part => part.2.mismatch part.1 :=
    (failure?_encode type value).trans (findSome?_check _ _ _)
  constructor
  · rw [← failure?_eq_none_iff, first, fits_eq_all_parts]
    simp
  · intro error
    rw [← failure?_eq_some_iff, first, firstFailure_eq_some_iff]

end Value

end CriteriaQuery
