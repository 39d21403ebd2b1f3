import Mathlib.Data.Set.Function
import CriteriaQuery.Value.Json

/-!
# Values and their JSON

A value is written without a mark of its kind, and reading goes by the shape of the JSON alone.
What comes back unchanged are the values of the kinds that JSON has itself.  Identifiers and
timestamps come back as texts, infinities and NaNs as null, and JSON that is no object comes back
as the value that it would have been read as.

The other way round, JSON is kept exactly if its numbers are in the range of values, so that
between the two classes writing and reading are inverse to each other.
-/

namespace CriteriaQuery

/-- JSON whose numbers are signed integers of 64 bits or floating-point, and of these neither an
infinity nor a NaN.  An object may hold any numbers. -/
inductive Json.InRange : Json → Prop where
  | null : InRange .null
  | bool (flag : Bool) : InRange (.bool flag)
  | int (number : Int) (low : -0x8000000000000000 ≤ number)
      (high : number < 0x8000000000000000) : InRange (.int number)
  | float (number : Binary64) (finite : number.isFinite = true) : InRange (.float number)
  | string (text : String) : InRange (.string text)
  | array (items : List Json) (each : ∀ item ∈ items, InRange item) : InRange (.array items)
  | object (fields : List (String × Json)) : InRange (.object fields)

/-- Values of the kinds that JSON has: null, truth values, integers, finite floating-point numbers,
texts, objects and lists. -/
inductive Value.Native : Value → Prop where
  | null : Native .null
  | bool (flag : Bool) : Native (.bool flag)
  | int (number : Int64) : Native (.int number)
  | float (number : Binary64) (finite : number.isFinite = true) : Native (.float number)
  | text (content : String) : Native (.text content)
  | json (fields : List (String × Json)) : Native (.json (.object fields))
  | list (items : List Value) (each : ∀ item ∈ items, Native item) : Native (.list items)

namespace Value

theorem ofJson_int (number : Int64) : ofJson (.int number.toInt) = .int number := by
  rw [ofJson, ofJsonInt, if_pos ⟨number.le_toInt, number.toInt_lt⟩, Int64.ofInt_toInt]

mutual

/-- A value is read back from its JSON exactly if it is of a kind that JSON has. -/
theorem ofJson_toJson_iff (value : Value) : ofJson value.toJson = value ↔ value.Native := by
  cases value with
  | null => exact iff_of_true rfl .null
  | bool flag => exact iff_of_true rfl (.bool flag)
  | int number => exact iff_of_true (ofJson_int number) (.int number)
  | float number =>
      rw [toJson]
      split
      · next finite => exact iff_of_true rfl (.float number finite)
      · next infinite =>
        refine iff_of_false nofun fun native => ?_
        cases native with
        | float _ finite => exact infinite finite
  | text content => exact iff_of_true rfl (.text content)
  | uuid id => exact iff_of_false nofun nofun
  | timestamp instant => exact iff_of_false nofun nofun
  | json document =>
      cases document with
      | object fields => exact iff_of_true rfl (.json fields)
      | int number =>
          refine iff_of_false (fun same => ?_) nofun
          rw [toJson, ofJson, ofJsonInt] at same
          split at same <;> cases same
      | null | bool | float | string | array => exact iff_of_false nofun nofun
  | list items =>
      rw [toJson, ofJson, Value.list.injEq, ofJsonItems_toJsonItems_iff]
      constructor
      · exact .list items
      · intro native
        cases native with
        | list _ each => exact each

/-- The items of a list are read back exactly if each of them is. -/
theorem ofJsonItems_toJsonItems_iff (items : List Value) :
    ofJsonItems (toJsonItems items) = items ↔ ∀ item ∈ items, item.Native := by
  cases items with
  | nil => exact iff_of_true rfl nofun
  | cons item rest =>
      rw [toJsonItems, ofJsonItems, List.cons.injEq, ofJson_toJson_iff item,
        ofJsonItems_toJsonItems_iff rest, List.forall_mem_cons]

end

mutual

/-- JSON is written again from its value exactly if its numbers are in the range of values. -/
theorem toJson_ofJson_iff (json : Json) : (ofJson json).toJson = json ↔ json.InRange := by
  cases json with
  | null => exact iff_of_true rfl .null
  | bool flag => exact iff_of_true rfl (.bool flag)
  | int number =>
      rw [ofJson, ofJsonInt]
      split
      · next inRange =>
        refine iff_of_true ?_ (.int number inRange.1 inRange.2)
        rw [toJson, Int64.toInt_ofInt_of_le inRange.1 inRange.2]
      · next outside =>
        refine iff_of_false (fun same => ?_) fun native => ?_
        · rw [toJson] at same
          split at same <;> cases same
        · cases native with
          | int _ low high => exact outside ⟨low, high⟩
  | float number =>
      rw [ofJson, toJson]
      split
      · next finite => exact iff_of_true rfl (.float number finite)
      · next infinite =>
        refine iff_of_false nofun fun inRange => ?_
        cases inRange with
        | float _ finite => exact infinite finite
  | string text => exact iff_of_true rfl (.string text)
  | array items =>
      rw [ofJson, toJson, Json.array.injEq, toJsonItems_ofJsonItems_iff]
      constructor
      · exact .array items
      · intro inRange
        cases inRange with
        | array _ each => exact each
  | object fields => exact iff_of_true rfl (.object fields)

/-- The items of an array are written again exactly if each of them is. -/
theorem toJsonItems_ofJsonItems_iff (items : List Json) :
    toJsonItems (ofJsonItems items) = items ↔ ∀ item ∈ items, item.InRange := by
  cases items with
  | nil => exact iff_of_true rfl nofun
  | cons item rest =>
      rw [ofJsonItems, toJsonItems, List.cons.injEq, toJson_ofJson_iff item,
        toJsonItems_ofJsonItems_iff rest, List.forall_mem_cons]

end

/-- The values that are read back from their JSON are those of the kinds that JSON has, and the
JSON that is written again from its value is the one with numbers in the range of values.  Between
the two, writing and reading are one-to-one and inverse to each other. -/
theorem toJson_inverse_ofJson :
    (∀ value : Value, ofJson value.toJson = value ↔ value.Native) ∧
      (∀ json : Json, (ofJson json).toJson = json ↔ json.InRange) ∧
      Set.BijOn toJson {value | value.Native} {json | json.InRange} ∧
      Set.BijOn ofJson {json | json.InRange} {value | value.Native} := by
  have inverse : Set.InvOn ofJson toJson {value | value.Native} {json | json.InRange} :=
    ⟨fun value => (ofJson_toJson_iff value).2, fun json => (toJson_ofJson_iff json).2⟩
  have written : Set.MapsTo toJson {value | value.Native} {json | json.InRange} := by
    intro value native
    exact (toJson_ofJson_iff _).1 (congrArg toJson (inverse.1 native))
  have read : Set.MapsTo ofJson {json | json.InRange} {value | value.Native} := by
    intro json inRange
    exact (ofJson_toJson_iff _).1 (congrArg ofJson (inverse.2 inRange))
  exact ⟨ofJson_toJson_iff, toJson_ofJson_iff, inverse.bijOn written read,
    inverse.symm.bijOn read written⟩

end Value

end CriteriaQuery
