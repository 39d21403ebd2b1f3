import CriteriaQuery.Proofs.JsonText
import CriteriaQuery.Proofs.JsonTrees

/-!
# Written values are read back

An exact JSON value is one that reading gives and that holds no floating-point number: its
integers fit 64 bits and its objects are sorted by key.  Its document has it as its value, as
long as arrays and objects nest no deeper than is read.

A plain filter value is made of what JSON tells apart, so it is the value of the exact JSON
that it is written as.  Identifiers and timestamps are not plain, since they come back as
texts, and neither is JSON that is no object.
-/

namespace CriteriaQuery

namespace Json

/-- Values as they are read, without floating-point numbers: integers fit 64 bits, signed or
unsigned, and objects are sorted by key and hold each key once. -/
inductive Exact : Json → Prop where
  | null : Exact .null
  | bool (flag : Bool) : Exact (.bool flag)
  | int (number : Int) (low : -0x8000000000000000 ≤ number)
      (high : number < 0x10000000000000000) : Exact (.int number)
  | string (text : String) : Exact (.string text)
  | array (items : List Json) (each : ∀ item ∈ items, Exact item) : Exact (.array items)
  | object (fields : List (String × Json)) (sorted : (fields.map Prod.fst).Pairwise (· < ·))
      (each : ∀ field ∈ fields, Exact field.2) : Exact (.object fields)

theorem Exact.floatFree {json : Json} (exact : Exact json) : FloatFree json := by
  induction exact with
  | null => exact .null
  | bool flag => exact .bool flag
  | int number low high => exact .int number
  | string text => exact .string text
  | array items each ih => exact .array items ih
  | object fields sorted each ih => exact .object fields ih

mutual

/-- How deeply arrays and objects nest. -/
def depth : Json → Nat
  | .null | .bool _ | .int _ | .float _ | .string _ => 0
  | .array items => itemsDepth items + 1
  | .object fields => fieldsDepth fields + 1

/-- How deeply the deepest array item nests. -/
def itemsDepth : List Json → Nat
  | [] => 0
  | item :: rest => max (depth item) (itemsDepth rest)

/-- How deeply the deepest object field nests. -/
def fieldsDepth : List (String × Json) → Nat
  | [] => 0
  | (_, value) :: rest => max (depth value) (fieldsDepth rest)

end

theorem depth_le_itemsDepth {items : List Json} {item : Json} (inside : item ∈ items) :
    item.depth ≤ itemsDepth items := by
  induction inside with
  | head rest => exact Nat.le_max_left _ _
  | tail other inside ih => exact Nat.le_trans ih (Nat.le_max_right _ _)

theorem depth_le_fieldsDepth {fields : List (String × Json)} {field : String × Json}
    (inside : field ∈ fields) : field.2.depth ≤ fieldsDepth fields := by
  induction inside with
  | head rest => exact Nat.le_max_left _ _
  | tail other inside ih => exact Nat.le_trans ih (Nat.le_max_right _ _)

/-- A written text is read back: a control is no half of a character. -/
theorem stringText?_pieces (text : String) : stringText? (pieces text) = some text := by
  have read (chars : List Char) : characters? none (chars.map piece) = some chars := by
    induction chars with
    | nil => rfl
    | cons char rest ih =>
        by_cases control : isUnit char = true
        · -- Units are written for controls only, and halves of characters are far above these.
          have small : char.toNat < 0x20 := by
            simp only [isUnit, decide_eq_true_eq] at control
            exact control.1
          have notHigh : isHighSurrogate char.toNat = false := by
            simp only [isHighSurrogate, decide_eq_false_iff_not]
            omega
          have notLow : isLowSurrogate char.toNat = false := by
            simp only [isLowSurrogate, decide_eq_false_iff_not]
            omega
          simp [piece, control, characters?, notHigh, notLow, ih]
        · simp [piece, control, characters?, ih]
  rw [stringText?, pieces, read, Option.map_some, String.ofList_toList]

/-- An integer that fits 64 bits is read back. -/
theorem integer?_intLiteral {number : Int} (low : -0x8000000000000000 ≤ number)
    (high : number < 0x10000000000000000) : (intLiteral number).integer? = some number := by
  have plain : (intLiteral number).fraction.isEmpty ∧ (intLiteral number).exponent.isNone :=
    ⟨rfl, rfl⟩
  have whole : digitsValue (intLiteral number).whole = number.natAbs := digitsValue_digits _
  rw [NumberLiteral.integer?, if_pos plain, whole]
  by_cases below : number < 0
  · have negative : (intLiteral number).negative = true := decide_eq_true below
    have fits : 0 < number.natAbs ∧ number.natAbs ≤ Nat.pow 2 63 := by
      have power : Nat.pow 2 63 = 0x8000000000000000 := rfl
      omega
    simp only [negative, if_true, if_pos fits, Option.some.injEq, Int.ofNat_eq_natCast]
    omega
  · have negative : (intLiteral number).negative = false := decide_eq_false below
    have fits : number.natAbs < Nat.pow 2 64 := by
      have power : Nat.pow 2 64 = 0x10000000000000000 := rfl
      omega
    simp only [negative, Bool.false_eq_true, if_false, if_pos fits, Option.some.injEq,
      Int.ofNat_eq_natCast]
    omega

/-- A key behind all others is put at the end. -/
theorem putField_of_lt {fields : List (String × Json)} {key : String}
    (last : ∀ other ∈ fields.map Prod.fst, other < key) (value : Json) :
    putField key value fields = fields ++ [(key, value)] := by
  induction fields with
  | nil => rfl
  | cons field rest ih =>
      rcases field with ⟨other, old⟩
      have before : other < key := last other List.mem_cons_self
      have different : key ≠ other := fun same => String.lt_irrefl key (same ▸ before)
      rw [putField, if_neg different, if_neg (String.lt_asymm before),
        ih fun name inside => last name (List.mem_cons_of_mem _ inside), List.cons_append]

/-- Putting fields one after the other keeps their order when they are sorted by key. -/
theorem foldl_putField (front : List (String × Json)) {fields : List (String × Json)}
    (sorted : ((front ++ fields).map Prod.fst).Pairwise (· < ·)) :
    fields.foldl (fun sorted field => putField field.1 field.2 sorted) front =
      front ++ fields := by
  induction fields generalizing front with
  | nil => simp
  | cons field rest ih =>
      have last : ∀ other ∈ front.map Prod.fst, other < field.1 := by
        rw [List.map_append, List.pairwise_append] at sorted
        exact fun other inside => sorted.2.2 other inside field.1 (by simp)
      rw [List.append_cons] at sorted ⊢
      rw [List.foldl_cons, putField_of_lt last, ih _ sorted]

/-- Fields that are sorted by key stay as they are. -/
theorem ofFields_of_sorted {fields : List (String × Json)}
    (sorted : (fields.map Prod.fst).Pairwise (· < ·)) : ofFields fields = .object fields := by
  rw [ofFields, foldl_putField [] sorted, List.nil_append]

namespace Document

theorem itemsToJson?_documentItems {items : List Json} {depth : Nat}
    (each : ∀ item ∈ items, item.document.toJson? depth = some item) :
    itemsToJson? depth (documentItems items) = some items := by
  induction items with
  | nil => rfl
  | cons item rest ih =>
      simp [documentItems, itemsToJson?, each item List.mem_cons_self,
        ih fun other inside => each other (List.mem_cons_of_mem _ inside)]

theorem fieldsToJson?_documentFields {fields : List (String × Json)} {depth : Nat}
    (each : ∀ field ∈ fields, field.2.document.toJson? depth = some field.2) :
    fieldsToJson? depth (documentFields fields) = some fields := by
  induction fields with
  | nil => rfl
  | cons field rest ih =>
      simp [documentFields, fieldsToJson?, stringText?_pieces, each field List.mem_cons_self,
        ih fun other inside => each other (List.mem_cons_of_mem _ inside)]

/-- The document of an exact value has that value. -/
theorem toJson?_document {json : Json} (exact : Exact json) {depth : Nat}
    (shallow : json.depth ≤ depth) : json.document.toJson? depth = some json := by
  induction exact generalizing depth with
  | null => simp [document, toJson?]
  | bool flag => simp [document, toJson?]
  | int number low high =>
      simp [document, toJson?, NumberLiteral.toJson?, integer?_intLiteral low high]
  | string text => simp [document, toJson?, stringText?_pieces]
  | array items each ih =>
      rw [Json.depth] at shallow
      obtain ⟨inner, rfl⟩ : ∃ inner, depth = inner + 1 := ⟨depth - 1, by omega⟩
      have read := itemsToJson?_documentItems fun item inside =>
        ih item inside (Nat.le_trans (depth_le_itemsDepth inside) (Nat.le_of_succ_le_succ shallow))
      simp [document, toJson?, read]
  | object fields sorted each ih =>
      rw [Json.depth] at shallow
      obtain ⟨inner, rfl⟩ : ∃ inner, depth = inner + 1 := ⟨depth - 1, by omega⟩
      have read := fieldsToJson?_documentFields fun field inside =>
        ih field inside
          (Nat.le_trans (depth_le_fieldsDepth inside) (Nat.le_of_succ_le_succ shallow))
      simp [document, toJson?, read, ofFields_of_sorted sorted]

end Document

end Json

namespace Value

/-- Values made of null, truth values, integers, texts, exact JSON objects and lists. -/
inductive Plain : Value → Prop where
  | null : Plain .null
  | bool (flag : Bool) : Plain (.bool flag)
  | int (number : Int64) : Plain (.int number)
  | text (content : String) : Plain (.text content)
  | json (fields : List (String × Json)) (exact : Json.Exact (.object fields)) :
      Plain (.json (.object fields))
  | list (items : List Value) (each : ∀ item ∈ items, Plain item) : Plain (.list items)

theorem toJsonItems_eq (items : List Value) : toJsonItems items = items.map toJson := by
  induction items with
  | nil => rfl
  | cons item rest ih => rw [toJsonItems, ih, List.map_cons]

theorem Plain.exact_toJson {value : Value} (plain : Plain value) : Json.Exact value.toJson := by
  induction plain with
  | null => exact .null
  | bool flag => exact .bool flag
  | int number =>
      have low := number.le_toInt
      have high := number.toInt_lt
      exact .int number.toInt low (by omega)
  | text content => exact .string content
  | json fields exact => exact exact
  | list items each ih =>
      rw [toJson, toJsonItems_eq]
      refine .array _ fun item inside => ?_
      rcases List.mem_map.1 inside with ⟨value, member, rfl⟩
      exact ih value member

theorem Plain.native {value : Value} (plain : Plain value) : value.Native := by
  induction plain with
  | null => exact .null
  | bool flag => exact .bool flag
  | int number => exact .int number
  | text content => exact .text content
  | json fields exact => exact .json fields
  | list items each ih => exact .list items ih

/-- A plain value is the value of its JSON. -/
theorem Plain.ofJson_toJson {value : Value} (plain : Plain value) :
    ofJson value.toJson = value :=
  (ofJson_toJson_iff value).2 plain.native

end Value

end CriteriaQuery
