import CriteriaQuery.Proofs.Composition
import CriteriaQuery.Proofs.JsonValues
import CriteriaQuery.Repository.Options

/-!
# Written query options are read back

Options are written with all of their parts, filters and orderings in their order of
insertion.  Reading takes the parts one by one, each under its name and none twice, and
builds filters and orderings again by inserting their entries.

The options and the filters are two levels of the text, so the values of filters may use
what is left of the nesting that is read.
-/

namespace CriteriaQuery

/-- A list is read back from documents that are read as its items. -/
theorem mapM_of_reads {α δ : Type} {write : α → δ} {read : δ → Option α} (items : List α)
    (each : ∀ item ∈ items, read (write item) = some item) :
    (items.map write).mapM read = some items := by
  apply mapM_of_map_eq
  rw [List.map_map]
  exact List.map_congr_left each

theorem Json.Document.texts?_document (texts : List String) :
    (Json.array (texts.map .string)).document.texts? = some texts := by
  rw [document, texts?, documentItems_eq, List.map_map]
  exact mapM_of_reads texts fun text _ => stringText?_pieces text

/-- Filters with plain values are read back, if the values nest no deeper than is read. -/
theorem Criteria.ofDocument?_document {criteria : Criteria} {depth : Nat}
    (plain : ∀ entry ∈ criteria.entries, entry.2.Plain)
    (shallow : ∀ entry ∈ criteria.entries, entry.2.toJson.depth ≤ depth) :
    ofDocument? depth criteria.toJson.document = some criteria := by
  rw [toJson, Json.document, ofDocument?, Json.documentFields_eq, List.map_map]
  rw [mapM_of_reads criteria.entries]
  · exact congrArg some (OrderedMap.ofList_entries criteria)
  · intro entry inside
    have read := Json.Document.toJson?_document (plain entry inside).exact_toJson
      (shallow entry inside)
    simp [Json.stringText?_pieces, read, (plain entry inside).ofJson_toJson]

/-- Orderings are read back. -/
theorem Orders.ofDocument?_document (orders : Orders) :
    ofDocument? orders.toJson.document = some orders := by
  rw [toJson, Json.document, ofDocument?, Json.documentFields_eq, List.map_map]
  rw [mapM_of_reads orders.entries]
  · exact congrArg some (OrderedMap.ofList_entries orders)
  · intro entry inside
    simp [Json.stringText?_pieces, Json.document, Json.Document.text?]

namespace QueryOptions

theorem Key.ofName?_name (key : Key) : ofName? key.name = some key := by
  cases key <;> decide

theorem optionalInt64?_boundJson (bound : Option Int64) :
    (boundJson bound).document.optionalInt64? = some bound := by
  cases bound with
  | none => rfl
  | some number =>
      have low := number.le_toInt
      have high := number.toInt_lt
      have read := Json.integer?_intLiteral low (by omega)
      have fits : -0x8000000000000000 ≤ number.toInt ∧ number.toInt < 0x8000000000000000 :=
        ⟨low, high⟩
      simp [boundJson, Json.document, Json.Document.optionalInt64?, Json.Document.int64?, read,
        fits]

/-- A part that is not set yet is set from its field. -/
theorem setFields?_cons {options updated : QueryOptions} {seen : List Key} {key : Key}
    {document : Json.Document} (fresh : key ∉ seen)
    (read : options.setPart? document key = some updated)
    (rest : List (List Json.StringPiece × Json.Document)) :
    setFields? options seen ((Json.pieces key.name, document) :: rest) =
      setFields? updated (key :: seen) rest := by
  simp [setFields?, Json.stringText?_pieces, Key.ofName?_name, fresh, read]

/-- Options with plain filter values are read back from their document. -/
theorem ofDocument?_document {options : QueryOptions}
    (plain : ∀ entry ∈ options.criteria.entries, entry.2.Plain)
    (shallow : ∀ entry ∈ options.criteria.entries, entry.2.toJson.depth ≤ valueDepth) :
    ofDocument? options.toJson.document = some options := by
  -- Every part is set on options that have the parts before it and no others.
  have select : setPart? {} (Json.array (options.select.map .string)).document .select =
      some { select := options.select } := by
    rw [setPart?, Json.Document.texts?_document, Option.map_some]
  have criteria : setPart? { select := options.select } options.criteria.toJson.document
      .criteria = some { select := options.select, criteria := options.criteria } := by
    rw [setPart?, Criteria.ofDocument?_document plain shallow, Option.map_some]
  have orderBy : setPart? { select := options.select, criteria := options.criteria }
      options.orderBy.toJson.document .orderBy =
        some { options with limit := none, offset := none } := by
    rw [setPart?, Orders.ofDocument?_document, Option.map_some]
  have limit : setPart? { options with limit := none, offset := none }
      (boundJson options.limit).document .limit = some { options with offset := none } := by
    rw [setPart?, optionalInt64?_boundJson, Option.map_some]
  have offset : setPart? { options with offset := none } (boundJson options.offset).document
      .offset = some options := by
    rw [setPart?, optionalInt64?_boundJson, Option.map_some]
  rw [toJson, Json.document, ofDocument?]
  simp only [Json.documentFields]
  rw [setFields?_cons (by decide) select, setFields?_cons (by decide) criteria,
    setFields?_cons (by decide) orderBy, setFields?_cons (by decide) limit,
    setFields?_cons (by decide) offset, setFields?]

theorem floatFree_toJson {options : QueryOptions}
    (plain : ∀ entry ∈ options.criteria.entries, entry.2.Plain) : options.toJson.FloatFree := by
  have bound (number : Option Int64) : (boundJson number).FloatFree := by
    cases number with
    | none => exact .null
    | some number => exact .int number.toInt
  have select : (Json.array (options.select.map .string)).FloatFree := by
    refine .array _ fun item inside => ?_
    rcases List.mem_map.1 inside with ⟨text, -, rfl⟩
    exact .string text
  have criteria : options.criteria.toJson.FloatFree := by
    refine .object _ fun field inside => ?_
    rcases List.mem_map.1 inside with ⟨entry, member, rfl⟩
    exact (plain entry member).exact_toJson.floatFree
  have orderBy : options.orderBy.toJson.FloatFree := by
    refine .object _ fun field inside => ?_
    rcases List.mem_map.1 inside with ⟨entry, -, rfl⟩
    exact .string entry.2
  refine .object _ fun field inside => ?_
  simp only [List.mem_cons, List.not_mem_nil, or_false] at inside
  rcases inside with rfl | rfl | rfl | rfl | rfl
  · exact select
  · exact criteria
  · exact orderBy
  · exact bound options.limit
  · exact bound options.offset

/-- The options and the filters take two levels of the nesting. -/
theorem depth_toJson_le {options : QueryOptions} (shallow : options.toJson.depth ≤ Json.maxDepth)
    {entry : String × Value} (member : entry ∈ options.criteria.entries) :
    entry.2.toJson.depth ≤ valueDepth := by
  have field : (entry.1, entry.2.toJson) ∈
      options.criteria.entries.map fun entry => (entry.1, entry.2.toJson) :=
    List.mem_map.2 ⟨entry, member, rfl⟩
  have inner : entry.2.toJson.depth ≤ _ := Json.depth_le_fieldsDepth field
  simp only [toJson, Criteria.toJson, Json.depth, Json.fieldsDepth, Json.maxDepth] at shallow
  simp only [valueDepth, Json.maxDepth]
  omega

/-- Options whose filter values are plain, and whose text nests no deeper than is read, are
read back from their text: the same selections, the same filters and orderings in the same
order, and the same limit and offset. -/
theorem ofJsonText?_compact (options : QueryOptions)
    (plain : ∀ entry ∈ options.criteria.entries, entry.2.Plain)
    (shallow : options.toJson.depth ≤ Json.maxDepth) :
    ofJsonText? options.toJson.compact = some options := by
  rw [ofJsonText?, Json.Document.ofText?_compact (floatFree_toJson plain), Option.bind_some]
  exact ofDocument?_document plain fun _ => depth_toJson_le shallow

/-- Options with filters out of order by key, nested lists, integers at both ends of their
range, and a text that is written with escapes. -/
def nestedFilters : QueryOptions where
  select := ["name", "\"first city\""]
  criteria := .ofList [
    ("status", .text "back\\slash\n\x01é"),
    ("age", .list [.int (-9223372036854775808), .list [.null, .list []], .bool false]),
    ("details", .json (.object
      [("id", .int 18446744073709551615), ("tags", .array [.string "NULL", .object []])]))]
  orderBy := .ofList [("status", "DESC"), ("", "up")]
  limit := some 10

theorem ofJsonText?_compact_nestedFilters :
    (∀ entry ∈ nestedFilters.criteria.entries, entry.2.Plain) ∧
      nestedFilters.toJson.depth ≤ Json.maxDepth ∧
      ofJsonText? nestedFilters.toJson.compact = some nestedFilters := by
  have ages : Value.Plain
      (.list [.int (-9223372036854775808), .list [.null, .list []], .bool false]) := by
    have none : Value.Plain (.list []) := .list _ (by simp)
    have two : Value.Plain (.list [.null, .list []]) := .list _ (by simp [none, Value.Plain.null])
    exact .list _ (by simp [two, Value.Plain.int, Value.Plain.bool])
  have details : Value.Plain (.json (.object
      [("id", .int 18446744073709551615), ("tags", .array [.string "NULL", .object []])])) := by
    have empty : Json.Exact (.object []) := .object _ (by simp) (by simp)
    have tags : Json.Exact (.array [.string "NULL", .object []]) :=
      .array _ (by simp [empty, Json.Exact.string])
    have id : Json.Exact (.int 18446744073709551615) := .int _ (by decide) (by decide)
    exact .json _ (.object _ (by decide) (by simp [id, tags]))
  have plain : ∀ entry ∈ nestedFilters.criteria.entries, entry.2.Plain := by
    intro entry member
    have one : entry ∈ [("status", _), ("age", _), ("details", _)] := member
    simp only [List.mem_cons, List.not_mem_nil, or_false] at one
    rcases one with rfl | rfl | rfl
    · exact .text _
    · exact ages
    · exact details
  have shallow : nestedFilters.toJson.depth ≤ Json.maxDepth := by decide
  exact ⟨plain, shallow, ofJsonText?_compact nestedFilters plain shallow⟩

end QueryOptions

end CriteriaQuery
