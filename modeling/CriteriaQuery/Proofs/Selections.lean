import Mathlib.Tactic.Choose
import CriteriaQuery.Proofs.Deduplication
import CriteriaQuery.Proofs.Lifecycle

/-!
# Selections that are repeated

A selection that always appends the same fragments, or always fails, is given by those
fragments.  The selections of a request then append what each of them expands to, in order,
provided that none fails.

A selection that occurs again expands to what is already there.  It is not needed to tell
which joins can be read or which group of joins is the first, and everything it adds is
dropped as a duplicate; so repetitions can be left out.
-/

namespace CriteriaQuery

/-- A pass that appends the same fragments, all of them of some parts, to every query under
a root alias, and then succeeds or fails in the same way. -/
def Pass.AlwaysAppends (parts : List QueryPart) (pass : Pass) : Prop :=
  ∃ (fragments : String → List Fragment) (error : Option QueryError),
    (∀ rootAlias, ∀ fragment ∈ fragments rootAlias, fragment.part ∈ parts) ∧
      ∀ query, (pass query).query = query.addAll (fragments query.rootAlias) ∧
        (pass query).error = error

/-- Append fragments that depend on nothing but the root alias. -/
def Pass.appending (fragments : String → List Fragment) : Pass :=
  .update fun query => query.addAll (fragments query.rootAlias)

theorem Pass.alwaysAppends_appending {parts : List QueryPart}
    {fragments : String → List Fragment}
    (ofParts : ∀ rootAlias, ∀ fragment ∈ fragments rootAlias, fragment.part ∈ parts) :
    (Pass.appending fragments).AlwaysAppends parts :=
  ⟨fragments, none, ofParts, fun _ => ⟨rfl, rfl⟩⟩

namespace Handlers

/-- The handlers of selections append fixed fragments of some parts. -/
def SelectsAlwaysAppend (handlers : Handlers) (parts : List QueryPart) : Prop :=
  ∀ name handler, handlers.selects.get? name = some handler → handler.AlwaysAppends parts

variable {handlers : Handlers} {parts : List QueryPart}

theorem SelectsAlwaysAppend.withLifecycle (fixed : handlers.SelectsAlwaysAppend parts)
    (settings : Settings) : (handlers.withLifecycle settings).SelectsAlwaysAppend parts :=
  forall_selects_withLifecycle fixed settings

theorem SelectsAlwaysAppend.empty : Handlers.empty.SelectsAlwaysAppend parts := by
  intro name handler stored
  cases stored

theorem SelectsAlwaysAppend.select (fixed : handlers.SelectsAlwaysAppend parts) (field : String)
    {added : SelectHandler} (appends : Pass.AlwaysAppends parts added) :
    (handlers.select field added).SelectsAlwaysAppend parts :=
  forall_selects_select fixed field appends

/-- One selection: under a root alias it is accepted and appends its fragments, or it is
refused, whatever else the query holds. -/
theorem applySelect_eq_ok_iff (fixed : handlers.SelectsAlwaysAppend parts)
    (plain : QueryPart.selections ∈ parts) (rootAlias field : String) :
    ∃ (accepted : Prop) (fragments : List Fragment),
      (∀ fragment ∈ fragments, fragment.part ∈ parts) ∧
        ∀ query next : Query, query.rootAlias = rootAlias →
          ((handlers.applySelect field query).result = .ok next ↔
            accepted ∧ next = query.addAll fragments) := by
  simp only [applySelect]
  cases stored : handlers.select? field with
  | none =>
      refine ⟨True, [.selection field], ?_, ?_⟩
      · intro fragment inside
        rw [List.mem_singleton] at inside
        rw [inside]
        exact plain
      · intro query next _
        rw [Pass.result_update, Except.ok.injEq, true_and]
        exact eq_comm
  | some handler =>
      rcases fixed _ handler stored with ⟨fragments, error, ofParts, appends⟩
      refine ⟨error = none, fragments rootAlias, ofParts rootAlias, ?_⟩
      rintro query next rfl
      rcases appends query with ⟨appended, failed⟩
      simp only [Outcome.result, appended, failed]
      cases error with
      | none => simp [eq_comm]
      | some error => simp

/-- What selections expand to under a root alias: some fields are refused, and the others
append their fragments, whatever else the query holds. -/
structure Expansion (handlers : Handlers) (parts : List QueryPart) (rootAlias : String) where
  accepts : String → Prop
  fragments : String → List Fragment
  ofParts : ∀ field, ∀ fragment ∈ fragments field, fragment.part ∈ parts
  added_iff : ∀ (selects : List String) {before after : Query}, before.rootAlias = rootAlias →
    ((handlers.addSelects selects before).result = .ok after ↔
      (∀ field ∈ selects, accepts field) ∧ after = before.addAll (selects.flatMap fragments))

/-- Selections with fixed fragments have an expansion. -/
theorem SelectsAlwaysAppend.expansion (fixed : handlers.SelectsAlwaysAppend parts)
    (plain : QueryPart.selections ∈ parts) (rootAlias : String) :
    Nonempty (handlers.Expansion parts rootAlias) := by
  choose accepts fragments ofParts step using applySelect_eq_ok_iff fixed plain rootAlias
  -- an empty field is passed over, so it is accepted and expands to nothing
  let expanded (field : String) : List Fragment := if field = "" then [] else fragments field
  have flatMap_expanded (selects : List String) :
      (selects.filter fun field => !field.isEmpty).flatMap fragments =
        selects.flatMap expanded := by
    induction selects with
    | nil => rfl
    | cons field rest ih =>
        by_cases empty : field = "" <;> simp [expanded, empty, ih]
  have keeps (query : Query) (field : String) (same : query.rootAlias = rootAlias) :
      (query.addAll (fragments field)).rootAlias = rootAlias :=
    (query.rootAlias_addAll (fragments field)).trans same
  refine ⟨⟨fun field => field ≠ "" → accepts field, expanded, ?_, ?_⟩⟩
  · intro field fragment inside
    simp only [expanded] at inside
    split at inside
    · cases inside
    · exact ofParts field fragment inside
  · intro selects before after sameAlias
    rw [← flatMap_expanded, Query.addAll_flatMap]
    apply (Pass.forEach_report_eq_ok_iff keeps (fun query field next => step field query next)
      _ _ sameAlias after).trans
    apply and_congr_left
    intro _
    simp only [List.mem_filter, Bool.not_eq_true', String.isEmpty_eq_false_iff, and_imp]

end Handlers

namespace Query

/-- What fields expand to can be read exactly if it can be read without the repetitions. -/
theorem isReadable_addAll_eraseDups {query : Query} (fields : List String)
    (fragments : String → List Fragment) :
    (query.addAll (fields.eraseDups.flatMap fragments)).IsReadable ↔
      (query.addAll (fields.flatMap fragments)).IsReadable := by
  rw [isReadable_addAll, isReadable_addAll]
  simp only [List.mem_flatMap, List.mem_eraseDups]

/-- Repetitions of fields leave no trace in the group of joins that is kept. -/
theorem keptGroup_appendJoins_eraseDups (joins : OrderedMap String (List Join))
    (pairs : String → List (String × Join)) (fields : List String) :
    keptGroup (appendJoins joins (fields.eraseDups.flatMap pairs)).entries.head? =
      keptGroup (appendJoins joins (fields.flatMap pairs)).entries.head? := by
  have under (root : String) (group : List Join) :
      distinctBy Join.readAlias [] (group ++ joinsUnder root (fields.eraseDups.flatMap pairs)) =
        distinctBy Join.readAlias [] (group ++ joinsUnder root (fields.flatMap pairs)) := by
    rw [joinsUnder, joinsUnder, List.filterMap_flatMap, List.filterMap_flatMap]
    exact distinctBy_append_flatMap_eraseDups Join.readAlias group _ fields
  cases first : joins.entries.head? with
  | some group =>
      rw [head?_appendJoins first, head?_appendJoins first]
      simp only [keptGroup, under]
  | none =>
      -- the first join decides which group is kept, and it is the same with the repetitions
      rw [head?_appendJoins_of_none first, head?_appendJoins_of_none first,
        head?_flatMap_eraseDups]
      cases (fields.flatMap pairs).head? with
      | none => rfl
      | some join =>
          have same := under join.1 []
          rw [List.nil_append, List.nil_append] at same
          simp only [Option.map_some, keptGroup, same]

/-- Repetitions of fields leave no trace in the distinct query. -/
theorem distinct_addAll_eraseDups (query : Query) (fields : List String)
    {fragments : String → List Fragment}
    (sources : ∀ field, ∀ fragment ∈ fragments field,
      fragment.part ∈ [QueryPart.selections, .joins]) :
    (query.addAll (fields.eraseDups.flatMap fragments)).distinct =
      (query.addAll (fields.flatMap fragments)).distinct := by
  have allSources (fields : List String) : ∀ fragment ∈ fields.flatMap fragments,
      fragment.part ∈ [QueryPart.selections, .joins] :=
    List.forall_mem_flatMap.2 fun field _ => sources field
  rw [addAll_sources query (allSources _), addAll_sources query (allSources _)]
  simp only [distinct, List.filterMap_flatMap]
  rw [keptGroup_appendJoins_eraseDups, distinctBy_append_flatMap_eraseDups]

end Query

namespace Repository

variable {α : Type} {repository : Repository α}

/-- A selection that occurs again makes no difference to the query for a list, whatever the
handlers of filters and orderings do: with and without the repetitions composing fails, or
it leads to one query. -/
theorem manyQuery_eraseDups
    (fixed : repository.handlers.SelectsAlwaysAppend [.selections, .joins])
    (criteria : Criteria) (selects : List String) (orders : Orders) (query : Query) :
    (repository.manyQuery criteria selects orders).result = .ok query ↔
      (repository.manyQuery criteria selects.eraseDups orders).result = .ok query := by
  simp only [manyQuery, Pass.result_andThen, Query.result_dropDuplicates, Except.bind_eq_ok_iff]
  apply exists_congr
  intro filtered
  apply and_congr_right
  intro _
  apply exists_congr
  intro ordered
  apply and_congr_right
  intro _
  obtain ⟨expansion⟩ := fixed.expansion List.mem_cons_self ordered.rootAlias
  simp only [expansion.added_iff _ rfl, Query.deduplicated_eq_ok_iff, List.mem_eraseDups]
  constructor
  · rintro ⟨_, ⟨accepted, rfl⟩, readable, rfl⟩
    refine ⟨_, ⟨accepted, rfl⟩, (Query.isReadable_addAll_eraseDups _ _).2 readable, ?_⟩
    exact (ordered.distinct_addAll_eraseDups selects expansion.ofParts).symm
  · rintro ⟨_, ⟨accepted, rfl⟩, readable, rfl⟩
    refine ⟨_, ⟨accepted, rfl⟩, (Query.isReadable_addAll_eraseDups _ _).1 readable, ?_⟩
    exact ordered.distinct_addAll_eraseDups selects expansion.ofParts

/-- The join of the team of a user. -/
def teamJoin : Join :=
  Query.leftJoin "teams" "t" "t.id = u.team"

/-- The join of the club of a team. -/
def clubJoin : Join :=
  Query.leftJoin "clubs" "c" "c.id = t.club"

/-- Handlers that filter and order by age and select teams and clubs.  A club is joined by
way of the team. -/
def clubHandlers : Handlers :=
  (((Handlers.empty.fieldCriterion "age").fieldOrder "age").select "team"
    (.appending fun rootAlias => [.join rootAlias teamJoin, .selection "t"])).select "club"
      (.appending fun rootAlias =>
        [.join rootAlias teamJoin, .join rootAlias clubJoin, .selection "c"])

/-- The filter by age. -/
def ageFilters : ColumnFilters :=
  extend (fun _ => none) (Handlers.criterionName "age") { column := "age", exclude := false }

/-- The ordering by age. -/
def ageOrders : ColumnOrders :=
  extend (fun _ => none) (Handlers.orderName "age") "age"

theorem clubHandlers_filterBy : clubHandlers.FilterBy ageFilters :=
  Handlers.FilterBy.empty.extend "age" { column := "age", exclude := false }

theorem clubHandlers_orderBy : clubHandlers.OrderBy ageOrders := by
  have unordered (name : String) :
      Handlers.empty.orders.get? name = Option.map OrderHandler.ofColumn none := rfl
  exact OrderedMap.get?_insert_free unordered (Handlers.orderName "age") "age"

theorem clubHandlers_alwaysAppend :
    (userRepository clubHandlers).handlers.SelectsAlwaysAppend [.selections, .joins] := by
  have plain : ((Handlers.empty.fieldCriterion "age").fieldOrder "age").SelectsAlwaysAppend
      [.selections, .joins] := Handlers.SelectsAlwaysAppend.empty
  have fixed : clubHandlers.SelectsAlwaysAppend [.selections, .joins] := by
    apply Handlers.SelectsAlwaysAppend.select
    · apply plain.select
      apply Pass.alwaysAppends_appending
      intro rootAlias
      simp [Fragment.part]
    · apply Pass.alwaysAppends_appending
      intro rootAlias
      simp [Fragment.part]
  exact fixed.withLifecycle {}

theorem manyQuery_eraseDups_clubs :
    ∃ query,
      ((userRepository clubHandlers).manyQuery .empty
        ["club", "team", "id", "club", "", "team", "id"] .empty).result = .ok query ∧
      ((userRepository clubHandlers).manyQuery .empty
        ["club", "team", "id", ""] .empty).result = .ok query ∧
      query.selections = ["u", "c", "t", "id"] ∧
      query.aliases = ["u", "t", "c"] := by
  let query : Query :=
    { usersWhere ["u.status NOT IN (:u_status)"] [("u_status", .list [.text "deleted"])] with
      selections := ["u", "c", "t", "id"]
      joins := .ofList [("u", [teamJoin, clubJoin])] }
  have shorter : ((userRepository clubHandlers).manyQuery .empty
      ["club", "team", "id", ""] .empty).result = .ok query := by rfl
  have longer := (manyQuery_eraseDups clubHandlers_alwaysAppend .empty
    ["club", "team", "id", "club", "", "team", "id"] .empty query).2 shorter
  exact ⟨query, longer, shorter, rfl, rfl⟩

end Repository

end CriteriaQuery
