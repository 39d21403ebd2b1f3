import CriteriaQuery.Proofs.FilterBinding
import CriteriaQuery.Proofs.Insertions
import CriteriaQuery.Proofs.Selections

/-!
# What a request compiles to

A filter writes the name of its parameter into its condition, and binds its value under that
name.  Rendering reads the name back, whatever the value is, so the references of the
conditions are exactly the names that are bound.

Selections add joins.  As long as these refer to nothing and are made of identifiers, every
query that can be composed for a list has a statement.
-/

namespace CriteriaQuery

namespace Text

/-- A character of parts that are joined is the separator or stands in one of the parts. -/
theorem mem_of_mem_intercalate {separator char : Char} {parts : List (List Char)}
    (inside : char ∈ [separator].intercalate parts) :
    char = separator ∨ ∃ part ∈ parts, char ∈ part := by
  induction parts with
  | nil => cases inside
  | cons first rest ih =>
      cases rest with
      | nil =>
          rw [List.intercalate_singleton] at inside
          exact .inr ⟨first, List.mem_cons_self, inside⟩
      | cons second more =>
          rw [List.intercalate_cons_cons, List.mem_append, List.mem_append,
            List.mem_singleton] at inside
          rcases inside with (here | separates) | later
          · exact .inr ⟨first, List.mem_cons_self, here⟩
          · exact .inl separates
          · rcases ih later with separates | ⟨part, member, found⟩
            · exact .inl separates
            · exact .inr ⟨part, List.mem_cons_of_mem _ member, found⟩

/-- All characters of a segment are word characters. -/
theorem isWordChar_of_isSegment {part : List Char} (segment : isSegment part = true) :
    ∀ char ∈ part, isWordChar char = true := by
  cases part with
  | nil => cases segment
  | cons first rest =>
      simp only [isSegment, Bool.and_eq_true, List.all_eq_true] at segment
      rcases segment with ⟨start, continued⟩
      intro char inside
      rcases List.mem_cons.1 inside with rfl | later
      · simp only [isSegmentStart, isWordChar, Char.isAlphanum, Bool.or_eq_true] at start ⊢
        exact start.imp_right .inl
      · exact continued char later

/-- An identifier is made of word characters and dots. -/
theorem isWordChar_of_isIdentifier {text : String} (identifier : isIdentifier text = true) :
    ∀ char ∈ text.toList, char = '.' ∨ isWordChar char = true := by
  intro char inside
  rw [isIdentifier, List.all_eq_true] at identifier
  rw [← intercalate_splitAt '.' text.toList] at inside
  rcases mem_of_mem_intercalate inside with dot | ⟨part, member, found⟩
  · exact .inl dot
  · exact .inr (isWordChar_of_isSegment (identifier part member) char found)

/-- An identifier without dots is a word. -/
theorem isWord_of_isIdentifier {text : String} (identifier : isIdentifier text = true)
    (dotFree : '.' ∉ text.toList) : IsWord text := by
  intro char inside
  rcases isWordChar_of_isIdentifier identifier char inside with rfl | word
  · exact absurd inside dotFree
  · exact word

theorem colon_not_mem_of_isIdentifier {text : String} (identifier : isIdentifier text = true) :
    ':' ∉ text.toList := by
  intro inside
  rcases isWordChar_of_isIdentifier identifier ':' inside with dot | word
  · exact absurd dot (by decide)
  · exact absurd word (by decide)

end Text

namespace Predicate

variable {rootAlias column : String} {value : Value} {exclude : Bool} {predicate : Predicate}

/-- A predicate without a parameter tests whether there is a value. -/
theorem eq_nullness (resolved : resolve rootAlias column value exclude = some predicate)
    (unbound : predicate.parameter = none) :
    predicate = nullness rootAlias column "IS NULL" ∨
      predicate = nullness rootAlias column "IS NOT NULL" := by
  rw [resolve_shape] at resolved
  generalize value.shape = shape at resolved
  cases shape with
  | null => cases resolved
  | items count =>
      cases count with
      | zero => cases resolved
      | succ count =>
          cases resolved
          cases unbound
  | nullSentinel => exact .inl (Option.some.inj resolved).symm
  | notNullSentinel => exact .inr (Option.some.inj resolved).symm
  | scalar =>
      cases resolved
      cases unbound

/-- The condition of a predicate refers to the parameter of the predicate, and to nothing if
there is none. -/
theorem references_condition
    (resolved : resolve rootAlias column value exclude = some predicate)
    (aliasWord : Text.IsWord rootAlias) (columnWord : Text.IsWord column) :
    Token.references predicate.condition = (predicate.parameter.map Prod.fst).toList := by
  by_cases bound : predicate.parameter = none
  · have target : Text.IsPlain (rootAlias ++ "." ++ column ++ " ") :=
      ((aliasWord.isPlain.append (by decide)).append columnWord.isPlain).append (by decide)
    have unreferenced {test : String} (plain : Text.IsPlain test) :
        Token.references (nullness rootAlias column test).condition = [] := by
      apply Token.references_eq_nil
      intro colon
      exact (target.append plain ':' colon).2 rfl
    rw [bound]
    rcases eq_nullness resolved bound with rfl | rfl
    · exact unreferenced (by decide)
    · exact unreferenced (by decide)
  · rcases parameter_eq resolved bound with ⟨-, parameter⟩
    obtain ⟨opening, closing, written, plainOpening, plainClosing, stops⟩ :=
      resolve_reference resolved bound aliasWord columnWord
    rw [written, parameter, Token.references_around plainOpening
      (parameterName_ne_empty rootAlias column) (isWord_parameterName aliasWord columnWord)
      plainClosing stops]
    rfl

/-- The names of the parameters of predicates are the keys of the map that they build. -/
theorem mem_keys_ofList {predicates : List Predicate} {name : String} :
    name ∈ (OrderedMap.ofList (predicates.filterMap Predicate.parameter)).keys ↔
      ∃ predicate ∈ predicates, predicate.parameter.map Prod.fst = some name := by
  rw [OrderedMap.mem_keys_ofList, List.map_filterMap, List.mem_filterMap]

end Predicate

/-- A join whose target and alias are identifiers and whose condition has no colons. -/
structure Join.IsPlain (join : Join) : Prop where
  target : Text.isIdentifier join.target = true
  joinAlias : Text.isIdentifier join.joinAlias = true
  condition : ∀ text ∈ join.condition, ':' ∉ text.toList

/-- A plain join refers to nothing. -/
theorem Join.IsPlain.references_eq_nil {join : Join} (plain : join.IsPlain) :
    Token.references join.text = [] := by
  apply Token.references_eq_nil
  have kind : ':' ∉ join.kind.keyword.toList := by
    cases join.kind <;> decide
  have target := Text.colon_not_mem_of_isIdentifier plain.target
  have joinAlias := Text.colon_not_mem_of_isIdentifier plain.joinAlias
  rcases given : join.condition with _ | condition
  · simp [Join.text, given, kind, target, joinAlias]
  · simp [Join.text, given, kind, target, joinAlias, plain.condition condition given]

/-- A selection, or a plain join. -/
def Fragment.IsPlain : Fragment → Prop
  | .selection _ => True
  | .join _ joined => joined.IsPlain
  | .condition _ => False
  | .ordering _ => False

theorem Fragment.IsPlain.part_mem {fragment : Fragment} (plain : fragment.IsPlain) :
    fragment.part ∈ [QueryPart.selections, .joins] := by
  cases fragment with
  | selection text => exact List.mem_cons_self
  | join root joined => exact List.mem_cons_of_mem _ List.mem_cons_self
  | condition | ordering => exact plain.elim

namespace Query

/-- Sort keys are appended to the orderings. -/
theorem addAll_orderings (query : Query) (keys : List SortKey) :
    query.addAll (keys.map .ordering) =
      { query with orderings := query.orderings ++ keys } := by
  induction keys generalizing query with
  | nil => simp [addAll]
  | cons key rest ih =>
      apply (ih (query.add (.ordering key))).trans
      simp [add]

/-- A query that plain selections and joins lead to. -/
def ReachesPlainly (before after : Query) : Prop :=
  ∃ fragments : List Fragment,
    (∀ fragment ∈ fragments, fragment.IsPlain) ∧ after = before.addAll fragments

namespace ReachesPlainly

theorem refl (query : Query) : query.ReachesPlainly query := by
  refine ⟨[], ?_, rfl⟩
  intro fragment inside
  cases inside

theorem trans {first second third : Query} (left : first.ReachesPlainly second)
    (right : second.ReachesPlainly third) : first.ReachesPlainly third := by
  rcases left with ⟨fragments, plain, rfl⟩
  rcases right with ⟨more, plainMore, rfl⟩
  refine ⟨fragments ++ more, ?_, (first.addAll_append fragments more).symm⟩
  intro fragment inside
  rcases List.mem_append.1 inside with before | behind
  · exact plain fragment before
  · exact plainMore fragment behind

/-- Plain selections and joins leave everything else as it is, and every join that was not
there before is plain. -/
theorem frame {before after : Query} (reaches : before.ReachesPlainly after) :
    after = { before with selections := after.selections, joins := after.joins } ∧
      ∀ join ∈ after.allJoins, join ∈ before.allJoins ∨ join.IsPlain := by
  rcases reaches with ⟨fragments, plain, rfl⟩
  constructor
  · rw [before.addAll_sources fun fragment inside => (plain fragment inside).part_mem]
  · intro join inside
    rcases mem_allJoins_addAll.1 inside with old | ⟨root, new⟩
    · exact .inl old
    · exact .inr (plain _ new)

theorem appending {fragments : String → List Fragment}
    (plain : ∀ rootAlias, ∀ fragment ∈ fragments rootAlias, fragment.IsPlain) (query : Query) :
    query.ReachesPlainly (Pass.appending fragments query).query :=
  ⟨fragments query.rootAlias, plain query.rootAlias, rfl⟩

end ReachesPlainly

/-- With plain joins a query has a statement if its table and its root alias are identifiers
and every reference in its conditions has a value. -/
theorem exists_statement_of_isPlain {query : Query}
    (table : Text.isIdentifier query.table = true)
    (rootAlias : Text.isIdentifier query.rootAlias = true)
    (plain : ∀ join ∈ query.allJoins, join.IsPlain)
    (bound : ∀ text ∈ query.conditions, ∀ name ∈ Token.references text,
      (query.parameters.get? name).isSome) :
    ∃ statement, query.statement = .ok statement := by
  apply exists_statement_iff.2
  refine ⟨table, rootAlias, ?_, ?_, bound⟩
  · intro text _ known
    rcases List.mem_cons.1 known with rfl | joined
    · exact rootAlias
    · rcases List.mem_map.1 joined with ⟨join, inside, rfl⟩
      exact (plain join inside).joinAlias
  · intro join inside name referenced
    rw [(plain join inside).references_eq_nil] at referenced
    cases referenced

end Query

namespace Handlers

/-- The handlers of selections append selections and plain joins and do nothing else. -/
def SelectsPlain (handlers : Handlers) : Prop :=
  ∀ name handler, handlers.selects.get? name = some handler →
    ∀ query : Query, query.ReachesPlainly (handler query).query

variable {handlers : Handlers}

theorem SelectsPlain.withLifecycle (plain : handlers.SelectsPlain) (settings : Settings) :
    (handlers.withLifecycle settings).SelectsPlain :=
  forall_selects_withLifecycle plain settings

theorem SelectsPlain.select (plain : handlers.SelectsPlain) (field : String)
    {added : SelectHandler} (appends : ∀ query : Query, query.ReachesPlainly (added query).query) :
    (handlers.select field added).SelectsPlain :=
  forall_selects_select plain field appends

theorem SelectsPlain.addSelects (plain : handlers.SelectsPlain) {selects : List String}
    {before after : Query} (added : (handlers.addSelects selects before).result = .ok after) :
    before.ReachesPlainly after := by
  have selection (query : Query) (text : String) :
      query.ReachesPlainly (query.addSelection text) := by
    refine ⟨[.selection text], ?_, rfl⟩
    intro fragment inside
    rw [List.mem_singleton.1 inside]
    trivial
  exact addSelects_related Query.ReachesPlainly .refl .trans plain selection added

end Handlers

namespace ColumnFilters

variable {filters : ColumnFilters} {rootAlias : String} {entries : List (String × Value)}

/-- The predicates of entries refer to the parameters that they bind, and to nothing else. -/
theorem references_predicates (aliasWord : Text.IsWord rootAlias)
    (columnWords : ∀ name filter, filters name = some filter → Text.IsWord filter.column)
    {predicate : Predicate} (inside : predicate ∈ filters.predicates rootAlias entries) :
    Token.references predicate.condition = (predicate.parameter.map Prod.fst).toList := by
  rcases List.mem_filterMap.1 inside with ⟨entry, -, resolved⟩
  rcases Option.bind_eq_some_iff.1 resolved with ⟨filter, found, resolved⟩
  exact Predicate.references_condition resolved aliasWord (columnWords _ filter found)

end ColumnFilters

namespace Repository

variable {α : Type} {repository : Repository α} {filters : ColumnFilters}
  {columns : ColumnOrders} {criteria : Criteria} {selects : List String} {orders : Orders}
  {query : Query}

/-- A query for a list has the predicates of its filters and the sort keys of its orderings.
Otherwise it is new, up to its selections and its joins, which are plain. -/
theorem manyQuery_frame (described : repository.handlers.FilterBy filters)
    (ordered : repository.handlers.OrderBy columns)
    (plain : repository.handlers.SelectsPlain)
    (composed : (repository.manyQuery criteria selects orders).result = .ok query) :
    let entries := (repository.augment criteria).entries
    let predicates := filters.predicates repository.entity.rootAlias entries
    (∀ entry ∈ Handlers.namedEntries entries, (filters.filter? entry.1).isSome) ∧
      (∀ entry ∈ Handlers.namedEntries orders.entries,
        (columns.sortKey? repository.entity.rootAlias entry).isSome) ∧
      query = { repository.freshQuery with
        selections := query.selections
        joins := query.joins
        conditions := predicates.map Predicate.condition
        orderings := columns.sortKeys repository.entity.rootAlias orders.entries
        parameters := .ofList (predicates.filterMap Predicate.parameter) } ∧
      ∀ join ∈ query.allJoins, join.IsPlain := by
  intro entries predicates
  simp only [manyQuery, Pass.result_andThen, Query.result_dropDuplicates,
    Except.bind_eq_ok_iff, Handlers.addCriteria_eq_ok_iff described,
    Handlers.addOrders_eq_ok_iff ordered, Query.deduplicated_eq_ok_iff] at composed
  rcases composed with ⟨_, ⟨handled, rfl⟩, _, ⟨sorted, rfl⟩, selected, added, -, rfl⟩
  rcases (plain.addSelects added).frame with ⟨same, plainJoins⟩
  rw [Query.addAll_orderings, Query.addPredicates_eq] at same plainJoins
  rw [Query.rootAlias_addPredicates] at sorted
  refine ⟨handled, sorted, ?_, ?_⟩
  · rw [Query.distinct, same]
    rfl
  · intro join kept
    rcases plainJoins join (Query.mem_allJoins_of_distinct kept) with fresh | plainJoin
    · cases fresh
    · exact plainJoin

/-- A query that can be composed for a list has exactly the conditions of the predicates that
its filters turn into, and exactly the sort keys of its orderings, each in order; no filter
and no ordering with a field is left out for want of a handler or a direction.  The names of
its parameters are exactly those that the predicates bind.  The query has a statement, so
nothing that it refers to is without a value. -/
theorem manyQuery_compiles (described : repository.handlers.FilterBy filters)
    (ordered : repository.handlers.OrderBy columns)
    (plain : repository.handlers.SelectsPlain)
    (columnWords : ∀ name filter, filters name = some filter → Text.IsWord filter.column)
    (table : Text.isIdentifier repository.entity.table = true)
    (rootAlias : Text.isIdentifier repository.entity.rootAlias = true)
    (dotFree : '.' ∉ repository.entity.rootAlias.toList)
    (composed : (repository.manyQuery criteria selects orders).result = .ok query) :
    let entries := (repository.augment criteria).entries
    let predicates := filters.predicates repository.entity.rootAlias entries
    (∀ entry ∈ Handlers.namedEntries entries, (filters.filter? entry.1).isSome) ∧
      query.conditions = predicates.map Predicate.condition ∧
      (∀ entry ∈ Handlers.namedEntries orders.entries,
        (columns.sortKey? repository.entity.rootAlias entry).isSome) ∧
      query.orderings = columns.sortKeys repository.entity.rootAlias orders.entries ∧
      (∀ name, name ∈ query.parameters.keys ↔
        ∃ predicate ∈ predicates, predicate.parameter.map Prod.fst = some name) ∧
      ∃ statement, query.statement = .ok statement := by
  intro entries predicates
  rcases manyQuery_frame described ordered plain composed with
    ⟨handled, sorted, filtered, plainJoins⟩
  have conditions : query.conditions = predicates.map Predicate.condition := by
    rw [filtered]
  have names (name : String) : name ∈ query.parameters.keys ↔
      ∃ predicate ∈ predicates, predicate.parameter.map Prod.fst = some name := by
    rw [filtered]
    exact Predicate.mem_keys_ofList
  refine ⟨handled, conditions, sorted, ?_, names, ?_⟩
  · rw [filtered]
  · apply Query.exists_statement_of_isPlain
    · rw [filtered]
      exact table
    · rw [filtered]
      exact rootAlias
    · exact plainJoins
    · -- what a condition refers to is what its predicate binds, and so one of the names
      intro text inside name referenced
      rw [conditions] at inside
      rcases List.mem_map.1 inside with ⟨predicate, member, rfl⟩
      have aliasWord := Text.isWord_of_isIdentifier rootAlias dotFree
      rw [filters.references_predicates aliasWord columnWords member,
        Option.mem_toList] at referenced
      exact OrderedMap.isSome_get?_iff.2 ((names name).2 ⟨predicate, member, referenced⟩)

theorem clubHandlers_selectsPlain : clubHandlers.SelectsPlain := by
  have team : teamJoin.IsPlain := by
    constructor <;> decide
  have club : clubJoin.IsPlain := by
    constructor <;> decide
  have columnsOnly : ((Handlers.empty.fieldCriterion "age").fieldOrder "age").SelectsPlain := by
    intro name handler stored
    cases stored
  apply Handlers.SelectsPlain.select
  · apply columnsOnly.select
    apply Query.ReachesPlainly.appending
    intro rootAlias
    simp [Fragment.IsPlain, team]
  · apply Query.ReachesPlainly.appending
    intro rootAlias
    simp [Fragment.IsPlain, team, club]

/-- Users of some ages, with a field that is empty, one that is null and one that is excluded. -/
def agesAndMore : Criteria :=
  .ofList [("age", .list [.int 30, .int 31]), ("", .int 7), ("excludedStatus", .text "banned"),
    ("Age", .null)]

theorem manyQuery_compiles_clubs :
    ∃ query statement,
      ((userRepository clubHandlers).manyQuery agesAndMore ["club", "id"]
        (.ofList [("", "UP"), ("age", "DESC")])).result = .ok query ∧
      query.conditions = ["u.age IN (:u_age)", "u.status NOT IN (:u_status)"] ∧
      query.orderings = [{ expression := "u.age", direction := .descending }] ∧
      (∀ name, name ∈ query.parameters.keys ↔ name = "u_age" ∨ name = "u_status") ∧
      query.statement = .ok statement := by
  let query : Query :=
    { usersWhere ["u.age IN (:u_age)", "u.status NOT IN (:u_status)"]
        [("u_age", .list [.int 30, .int 31]),
          ("u_status", .list [.text "banned", .text "deleted"])] with
      selections := ["u", "c", "id"]
      joins := .ofList [("u", [teamJoin, clubJoin])]
      orderings := [{ expression := "u.age", direction := .descending }] }
  have composed : ((userRepository clubHandlers).manyQuery agesAndMore ["club", "id"]
      (.ofList [("", "UP"), ("age", "DESC")])).result = .ok query := by rfl
  have columnWords : ∀ name filter, ageFilters.withLifecycle {} name = some filter →
      Text.IsWord filter.column := by
    intro name filter found
    rcases ColumnFilters.withLifecycle_cases found with age | ⟨-, rfl⟩ | ⟨-, rfl⟩
    · rcases extend_cases age with absent | ⟨-, rfl⟩
      · cases absent
      · decide
    · decide
    · decide
  obtain ⟨-, conditions, -, orderings, names, statement, rendered⟩ :=
    manyQuery_compiles (userRepository_filterBy clubHandlers_filterBy)
      (clubHandlers_orderBy.withLifecycle {}) (clubHandlers_selectsPlain.withLifecycle {})
      columnWords (by decide) (by decide) (by decide) composed
  refine ⟨query, statement, composed, conditions, orderings, ?_, rendered⟩
  intro name
  have predicates : (ageFilters.withLifecycle {}).predicates
        (userRepository clubHandlers).entity.rootAlias
        ((userRepository clubHandlers).augment agesAndMore).entries =
      [.membership "u" "age" (.list [.int 30, .int 31]) false,
        .membership "u" "status" (.list [.text "banned", .text "deleted"]) true] := rfl
  rw [names, predicates]
  simp [Predicate.membership, Predicate.parameterName, eq_comm]

end Repository

end CriteriaQuery
