import CriteriaQuery.Proofs.Selections

/-!
# The three ways to compose

A query for one entity, a query for a list and a query from options run the same passes,
but not in the same order.  Where filters and orderings are by columns and selections append
fixed fragments, each pass writes to parts of its own and reads no more than the root alias.
The passes therefore accept the same requests in any order, and lead to the same query.
-/

namespace CriteriaQuery

namespace Query

/-- Fragments that are no conditions can be appended before or after a predicate. -/
theorem addAll_addPredicate (query : Query) {fragments : List Fragment}
    (other : ∀ fragment ∈ fragments, fragment.part ≠ .conditions) (predicate : Predicate) :
    (query.addAll fragments).addPredicate predicate =
      (query.addPredicate predicate).addAll fragments := by
  induction fragments generalizing query with
  | nil => rfl
  | cons fragment rest ih =>
      have swap : (query.add fragment).addPredicate predicate =
          (query.addPredicate predicate).add fragment := by
        rw [addPredicate_eq, addPredicate_eq]
        cases fragment with
        | condition text => exact absurd rfl (other _ List.mem_cons_self)
        | selection | join | ordering => rfl
      have behind := ih (query.add fragment) fun later inside =>
        other later (List.mem_cons_of_mem _ inside)
      exact behind.trans (congrArg (addAll · rest) swap)

/-- They can be appended before or after any predicates. -/
theorem addAll_addPredicates (query : Query) {fragments : List Fragment}
    (other : ∀ fragment ∈ fragments, fragment.part ≠ .conditions)
    (predicates : List Predicate) :
    (query.addAll fragments).addPredicates predicates =
      (query.addPredicates predicates).addAll fragments := by
  induction predicates generalizing query with
  | nil => rfl
  | cons predicate rest ih =>
      exact (congrArg (addPredicates · rest) (query.addAll_addPredicate other predicate)).trans
        (ih (query.addPredicate predicate))

/-- A query with a limit and an offset, whatever it had. -/
def paginated (query : Query) (limit offset : Option Int64) : Query :=
  (query.setLimit limit).setOffset offset

end Query

namespace Repository

variable {α : Type} {repository : Repository α} {filters : ColumnFilters}
  {columns : ColumnOrders}

@[simp] theorem rootAlias_freshQuery :
    repository.freshQuery.rootAlias = repository.entity.rootAlias := rfl

/-- Whether the passes accept a request: there is a handler for every filter, a handler and
a direction for every ordering, and no selection is refused. -/
structure Accepts (repository : Repository α) (filters : ColumnFilters) (columns : ColumnOrders)
    {parts : List QueryPart}
    (expansion : repository.handlers.Expansion parts repository.entity.rootAlias)
    (criteria : Criteria) (selects : List String) (orders : Orders) : Prop where
  criteria : ∀ entry ∈ Handlers.namedEntries (repository.augment criteria).entries,
    (filters.filter? entry.1).isSome
  orders : ∀ entry ∈ Handlers.namedEntries orders.entries,
    (columns.sortKey? repository.entity.rootAlias entry).isSome
  selects : ∀ field ∈ selects, expansion.accepts field

/-- What the passes put together, before duplicates are dropped: predicates, sort keys, and
what the selections expand to. -/
def assembled (repository : Repository α) (filters : ColumnFilters) (columns : ColumnOrders)
    {parts : List QueryPart}
    (expansion : repository.handlers.Expansion parts repository.entity.rootAlias)
    (criteria : Criteria) (selects : List String) (orders : Orders) : Query :=
  let rootAlias := repository.entity.rootAlias
  ((repository.freshQuery.addPredicates
    (filters.predicates rootAlias (repository.augment criteria).entries)).addAll
      ((columns.sortKeys rootAlias orders.entries).map .ordering)).addAll
        (selects.flatMap expansion.fragments)

variable {parts : List QueryPart}
  (expansion : repository.handlers.Expansion parts repository.entity.rootAlias)

/-- A query for a list is what the passes put together, without duplicates. -/
theorem manyQuery_eq_ok_iff (described : repository.handlers.FilterBy filters)
    (ordered : repository.handlers.OrderBy columns) {criteria : Criteria}
    {selects : List String} {orders : Orders} {query : Query} :
    (repository.manyQuery criteria selects orders).result = .ok query ↔
      repository.Accepts filters columns expansion criteria selects orders ∧
        (repository.assembled filters columns expansion criteria selects orders).IsReadable ∧
        query =
          (repository.assembled filters columns expansion criteria selects orders).distinct := by
  simp only [manyQuery, Pass.result_andThen, Query.result_dropDuplicates,
    Except.bind_eq_ok_iff, Handlers.addCriteria_eq_ok_iff described,
    Handlers.addOrders_eq_ok_iff ordered, expansion.added_iff, Query.deduplicated_eq_ok_iff,
    Query.rootAlias_addPredicates, Query.rootAlias_addAll, rootAlias_freshQuery, and_assoc,
    exists_and_left, exists_eq_left]
  constructor
  · rintro ⟨handled, sorted, accepted, readable, rfl⟩
    exact ⟨⟨handled, sorted, accepted⟩, readable, rfl⟩
  · rintro ⟨⟨handled, sorted, accepted⟩, readable, rfl⟩
    exact ⟨handled, sorted, accepted, readable, rfl⟩

/-- Selections and joins can be put first. -/
theorem assembled_eq
    (expansion : repository.handlers.Expansion [.selections, .joins] repository.entity.rootAlias)
    (criteria : Criteria) (selects : List String) (orders : Orders) :
    repository.assembled filters columns expansion criteria selects orders =
      (((repository.freshQuery.addAll (selects.flatMap expansion.fragments)).addPredicates
        (filters.predicates repository.entity.rootAlias
          (repository.augment criteria).entries)).addAll
        ((columns.sortKeys repository.entity.rootAlias orders.entries).map .ordering)) := by
  have sources : ∀ fragment ∈ selects.flatMap expansion.fragments,
      fragment.part ∈ [QueryPart.selections, .joins] :=
    List.forall_mem_flatMap.2 fun field _ => expansion.ofParts field
  have noConditions : ∀ fragment ∈ selects.flatMap expansion.fragments,
      fragment.part ≠ .conditions := by
    intro fragment inside condition
    have part := sources fragment inside
    rw [condition] at part
    simp at part
  rw [Query.addAll_addPredicates _ noConditions]
  apply Query.addAll_comm
  intro left inside right member same
  rcases List.mem_map.1 inside with ⟨key, -, rfl⟩
  have part := sources right member
  rw [← same] at part
  simp [Fragment.part] at part

/-- A query from options is the same query with the limit and the offset of the options. -/
theorem buildQuery_eq_ok_iff (described : repository.handlers.FilterBy filters)
    (ordered : repository.handlers.OrderBy columns)
    (expansion : repository.handlers.Expansion [.selections, .joins] repository.entity.rootAlias)
    {options : QueryOptions} {query : Query} :
    (repository.buildQuery options).result = .ok query ↔
      repository.Accepts filters columns expansion options.criteria options.select
          options.orderBy ∧
        (repository.assembled filters columns expansion options.criteria options.select
          options.orderBy).IsReadable ∧
        query = (repository.assembled filters columns expansion options.criteria options.select
          options.orderBy).distinct.paginated options.limit options.offset := by
  simp only [buildQuery, Pass.result_andThen, Pass.result_update, Query.result_dropDuplicates,
    Except.bind_eq_ok_iff, expansion.added_iff _ rootAlias_freshQuery,
    Handlers.addCriteria_eq_ok_iff described, Handlers.addOrders_eq_ok_iff ordered,
    Query.deduplicated_eq_ok_iff, assembled_eq,
    Query.rootAlias_addPredicates, Query.rootAlias_addAll, rootAlias_freshQuery, and_assoc,
    exists_and_left, exists_eq_left, Except.ok.injEq, exists_eq_left']
  constructor
  · rintro ⟨accepted, handled, sorted, readable, rfl⟩
    exact ⟨⟨handled, sorted, accepted⟩, readable, rfl⟩
  · rintro ⟨⟨handled, sorted, accepted⟩, readable, rfl⟩
    exact ⟨accepted, handled, sorted, readable, rfl⟩

/-- A query from options can be composed exactly if the query for a list can, and it is that
query with the limit and the offset of the options.  The query for one entity is, as a
result, the query for a list without orderings. -/
theorem entryPoints_agree (described : repository.handlers.FilterBy filters)
    (ordered : repository.handlers.OrderBy columns)
    (fixed : repository.handlers.SelectsAlwaysAppend [.selections, .joins])
    (options : QueryOptions) :
    (∀ built, (repository.buildQuery options).result = .ok built ↔
      ∃ listed,
        (repository.manyQuery options.criteria options.select options.orderBy).result =
            .ok listed ∧
          built = { listed with limit := options.limit, offset := options.offset }) ∧
      (repository.oneQuery options.criteria options.select).result =
        (repository.manyQuery options.criteria options.select .empty).result := by
  constructor
  · intro built
    obtain ⟨expansion⟩ := fixed.expansion List.mem_cons_self repository.entity.rootAlias
    rw [buildQuery_eq_ok_iff described ordered expansion]
    simp only [manyQuery_eq_ok_iff expansion described ordered]
    constructor
    · rintro ⟨accepted, readable, rfl⟩
      exact ⟨_, ⟨accepted, readable, rfl⟩, rfl⟩
    · rintro ⟨_, ⟨accepted, readable, rfl⟩, rfl⟩
      exact ⟨accepted, readable, rfl⟩
  · have unordered (query : Query) :
        (repository.handlers.addOrders .empty query).result = .ok query := rfl
    simp only [oneQuery, manyQuery, Pass.result_andThen, unordered]
    rfl

/-- A page of users of an age with their clubs. -/
def clubPage : QueryOptions where
  select := ["club", "team"]
  criteria := .ofList [("age", .int 30)]
  orderBy := .ofList [("age", "DESC")]
  limit := some 10
  offset := some 20

theorem entryPoints_agree_clubPage :
    ∃ listed,
      ((userRepository clubHandlers).manyQuery clubPage.criteria clubPage.select
        clubPage.orderBy).result = .ok listed ∧
      ((userRepository clubHandlers).buildQuery clubPage).result =
        .ok { listed with limit := some 10, offset := some 20 } ∧
      ((userRepository clubHandlers).oneQuery clubPage.criteria clubPage.select).result =
        .ok { listed with orderings := [] } ∧
      listed.conditions = ["u.age = :u_age", "u.status NOT IN (:u_status)"] := by
  let listed : Query :=
    { usersWhere ["u.age = :u_age", "u.status NOT IN (:u_status)"]
        [("u_age", .int 30), ("u_status", .list [.text "deleted"])] with
      selections := ["u", "c", "t"]
      joins := .ofList [("u", [teamJoin, clubJoin])]
      orderings := [{ expression := "u.age", direction := .descending }] }
  have composed : ((userRepository clubHandlers).manyQuery clubPage.criteria clubPage.select
      clubPage.orderBy).result = .ok listed := by rfl
  have unordered : ((userRepository clubHandlers).manyQuery clubPage.criteria clubPage.select
      .empty).result = .ok { listed with orderings := [] } := by rfl
  obtain ⟨built, one⟩ := entryPoints_agree (userRepository_filterBy clubHandlers_filterBy)
    (clubHandlers_orderBy.withLifecycle {}) clubHandlers_alwaysAppend clubPage
  refine ⟨listed, composed, (built _).2 ⟨listed, composed, rfl⟩, ?_, rfl⟩
  rw [one]
  exact unordered

end Repository

end CriteriaQuery
