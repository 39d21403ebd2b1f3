import CriteriaQuery.Proofs.Augmentation

/-!
# When deleted rows stay hidden

A request that does not mention the status has the deleted status added to the statuses
that it excludes.  The exclusion is a filter like any other: it shares its parameter with
every other filter on the status, and such filters can come behind it under another
spelling of their names.  The condition stays in the query whatever the request says, and
the deleted status stays excluded exactly if the last such filter, should there be one,
lists it as well.
-/

namespace CriteriaQuery

namespace OrderedMap

variable {α β : Type} [DecidableEq α]

/-- The entries behind that of a key; there are none without the key. -/
def entriesAfter (map : OrderedMap α β) (key : α) : List (α × β) :=
  (map.entries.dropWhile fun entry => decide (entry.1 ≠ key)).tail

theorem put_eq (key : α) (value : β) (entries : List (α × β)) :
    put key value entries =
      (entries.takeWhile fun entry => decide (entry.1 ≠ key)) ++
        (key, value) :: (entries.dropWhile fun entry => decide (entry.1 ≠ key)).tail := by
  induction entries with
  | nil => rfl
  | cons entry rest ih =>
      rcases entry with ⟨other, old⟩
      by_cases same : other = key
      · simp [put, same]
      · simp only [put, if_neg same, ih]
        simp [same]

/-- An insertion puts its entry in front of the entries behind the key. -/
theorem entries_insert (map : OrderedMap α β) (key : α) (value : β) :
    (map.insert key value).entries =
      (map.entries.takeWhile fun entry => decide (entry.1 ≠ key)) ++
        (key, value) :: map.entriesAfter key :=
  put_eq key value map.entries

end OrderedMap

/-- The last value is that of the last entry that counts, if there is one. -/
theorem lastValue_eq (counts : String × Value → Bool) (first : Value)
    (entries : List (String × Value)) :
    lastValue counts first entries =
      ((entries.filter counts).getLast?.map Prod.snd).getD first := by
  induction entries generalizing first with
  | nil => rfl
  | cons entry rest ih =>
      rw [lastValue, ih]
      cases counted : counts entry with
      | false => simp [counted]
      | true =>
          rw [List.filter_cons_of_pos counted, List.getLast?_cons]
          cases (rest.filter counts).getLast? <;> rfl

namespace Settings

/-- Whether an entry binds its value to the parameter of the status: it goes to one of the
two lifecycle handlers, under whatever spelling, and its value is bound. -/
def bindsStatus (settings : Settings) (entry : String × Value) : Bool :=
  !entry.1.isEmpty &&
    (Handlers.criterionName entry.1 == Handlers.criterionName settings.statusField ||
      Handlers.criterionName entry.1 == Handlers.criterionName settings.excludedStatusKey) &&
    entry.2.shape.isBound

end Settings

namespace ColumnFilters

variable {filters : ColumnFilters} {settings : Settings}

/-- Where no filter of a table is on the status, only the lifecycle filters bind it. -/
theorem binds_withLifecycle
    (otherColumns : ∀ name filter, filters name = some filter →
      filter.column ≠ settings.statusField)
    (statusFree : filters (Handlers.criterionName settings.statusField) = none)
    (keyFree : filters (Handlers.criterionName settings.excludedStatusKey) = none) :
    (filters.withLifecycle settings).binds settings.statusField = settings.bindsStatus := by
  funext entry
  have target : ((filters.withLifecycle settings).filter? entry.1).any
        (·.column == settings.statusField) =
      (Handlers.criterionName entry.1 == Handlers.criterionName settings.statusField ||
        Handlers.criterionName entry.1 ==
          Handlers.criterionName settings.excludedStatusKey) := by
    simp only [filter?, withLifecycle]
    generalize Handlers.criterionName entry.1 = name
    by_cases isKey : name = Handlers.criterionName settings.excludedStatusKey
    · subst isKey
      simp only [extend, keyFree, Option.none_or]
      split <;> simp
    · by_cases isStatus : name = Handlers.criterionName settings.statusField
      · subst isStatus
        simp [extend, statusFree]
      · rw [extend_of_ne _ isKey, extend_of_ne _ isStatus]
        rw [beq_eq_false_iff_ne.2 isKey, beq_eq_false_iff_ne.2 isStatus]
        cases found : filters name with
        | none => rfl
        | some filter => exact beq_eq_false_iff_ne.2 (otherColumns name filter found)
  simp only [binds, Settings.bindsStatus]
  rw [target]

end ColumnFilters

/-- A list with an item is filtered by membership. -/
theorem Predicate.resolve_list (rootAlias column : String) {items : List Value}
    (nonempty : items ≠ []) (exclude : Bool) :
    resolve rootAlias column (.list items) exclude =
      some (membership rootAlias column (.list items) exclude) := by
  cases items with
  | nil => exact absurd rfl nonempty
  | cons first rest => rfl

namespace Query

/-- An entry that excludes a list leaves its condition, and the parameter that all filters
on the column share. -/
theorem exclusion_of_entry {filters : ColumnFilters} {rootAlias key column : String}
    {before after : List (String × Value)} {items : List Value} {start filtered : Query}
    (added : filtered = start.addPredicates
      (filters.predicates rootAlias (before ++ (key, .list items) :: after)))
    (named : key ≠ "") (nonempty : items ≠ [])
    (found : filters.filter? key = some { column, exclude := true }) :
    (rootAlias ++ "." ++ column ++ " NOT IN (:" ++ (rootAlias ++ "_" ++ column) ++ ")") ∈
        filtered.conditions ∧
      filtered.parameters.get? (rootAlias ++ "_" ++ column) =
        some (lastValue (filters.binds column) (.list items) after) := by
  have resolved := Predicate.resolve_list rootAlias column nonempty true
  have bound : (Predicate.membership rootAlias column (.list items) true).parameter ≠ none := by
    simp [Predicate.membership]
  rcases conjunct_of_entry added named found resolved bound with ⟨conjunct, parameter⟩
  have written : rootAlias ++ "." ++ column ++ " NOT IN (:" ++ (rootAlias ++ "_" ++ column) ++ ")" =
      (Predicate.membership rootAlias column (.list items) true).condition := by
    simp only [Predicate.membership, Predicate.parameterName, String.append_assoc]
    rfl
  constructor
  · rw [written]
    exact List.mem_of_getElem? conjunct
  · exact parameter

end Query

namespace Repository

/-- The entries of a request that does not mention the status, together with the exclusion
of deleted rows. -/
theorem entries_augment {α : Type} {entity : Entity} {handlers : Handlers}
    {declares : String → String → Bool} {settings : Settings}
    {decode : Row → Except QueryError α}
    (declared : declares entity.table settings.statusField = true) {criteria : Criteria}
    (unmentioned : criteria.contains settings.statusField = false) :
    ((create entity handlers declares settings decode).augment criteria).entries =
      (criteria.entries.takeWhile fun entry =>
          decide (entry.1 ≠ settings.excludedStatusKey)) ++
        (settings.excludedStatusKey, settings.excludedStatuses criteria) ::
          criteria.entriesAfter settings.excludedStatusKey := by
  rw [augment_eq_insert unmentioned declared]
  exact criteria.entries_insert _ _

/-- A request that does not mention the status keeps the condition that excludes statuses.
The deleted status is among the excluded ones exactly if the last entry behind the
exclusion that binds the status, if there is one, lists it. -/
theorem deleted_excluded_iff {α : Type} {entity : Entity} {handlers : Handlers}
    {declares : String → String → Bool} {settings : Settings}
    {decode : Row → Except QueryError α} {filters : ColumnFilters} {columns : ColumnOrders}
    {parts : List QueryPart}
    (declared : declares entity.table settings.statusField = true)
    (keyNamed : settings.excludedStatusKey ≠ "")
    (distinct : Handlers.criterionName settings.excludedStatusKey ≠
      Handlers.criterionName settings.statusField)
    (described : handlers.FilterBy filters)
    (otherColumns : ∀ name filter, filters name = some filter →
      filter.column ≠ settings.statusField)
    (statusFree : filters (Handlers.criterionName settings.statusField) = none)
    (keyFree : filters (Handlers.criterionName settings.excludedStatusKey) = none)
    (ordered : handlers.OrderBy columns) (selected : handlers.SelectsAppend parts)
    {criteria : Criteria} (unmentioned : criteria.contains settings.statusField = false)
    {query : Query}
    (composes : (create entity handlers declares settings decode).Composes criteria query) :
    (entity.rootAlias ++ "." ++ settings.statusField ++ " NOT IN (:" ++
        (entity.rootAlias ++ "_" ++ settings.statusField) ++ ")") ∈ query.conditions ∧
      ((∃ items,
          query.parameters.get? (entity.rootAlias ++ "_" ++ settings.statusField) =
              some (.list items) ∧
            settings.deletedStatus ∈ items) ↔
        ∀ entry ∈ ((criteria.entriesAfter settings.excludedStatusKey).filter
            settings.bindsStatus).getLast?,
          ∃ items, entry.2 = .list items ∧ settings.deletedStatus ∈ items) := by
  let repository := create entity handlers declares settings decode
  have handlersEq : repository.handlers = handlers.withLifecycle settings := if_pos declared
  have tables : repository.handlers.FilterBy (filters.withLifecycle settings) :=
    handlersEq ▸ described.withLifecycle settings
  have selects : repository.handlers.SelectsAppend parts :=
    handlersEq ▸ selected.withLifecycle settings
  have keep : repository.handlers.KeepFilters :=
    (handlersEq ▸ ordered.withLifecycle settings).keepFilters selects
  rcases composes.filtered keep selects with ⟨start, filtered, sameAlias, added, kept⟩
  have aliasEq : start.rootAlias = entity.rootAlias := sameAlias
  have filteredEq := Handlers.addCriteria_eq_ok tables added
  -- the exclusion is one entry among the others: it has the last word on its parameter
  -- unless an entry behind it binds the status again
  rw [entries_augment declared unmentioned, aliasEq] at filteredEq
  have found : (filters.withLifecycle settings).filter? settings.excludedStatusKey =
      some { column := settings.statusField, exclude := true } :=
    extend_self ((extend_of_ne filters distinct _).trans keyFree) _
  obtain ⟨condition, parameter⟩ :=
    Query.exclusion_of_entry filteredEq keyNamed (by simp) found
  rw [ColumnFilters.binds_withLifecycle otherColumns statusFree keyFree, lastValue_eq] at parameter
  refine ⟨kept.conditions.mem condition, ?_⟩
  rw [kept.parameters _ _ parameter]
  cases (((criteria.entriesAfter settings.excludedStatusKey).filter
      settings.bindsStatus).getLast?) with
  | none => simp
  | some entry => simp

/-- An excluded status, and another exclusion under the same name in another spelling. -/
def excludedTwice (exclusion : Value) : Criteria :=
  .ofList [("age", .int 30), ("excludedStatus", .text "archived"), ("ExcludedStatus", exclusion)]

theorem deleted_excluded_iff_excludedTwice :
    ∃ query,
      (userRepository (Handlers.empty.fieldCriterion "age")).Composes
        (excludedTwice (.list [.text "deleted", .text "banned"])) query ∧
      "u.status NOT IN (:u_status)" ∈ query.conditions ∧
      ∃ items, query.parameters.get? "u_status" = some (.list items) ∧
        .text "deleted" ∈ items := by
  let age : ColumnFilter := { column := "age", exclude := false }
  let filters : ColumnFilters := extend (fun _ => none) (Handlers.criterionName "age") age
  have described : (Handlers.empty.fieldCriterion "age").FilterBy filters :=
    Handlers.FilterBy.empty.extend "age" age
  have otherColumns : ∀ name filter, filters name = some filter →
      filter.column ≠ "status" := by
    intro name filter found
    rcases extend_cases found with absent | ⟨-, rfl⟩
    · cases absent
    · decide
  have ordered : (Handlers.empty.fieldCriterion "age").OrderBy fun _ => none := fun _ => rfl
  have selected : (Handlers.empty.fieldCriterion "age").SelectsAppend [] := by
    intro name handler stored
    cases stored
  let query := usersWhere
    ["u.age = :u_age", "u.status NOT IN (:u_status)", "u.status NOT IN (:u_status)"]
    [("u_age", .int 30), ("u_status", .list [.text "deleted", .text "banned"])]
  have composed : ((userRepository (Handlers.empty.fieldCriterion "age")).manyQuery
      (excludedTwice (.list [.text "deleted", .text "banned"])) [] .empty).result =
        .ok query := rfl
  have composes := Composes.many [] .empty composed
  obtain ⟨condition, excluded⟩ := deleted_excluded_iff rfl (by decide) (by decide) described
    otherColumns rfl rfl ordered selected rfl composes
  refine ⟨query, composes, condition, excluded.2 ?_⟩
  intro entry last
  cases last
  exact ⟨_, rfl, by simp⟩

/-- Deleted users are found where the second exclusion replaces the first. -/
theorem deleted_not_excluded :
    (excludedTwice (.list [.text "archived"])).contains "status" = false ∧
      ∃ query,
        (userRepository (Handlers.empty.fieldCriterion "age")).Composes
          (excludedTwice (.list [.text "archived"])) query ∧
        query.conditions =
          ["u.age = :u_age", "u.status NOT IN (:u_status)", "u.status NOT IN (:u_status)"] ∧
        query.parameters.get? "u_status" = some (.list [.text "archived"]) ∧
        ¬∃ items, query.parameters.get? "u_status" = some (.list items) ∧
          .text "deleted" ∈ items := by
  let query := usersWhere
    ["u.age = :u_age", "u.status NOT IN (:u_status)", "u.status NOT IN (:u_status)"]
    [("u_age", .int 30), ("u_status", .list [.text "archived"])]
  have composed : ((userRepository (Handlers.empty.fieldCriterion "age")).manyQuery
      (excludedTwice (.list [.text "archived"])) [] .empty).result = .ok query := rfl
  have bound : query.parameters.get? "u_status" = some (.list [.text "archived"]) := rfl
  refine ⟨rfl, query, .many [] .empty composed, rfl, bound, ?_⟩
  rintro ⟨items, list, deleted⟩
  rw [bound] at list
  cases list
  simp at deleted

end Repository

end CriteriaQuery
