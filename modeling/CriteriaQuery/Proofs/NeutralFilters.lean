import CriteriaQuery.Proofs.Selections

/-!
# Filters that ask for nothing

A filter by null or by the empty list asks for nothing, and an entry without a field is passed
over.  Such an entry might as well not be there: whatever stands around it, composing leads to
the same query or to the same error without it.

Two entries are excepted, those of the status and of the excluded statuses.  They decide
whether deleted rows are hidden and what else is; for any other field, hiding deleted rows and
dropping its entry can be done in either order.
-/

namespace CriteriaQuery

/-- Items at which a fold stands still can be left out. -/
theorem foldlM_filter_idle {ε σ α : Type} {step : σ → α → Except ε σ} {keep : α → Bool}
    {items : List α}
    (idle : ∀ item ∈ items, keep item = false → ∀ state, step state item = .ok state)
    (first : σ) : (items.filter keep).foldlM step first = items.foldlM step first := by
  induction items generalizing first with
  | nil => rfl
  | cons item rest ih =>
      have idleLater : ∀ later ∈ rest, keep later = false →
          ∀ state, step state later = .ok state :=
        fun later inside => idle later (List.mem_cons_of_mem _ inside)
      cases kept : keep item with
      | true =>
          rw [List.filter_cons_of_pos kept, List.foldlM_cons, List.foldlM_cons]
          exact congrArg _ (funext fun state => ih idleLater state)
      | false =>
          rw [List.filter_cons_of_neg (by simp [kept]), ih idleLater, List.foldlM_cons,
            idle item List.mem_cons_self kept]
          rfl

namespace Settings

variable (settings : Settings) (hasStatus : Bool) {key : String}

/-- Hiding deleted rows leaves the other entries alone. -/
theorem get?_excludeDeleted_of_ne (notExcluded : key ≠ settings.excludedStatusKey)
    (criteria : Criteria) :
    (settings.excludeDeleted hasStatus criteria).get? key = criteria.get? key := by
  rw [excludeDeleted]
  split
  · rfl
  · exact criteria.get?_insert_of_ne notExcluded _

/-- Hiding deleted rows and dropping an entry can be done in either order, unless the entry is
that of the status or of the excluded statuses. -/
theorem excludeDeleted_erase (notStatus : key ≠ settings.statusField)
    (notExcluded : key ≠ settings.excludedStatusKey) (criteria : Criteria) :
    settings.excludeDeleted hasStatus (criteria.erase key) =
      (settings.excludeDeleted hasStatus criteria).erase key := by
  have mentioned : (criteria.erase key).contains settings.statusField =
      criteria.contains settings.statusField :=
    congrArg Option.isSome (criteria.get?_erase_of_ne notStatus.symm)
  have statuses : settings.excludedStatuses (criteria.erase key) =
      settings.excludedStatuses criteria := by
    rw [excludedStatuses, criteria.get?_erase_of_ne notExcluded.symm, excludedStatuses]
  rw [excludeDeleted, mentioned, statuses, criteria.erase_insert_of_ne notExcluded.symm,
    excludeDeleted]
  split <;> rfl

end Settings

namespace Handlers

variable {handlers : Handlers} {filters : ColumnFilters} {key : String} {value : Value}

/-- An entry that asks for nothing: it has no field, or it has a handler and its value is null
or the empty list. -/
def IsNeutral (handlers : Handlers) (entry : String × Value) : Prop :=
  entry.1 = "" ∨ (entry.2 = .null ∨ entry.2 = .list []) ∧ handlers.hasCriterion entry.1 = true

/-- A filter that asks for nothing leaves the query as it is. -/
theorem IsNeutral.result_applyCriterion (described : handlers.FilterBy filters)
    (neutral : handlers.IsNeutral (key, value)) (named : key ≠ "") (query : Query) :
    (handlers.applyCriterion (key, value) query).result = .ok query := by
  obtain ⟨nothing, registered⟩ := neutral.resolve_left named
  have found : (filters.filter? key).isSome := by
    rw [hasCriterion, criterion?, described, Option.isSome_map] at registered
    exact registered
  have unresolved : filters.predicate? query.rootAlias (key, value) = none := by
    rw [ColumnFilters.predicate?, Option.bind_eq_none_iff]
    intro filter _
    cases nothing with
    | inl null =>
        cases null
        rfl
    | inr empty =>
        cases empty
        rfl
  rw [Handlers.result_applyCriterion described, if_pos found, unresolved]
  rfl

/-- Filters are added as they are without an entry that asks for nothing. -/
theorem IsNeutral.result_addCriteria (described : handlers.FilterBy filters)
    (neutral : handlers.IsNeutral (key, value)) {criteria : Criteria}
    (inside : criteria.get? key = some value) (query : Query) :
    (handlers.addCriteria (criteria.erase key) query).result =
      (handlers.addCriteria criteria query).result := by
  have kept : namedEntries (criteria.erase key).entries =
      (namedEntries criteria.entries).filter fun entry => decide (entry.1 ≠ key) :=
    List.filter_comm _ _ _
  have idle : ∀ entry ∈ namedEntries criteria.entries, decide (entry.1 ≠ key) = false →
      ∀ state, (handlers.applyCriterion entry state).result = .ok state := by
    intro entry named dropped state
    obtain ⟨other, content⟩ := entry
    obtain ⟨member, nonempty⟩ := List.mem_filter.1 named
    obtain rfl : other = key := by simpa using dropped
    have same := inside.symm.trans (criteria.get?_eq_some_iff.2 member)
    cases same
    exact neutral.result_applyCriterion described (by simpa using nonempty) state
  simp only [addCriteria, Pass.result_andThen, Pass.result_forEach, Pass.result_report]
  rw [kept, foldlM_filter_idle idle]

end Handlers

namespace Repository

variable {α : Type} {repository : Repository α} {filters : ColumnFilters}
  {criteria : Criteria} {key : String} {value : Value}

/-- A repository adds its filters as it does without an entry that asks for nothing. -/
theorem result_addCriteria_augment_erase (described : repository.handlers.FilterBy filters)
    (inside : criteria.get? key = some value)
    (neutral : repository.handlers.IsNeutral (key, value))
    (notStatus : key ≠ repository.settings.statusField)
    (notExcluded : key ≠ repository.settings.excludedStatusKey) (query : Query) :
    (repository.handlers.addCriteria (repository.augment (criteria.erase key)) query).result =
      (repository.handlers.addCriteria (repository.augment criteria) query).result := by
  rw [augment, repository.settings.excludeDeleted_erase _ notStatus notExcluded]
  apply neutral.result_addCriteria described
  rw [repository.settings.get?_excludeDeleted_of_ne _ notExcluded]
  exact inside

/-- An entry that asks for nothing can be left out of the filters of a request.

In each of the three ways to compose, the query or the error is the same without the entry,
whichever selections and orderings are asked for and whatever their handlers do.  The entry
thus leaves no condition, no parameter and no other value of a parameter behind, even if its
field goes to a column that another field filters by as well. -/
theorem erase_neutral (described : repository.handlers.FilterBy filters)
    (inside : (key, value) ∈ criteria.entries)
    (neutral : repository.handlers.IsNeutral (key, value))
    (notStatus : key ≠ repository.settings.statusField)
    (notExcluded : key ≠ repository.settings.excludedStatusKey) :
    (∀ selects, (repository.oneQuery (criteria.erase key) selects).result =
      (repository.oneQuery criteria selects).result) ∧
    (∀ selects orders, (repository.manyQuery (criteria.erase key) selects orders).result =
      (repository.manyQuery criteria selects orders).result) ∧
    ∀ options : QueryOptions,
      (repository.buildQuery { options with criteria := criteria.erase key }).result =
        (repository.buildQuery { options with criteria }).result := by
  have same := result_addCriteria_augment_erase described
    (criteria.get?_eq_some_iff.2 inside) neutral notStatus notExcluded
  refine ⟨?_, ?_, ?_⟩
  · intro selects
    simp only [oneQuery, Pass.result_andThen, same]
  · intro selects orders
    simp only [manyQuery, Pass.result_andThen, same]
  · intro options
    simp only [buildQuery, Pass.result_andThen, same]

/-- Filters by age under two spellings, the second of which asks for nothing, and a value
without a field. -/
def agesTwice : Criteria :=
  .ofList [("age", .int 30), ("Age", .list []), ("", .text "unused")]

theorem erase_neutral_agesTwice :
    ∃ query,
      ((userRepository clubHandlers).manyQuery agesTwice ["team"] .empty).result = .ok query ∧
      ((userRepository clubHandlers).manyQuery (agesTwice.erase "Age") ["team"]
        .empty).result = .ok query ∧
      ((userRepository clubHandlers).manyQuery (agesTwice.erase "") ["team"]
        .empty).result = .ok query ∧
      query.conditions = ["u.age = :u_age", "u.status NOT IN (:u_status)"] ∧
      query.parameters.get? "u_age" = some (.int 30) := by
  let query : Query :=
    { usersWhere ["u.age = :u_age", "u.status NOT IN (:u_status)"]
        [("u_age", .int 30), ("u_status", .list [.text "deleted"])] with
      selections := ["u", "t"]
      joins := .ofList [("u", [teamJoin])] }
  have composed :
      ((userRepository clubHandlers).manyQuery agesTwice ["team"] .empty).result = .ok query := by
    rfl
  have described := userRepository_filterBy clubHandlers_filterBy
  have emptyList : ("Age", .list []) ∈ agesTwice.entries := .tail _ (.head _)
  have noField : ("", .text "unused") ∈ agesTwice.entries := .tail _ (.tail _ (.head _))
  have spelling := erase_neutral described emptyList (.inr ⟨.inr rfl, rfl⟩) (by decide) (by decide)
  have unnamed := erase_neutral described noField (.inl rfl) (by decide) (by decide)
  exact ⟨query, composed, (spelling.2.1 _ _).trans composed, (unnamed.2.1 _ _).trans composed,
    rfl, rfl⟩

end Repository

end CriteriaQuery
