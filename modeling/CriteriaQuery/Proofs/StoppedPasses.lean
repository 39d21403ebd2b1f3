import CriteriaQuery.Proofs.Selections

/-!
# Passes that stop

A handler of a column either refuses its entry, whatever the query, or makes a change that
cannot fail; it never does both.  A pass over the entries of a request therefore stops at the
first entry that is refused, and leaves exactly what the entries in front of it lead to: of
that entry and those behind it there is nothing in the query.
-/

namespace CriteriaQuery

/-- The first entries of a map. -/
def OrderedMap.take {α β : Type} (map : OrderedMap α β) (count : Nat) : OrderedMap α β where
  entries := map.entries.take count
  nodup_keys := map.nodup_keys.sublist ((List.take_sublist count map.entries).map Prod.fst)

namespace Pass

variable {α : Type} {step : α → Pass} {refusal? : α → Option QueryError}

/-- A pass for the items of two lists is one for the first and then one for the second. -/
theorem forEach_append (step : α → Pass) (first second : List α) :
    forEach step (first ++ second) = (forEach step first).andThen (forEach step second) := by
  induction first with
  | nil => exact (skip_andThen _).symm
  | cons item rest ih => rw [List.cons_append, forEach, forEach, ih, andThen_assoc]

/-- Items that are left out might as well be passed over. -/
theorem forEach_filter (step : α → Pass) (keep : α → Bool) (items : List α) :
    forEach step (items.filter keep) =
      forEach (fun item => if keep item then step item else skip) items := by
  induction items with
  | nil => rfl
  | cons item rest ih =>
      cases kept : keep item with
      | true => rw [List.filter_cons_of_pos kept, forEach, forEach, ih, kept, if_pos rfl]
      | false =>
          rw [List.filter_cons_of_neg (by simp [kept]), forEach, ih, kept,
            if_neg Bool.false_ne_true, skip_andThen]

/-- A pass that is decided before it sees a query: it fails with an error and changes nothing, or
it makes a change that cannot fail. -/
inductive Decided : Pass → Option QueryError → Prop where
  | refused (error : QueryError) : Decided (.fail error) (some error)
  | accepted (change : Query → Query) : Decided (.update change) none

theorem Decided.eq_fail {pass : Pass} {error : QueryError} (decided : pass.Decided (some error)) :
    pass = .fail error := by
  cases decided
  rfl

theorem Decided.exists_update {pass : Pass} (decided : pass.Decided none) :
    ∃ change, pass = .update change := by
  cases decided with
  | accepted change => exact ⟨change, rfl⟩

/-- An entry without a field is passed over. -/
theorem Decided.named {pass : Pass} {refusal? : Option QueryError}
    (decided : pass.Decided refusal?) (field : String) :
    Decided (if !field.isEmpty then pass else skip) (if field = "" then none else refusal?) := by
  by_cases unnamed : field = ""
  · subst unnamed
    exact .accepted id
  · rw [if_neg unnamed, if_pos (by simpa using unnamed)]
    exact decided

section Run

variable (decided : ∀ item, (step item).Decided (refusal? item))

include decided

/-- A pass over items none of which is refused is a change that cannot fail. -/
theorem forEach_accepted {items : List α} (passed : ∀ item ∈ items, refusal? item = none) :
    ∃ change, forEach step items = .update change := by
  induction items with
  | nil => exact ⟨id, rfl⟩
  | cons item rest ih =>
      have accepted := decided item
      rw [passed item List.mem_cons_self] at accepted
      obtain ⟨first, stepped⟩ := accepted.exists_update
      obtain ⟨later, continued⟩ :=
        ih fun other inside => passed other (List.mem_cons_of_mem _ inside)
      refine ⟨later ∘ first, ?_⟩
      rw [forEach, stepped, continued]
      rfl

/-- A pass has the error of the first item that is refused. -/
theorem error_forEach (items : List α) (query : Query) :
    (forEach step items query).error = items.findSome? refusal? := by
  induction items generalizing query with
  | nil => rfl
  | cons item rest ih =>
      have one := decided item
      rw [forEach, List.findSome?_cons]
      cases found : refusal? item with
      | some error =>
          rw [found] at one
          rw [one.eq_fail, fail_andThen]
          rfl
      | none =>
          rw [found] at one
          obtain ⟨change, stepped⟩ := one.exists_update
          rw [stepped]
          exact ih (change query)

/-- A pass leaves the query as the items in front of the first refused one do. -/
theorem query_forEach {before after : List α} {item : α} {error : QueryError}
    (passed : ∀ earlier ∈ before, refusal? earlier = none)
    (refused : refusal? item = some error) (query : Query) :
    (forEach step (before ++ item :: after) query).query = (forEach step before query).query := by
  obtain ⟨change, changed⟩ := forEach_accepted decided passed
  have failing := decided item
  rw [refused] at failing
  rw [forEach_append, forEach, failing.eq_fail, fail_andThen, changed]
  rfl

end Run

/-- A pass over the entries of a map that fails exactly if an entry is refused.  It then has the
error of the first such entry, and leaves the query as the entries in front of it do alone,
which do not fail. -/
def StopsAtFirst {β : Type} (pass : OrderedMap String β → Pass)
    (refusal? : String × β → Option QueryError) : Prop :=
  ∀ (map : OrderedMap String β) (query : Query),
    ((pass map query).error ≠ none ↔ ∃ entry ∈ map.entries, refusal? entry ≠ none) ∧
    ∀ before entry after error, map.entries = before ++ entry :: after →
      (∀ earlier ∈ before, refusal? earlier = none) → refusal? entry = some error →
      let front := map.take before.length
      (pass map query).error = some error ∧
        (pass front query).error = none ∧
        (pass map query).query = (pass front query).query

theorem error_andThen_report (pass : Pass) (event : Query → Event) (query : Query) :
    (pass.andThen (report event) query).error = (pass query).error := by
  rw [andThen]
  rcases pass query with ⟨changed, events, error⟩
  cases error <;> rfl

theorem query_andThen_report (pass : Pass) (event : Query → Event) (query : Query) :
    (pass.andThen (report event) query).query = (pass query).query := by
  rw [andThen]
  rcases pass query with ⟨changed, events, error⟩
  cases error <;> rfl

/-- A pass of steps that are decided beforehand, with a report at the end, stops at the first
entry that is refused. -/
theorem stopsAtFirst_of_decided {β : Type} {step : String × β → Pass}
    {refusal? : String × β → Option QueryError}
    (decided : ∀ entry, (step entry).Decided (refusal? entry))
    (event : OrderedMap String β → Query → Event) :
    StopsAtFirst (fun map => (forEach step map.entries).andThen (.report (event map)))
      refusal? := by
  intro map query
  simp only [error_andThen_report, query_andThen_report, error_forEach decided]
  constructor
  · simp [List.findSome?_eq_none_iff]
  · intro before entry after error split passed refused
    have front : (map.take before.length).entries = before := by
      simp [OrderedMap.take, split]
    have nothing : before.findSome? refusal? = none := List.findSome?_eq_none_iff.2 passed
    rw [front, split]
    refine ⟨?_, nothing, query_forEach decided passed refused query⟩
    rw [List.findSome?_append, nothing, List.findSome?_cons, refused]
    rfl

end Pass

namespace Handlers

variable {handlers : Handlers} {filters : ColumnFilters} {columns : ColumnOrders}

/-- Why an entry cannot be filtered by: its field has no handler.  An entry without a field is
passed over. -/
def criterionRefusal? (handlers : Handlers) (entry : String × Value) : Option QueryError :=
  if entry.1 = "" then none
  else if handlers.hasCriterion entry.1 then none
  else some (.configuration (.missingHandler (criterionName entry.1)))

/-- Why an entry cannot be ordered by: its field has no handler, or its direction is not spelled
exactly as one of the two.  An entry without a field is passed over. -/
def orderRefusal? (handlers : Handlers) (entry : String × String) : Option QueryError :=
  if entry.1 = "" then none
  else if handlers.hasOrder entry.1 then
    if entry.2 = "ASC" ∨ entry.2 = "DESC" then none
    else some (.configuration (.unknownDirection entry.2))
  else some (.configuration (.missingHandler (orderName entry.1)))

/-- A filter by a column is decided by its entry. -/
theorem decided_applyCriterion (described : handlers.FilterBy filters)
    (entry : String × Value) :
    (handlers.applyCriterion entry).Decided
      (if handlers.hasCriterion entry.1 then none
        else some (.configuration (.missingHandler (criterionName entry.1)))) := by
  cases stored : handlers.criterion? entry.1 with
  | none =>
      simp only [applyCriterion, requireCriterion, hasCriterion, stored, Option.isSome_none]
      exact .refused _
  | some handler =>
      obtain ⟨filter, -, rfl⟩ := Option.map_eq_some_iff.1 ((described _).symm.trans stored)
      simp only [applyCriterion, requireCriterion, hasCriterion, stored, Option.isSome_some]
      exact .accepted _

/-- An ordering by a column is decided by its entry, as the direction is read before anything is
added. -/
theorem decided_applyOrder (ordered : handlers.OrderBy columns) (entry : String × String) :
    (handlers.applyOrder entry).Decided
      (if handlers.hasOrder entry.1 then
        if entry.2 = "ASC" ∨ entry.2 = "DESC" then none
        else some (.configuration (.unknownDirection entry.2))
      else some (.configuration (.missingHandler (orderName entry.1)))) := by
  cases stored : handlers.order? entry.1 with
  | none =>
      simp only [applyOrder, requireOrder, hasOrder, stored, Option.isSome_none]
      exact .refused _
  | some handler =>
      obtain ⟨column, -, rfl⟩ := Option.map_eq_some_iff.1 ((ordered _).symm.trans stored)
      simp only [applyOrder, requireOrder, hasOrder, stored, Option.isSome_some,
        OrderHandler.ofColumn, SortDirection.ofKeyword, SortDirection.ofKeyword?]
      by_cases ascending : entry.2 = "ASC"
      · simp only [ascending, if_true, true_or]
        exact .accepted _
      · by_cases descending : entry.2 = "DESC"
        · simp only [descending, if_true, or_true]
          exact .accepted _
        · simp only [ascending, descending, if_true, if_false, or_self]
          exact .refused _

/-- Filters and orderings by columns stop at the first entry that is refused: one that names a
field without a handler or, among orderings, a direction that is neither `ASC` nor `DESC`. -/
theorem stop_at_first_refusal (described : handlers.FilterBy filters)
    (ordered : handlers.OrderBy columns) :
    Pass.StopsAtFirst handlers.addCriteria handlers.criterionRefusal? ∧
      Pass.StopsAtFirst handlers.addOrders handlers.orderRefusal? := by
  -- The passes leave out the entries without a field, which is to pass them over.
  constructor
  · have stops := Pass.stopsAtFirst_of_decided
      (fun entry => (decided_applyCriterion described entry).named entry.1) fun map query =>
        .criteriaApplied (namedEntries map.entries).length query.conditions.length
    simp only [← Pass.forEach_filter] at stops
    exact stops
  · have stops := Pass.stopsAtFirst_of_decided
      (fun entry => (decided_applyOrder ordered entry).named entry.1) fun map query =>
        .orderingsApplied query.orderings.length
    simp only [← Pass.forEach_filter] at stops
    exact stops

theorem stop_at_first_refusal_clubs :
    let query := Query.ofTable "users" "u"
    let criteria : OrderedMap String Value :=
      .ofList [("age", .int 30), ("", .text "x"), ("name", .text "Al"), ("Age", .int 31)]
    let orders : OrderedMap String String :=
      .ofList [("age", "DESC"), ("Age", "down"), ("", "ASC")]
    let filtered := Repository.clubHandlers.addCriteria criteria query
    let sorted := Repository.clubHandlers.addOrders orders query
    filtered.error = some (.configuration (.missingHandler "addCriterionName")) ∧
      filtered.query = (Repository.clubHandlers.addCriteria (criteria.take 2) query).query ∧
      filtered.query.conditions = ["u.age = :u_age"] ∧
      sorted.error = some (.configuration (.unknownDirection "down")) ∧
      sorted.query = (Repository.clubHandlers.addOrders (orders.take 1) query).query ∧
      sorted.query.orderings = [{ expression := "u.age", direction := .descending }] := by
  intro query criteria orders filtered sorted
  obtain ⟨criteriaStop, ordersStop⟩ := stop_at_first_refusal Repository.clubHandlers_filterBy
    Repository.clubHandlers_orderBy
  have unknownField : Repository.clubHandlers.criterionRefusal? ("name", .text "Al") =
      some (.configuration (.missingHandler "addCriterionName")) := by rfl
  have unknownDirection : Repository.clubHandlers.orderRefusal? ("Age", "down") =
      some (.configuration (.unknownDirection "down")) := by rfl
  have passedCriteria : ∀ earlier ∈ [("age", Value.int 30), ("", .text "x")],
      Repository.clubHandlers.criterionRefusal? earlier = none := by
    intro earlier inside
    simp only [List.mem_cons, List.not_mem_nil, or_false] at inside
    obtain rfl | rfl := inside <;> rfl
  have passedOrder : ∀ earlier ∈ [("age", "DESC")],
      Repository.clubHandlers.orderRefusal? earlier = none := by
    intro earlier inside
    rw [List.mem_singleton.1 inside]
    rfl
  obtain ⟨failed, -, kept⟩ := (criteriaStop criteria query).2
    [("age", .int 30), ("", .text "x")] ("name", .text "Al") [("Age", .int 31)] _ rfl
    passedCriteria unknownField
  obtain ⟨stopped, -, left⟩ := (ordersStop orders query).2
    [("age", "DESC")] ("Age", "down") [("", "ASC")] _ rfl passedOrder unknownDirection
  exact ⟨failed, kept, rfl, stopped, left, rfl⟩

end Handlers

end CriteriaQuery
