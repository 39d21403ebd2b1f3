import CriteriaQuery.Query.Distinct
import CriteriaQuery.Query.Pass

/-!
# Results of passes

The result of a pass is its last query or its error.  Seen through their results,
passes compose like computations that may fail: a second pass runs on the result
of the first, and a pass for every item of a list is a fold over the list.
-/

namespace CriteriaQuery

namespace Pass

@[simp] theorem result_fail (error : QueryError) (query : Query) :
    (fail error query).result = .error error := rfl

@[simp] theorem result_update (change : Query → Query) (query : Query) :
    (update change query).result = .ok (change query) := rfl

@[simp] theorem result_report (event : Query → Event) (query : Query) :
    (report event query).result = .ok query := rfl

/-- Two passes in sequence have the result of the second on the result of the first. -/
@[simp] theorem result_andThen (first second : Pass) (query : Query) :
    (first.andThen second query).result =
      (first query).result.bind fun middle => (second middle).result := by
  rcases before : first query with ⟨middle, events, error⟩
  cases error with
  | none => simp [andThen, Outcome.andThen, Outcome.result, Except.bind, before]
  | some error => simp [andThen, Outcome.andThen, Outcome.result, Except.bind, before]

/-- A pass for every item of a list folds the results over the list. -/
@[simp] theorem result_forEach {α : Type} (step : α → Pass) (items : List α) (query : Query) :
    (forEach step items query).result =
      items.foldlM (fun current item => (step item current).result) query := by
  induction items generalizing query with
  | nil => rfl
  | cons item rest ih =>
      rw [forEach, result_andThen, List.foldlM_cons]
      exact congrArg _ (funext ih)

end Pass

namespace Outcome

/-- The query of a successful outcome is its result. -/
theorem query_eq_of_result {outcome : Outcome} {query : Query}
    (succeeded : outcome.result = .ok query) : outcome.query = query := by
  rcases outcome with ⟨left, events, error⟩
  cases error with
  | none => exact Except.ok.inj succeeded
  | some error => simp [result] at succeeded

end Outcome

/-- A computation that goes on after another one succeeds exactly if both do. -/
theorem Except.bind_eq_ok {ε α β : Type} {first : Except ε α} {next : α → Except ε β}
    {last : β} (succeeded : first.bind next = .ok last) :
    ∃ middle, first = .ok middle ∧ next middle = .ok last := by
  cases first with
  | error error => simp [Except.bind] at succeeded
  | ok middle => exact ⟨middle, rfl, succeeded⟩

/-- The same as an equivalence. -/
theorem Except.bind_eq_ok_iff {ε α β : Type} {first : Except ε α} {next : α → Except ε β}
    {last : β} :
    first.bind next = .ok last ↔ ∃ middle, first = .ok middle ∧ next middle = .ok last := by
  constructor
  · intro succeeded
    exact Except.bind_eq_ok succeeded
  · rintro ⟨middle, rfl, succeeded⟩
    exact succeeded

/-- What is done with the value of a computation does not decide whether it fails. -/
theorem Except.bind_ok_eq_error_iff {ε α β : Type} {first : Except ε α} {image : α → β}
    {error : ε} : (first.bind fun value => .ok (image value)) = .error error ↔
      first = .error error := by
  cases first with
  | error other => simp [Except.bind]
  | ok value => simp [Except.bind]

theorem Except.map_eq_error_iff {ε α β : Type} {computed : Except ε α} {image : α → β}
    {error : ε} : computed.map image = .error error ↔ computed = .error error := by
  cases computed with
  | error other => simp [Except.map]
  | ok value => simp [Except.map]

theorem Except.map_eq_ok {ε α β : Type} {computed : Except ε α} {image : α → β} {result : β}
    (succeeded : computed.map image = .ok result) :
    ∃ value, computed = .ok value ∧ image value = result := by
  cases computed with
  | error error => cases succeeded
  | ok value => exact ⟨value, rfl, Except.ok.inj succeeded⟩

/-- A relation to the start that every step keeps holds of the end of a fold. -/
theorem foldlM_preserves {ε σ α : Type} {step : σ → α → Except ε σ} {holds : σ → Prop}
    {items : List α} {first last : σ} (start : holds first)
    (keeps : ∀ item ∈ items, ∀ before after, holds before → step before item = .ok after →
      holds after)
    (run : items.foldlM step first = .ok last) : holds last := by
  induction items generalizing first with
  | nil =>
      cases run
      exact start
  | cons item rest ih =>
      rw [List.foldlM_cons] at run
      rcases Except.bind_eq_ok run with ⟨middle, stepped, continued⟩
      exact ih (keeps item List.mem_cons_self first middle start stepped)
        (fun later member => keeps later (List.mem_cons_of_mem _ member)) continued

/-- A fold succeeds exactly if every item is accepted, where each step either refuses its
item or makes a change that cannot fail. -/
theorem foldlM_eq_ok_iff {ε σ α : Type} {step : σ → α → Except ε σ} {accepts : α → Prop}
    {change : σ → α → σ} {holds : σ → Prop}
    (keeps : ∀ state item, holds state → holds (change state item))
    (step_iff : ∀ state item next, holds state →
      (step state item = .ok next ↔ accepts item ∧ next = change state item))
    (items : List α) {first : σ} (start : holds first) (last : σ) :
    items.foldlM step first = .ok last ↔
      (∀ item ∈ items, accepts item) ∧ last = items.foldl change first := by
  induction items generalizing first with
  | nil =>
      constructor
      · intro run
        cases run
        refine ⟨?_, rfl⟩
        intro item inside
        cases inside
      · rintro ⟨-, rfl⟩
        rfl
  | cons item rest ih =>
      rw [List.foldlM_cons, List.foldl_cons, List.forall_mem_cons]
      constructor
      · intro run
        rcases Except.bind_eq_ok run with ⟨middle, stepped, continued⟩
        rcases (step_iff first item middle start).1 stepped with ⟨accepted, rfl⟩
        rcases (ih (keeps first item start)).1 continued with ⟨acceptedRest, same⟩
        exact ⟨⟨accepted, acceptedRest⟩, same⟩
      · rintro ⟨⟨accepted, acceptedRest⟩, same⟩
        apply Except.bind_eq_ok_iff.2
        refine ⟨change first item, (step_iff first item _ start).2 ⟨accepted, rfl⟩, ?_⟩
        exact (ih (keeps first item start)).2 ⟨acceptedRest, same⟩

/-- A pass for every item, with a report at the end, succeeds exactly if every item is
accepted. -/
theorem Pass.forEach_report_eq_ok_iff {α : Type} {step : α → Pass} {accepts : α → Prop}
    {change : Query → α → Query} {holds : Query → Prop}
    (keeps : ∀ query item, holds query → holds (change query item))
    (step_iff : ∀ query item next, holds query →
      ((step item query).result = .ok next ↔ accepts item ∧ next = change query item))
    (items : List α) (event : Query → Event) {before : Query} (start : holds before)
    (after : Query) :
    ((Pass.forEach step items).andThen (.report event) before).result = .ok after ↔
      (∀ item ∈ items, accepts item) ∧ after = items.foldl change before := by
  have run := foldlM_eq_ok_iff keeps step_iff items start after
  rw [Pass.result_andThen, Pass.result_forEach, Except.bind_eq_ok_iff]
  constructor
  · rintro ⟨last, ran, reported⟩
    cases reported
    exact run.1 ran
  · intro accepted
    exact ⟨after, run.2 accepted, rfl⟩

/-- Items that are computed one by one give the list of the results. -/
theorem mapM_of_map_eq {m : Type → Type} [Monad m] [LawfulMonad m] {α β : Type}
    {compute : α → m β} {items : List α} {results : List β}
    (computed : items.map compute = results.map pure) : items.mapM compute = pure results := by
  induction items generalizing results with
  | nil =>
      cases results with
      | nil => rw [List.mapM_nil]
      | cons result others => cases computed
  | cons item rest ih =>
      cases results with
      | nil => cases computed
      | cons result others =>
          rcases List.cons.inj computed with ⟨first, remaining⟩
          rw [List.mapM_cons, first, ih remaining, pure_bind, pure_bind]

/-- A list on whose items a computation succeeds is mapped by what it computes. -/
theorem mapM_eq_ok {ε α β : Type} {compute : α → Except ε β} {image : α → β}
    (computes : ∀ item result, compute item = .ok result → result = image item)
    {items : List α} {results : List β} (computed : items.mapM compute = .ok results) :
    results = items.map image := by
  induction items generalizing results with
  | nil =>
      cases computed
      rfl
  | cons item rest ih =>
      rw [List.mapM_cons] at computed
      rcases Except.bind_eq_ok computed with ⟨first, firstComputed, continued⟩
      rcases Except.bind_eq_ok continued with ⟨others, othersComputed, last⟩
      cases last
      rw [computes item first firstComputed, ih othersComputed, List.map_cons]

/-- Where a computation succeeds on a list, it succeeds on every item. -/
theorem eq_ok_of_mapM {ε α β : Type} {compute : α → Except ε β} {items : List α}
    {results : List β} (computed : items.mapM compute = .ok results) {item : α}
    (member : item ∈ items) : ∃ result, compute item = .ok result := by
  induction items generalizing results with
  | nil => cases member
  | cons first rest ih =>
      rw [List.mapM_cons] at computed
      rcases Except.bind_eq_ok computed with ⟨head, headComputed, continued⟩
      rcases Except.bind_eq_ok continued with ⟨others, othersComputed, -⟩
      rcases List.mem_cons.1 member with rfl | later
      · exact ⟨head, headComputed⟩
      · exact ih othersComputed later

/-- A computation that succeeds on every item succeeds on the list. -/
theorem mapM_of_forall {ε α β : Type} {compute : α → Except ε β} {items : List α}
    (each : ∀ item ∈ items, ∃ result, compute item = .ok result) :
    ∃ results, items.mapM compute = .ok results := by
  induction items with
  | nil => exact ⟨[], rfl⟩
  | cons item rest ih =>
      rcases each item List.mem_cons_self with ⟨first, firstComputed⟩
      rcases ih fun later inside => each later (List.mem_cons_of_mem _ inside) with
        ⟨others, othersComputed⟩
      refine ⟨first :: others, ?_⟩
      rw [List.mapM_cons, firstComputed, othersComputed]
      rfl

/-- The first item that cannot be computed decides the error. -/
theorem mapM_of_first_error {ε α β : Type} {compute : α → Except ε β} {before after : List α}
    {item : α} {error : ε} (computed : ∀ earlier ∈ before, ∃ result, compute earlier = .ok result)
    (failed : compute item = .error error) :
    (before ++ item :: after).mapM compute = .error error := by
  induction before with
  | nil =>
      rw [List.nil_append, List.mapM_cons, failed]
      rfl
  | cons first rest ih =>
      rcases computed first List.mem_cons_self with ⟨result, firstComputed⟩
      have others := ih fun earlier inside => computed earlier (List.mem_cons_of_mem _ inside)
      rw [List.cons_append, List.mapM_cons, firstComputed, others]
      rfl

/-- A computation fails on a list exactly if it fails on an item and on none before it, and
then with the error of that item. -/
theorem mapM_eq_error_iff {ε α β : Type} {compute : α → Except ε β} {items : List α} {error : ε} :
    items.mapM compute = .error error ↔
      ∃ before item after, items = before ++ item :: after ∧
        (∀ earlier ∈ before, ∃ result, compute earlier = .ok result) ∧
        compute item = .error error := by
  constructor
  · intro failed
    induction items with
    | nil => cases failed
    | cons item rest ih =>
        rw [List.mapM_cons] at failed
        cases computed : compute item with
        | error other =>
            rw [computed] at failed
            cases failed
            exact ⟨[], item, rest, rfl, by simp, computed⟩
        | ok result =>
            have failedLater : rest.mapM compute = .error error := by
              rw [computed] at failed
              cases others : rest.mapM compute with
              | error other =>
                  rw [others] at failed
                  exact failed
              | ok results =>
                  rw [others] at failed
                  cases failed
            obtain ⟨before, last, after, split, earlier, lastFailed⟩ := ih failedLater
            refine ⟨item :: before, last, after, by rw [split, List.cons_append], ?_, lastFailed⟩
            intro other inside
            cases List.mem_cons.1 inside with
            | inl here => exact ⟨result, here ▸ computed⟩
            | inr later => exact earlier other later
  · intro split
    obtain ⟨before, item, after, same, computed, failed⟩ := split
    rw [same]
    exact mapM_of_first_error computed failed

namespace Query

@[simp] theorem result_dropDuplicates (query : Query) :
    (dropDuplicates query).result = query.deduplicated := by
  simp only [dropDuplicates]
  cases query.deduplicated <;> rfl

/-- Dropping duplicates changes joins and selections at most. -/
theorem dropDuplicates_frame {before after : Query}
    (dropped : (dropDuplicates before).result = .ok after) :
    after = { before with joins := after.joins, selections := after.selections } := by
  rw [result_dropDuplicates] at dropped
  rcases Except.bind_eq_ok dropped with ⟨groups, -, rest⟩
  cases rest
  rfl

end Query

end CriteriaQuery
