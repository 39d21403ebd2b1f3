import CriteriaQuery.Proofs.Composition
import CriteriaQuery.Repository.Fetching

/-!
# What a fetch does

A fetch has four places to fail: composing the query, rendering it, the database, and reading
the rows.  They are met in this order, and the first failure is the result.  The client is
asked once if the query could be rendered and not at all otherwise, always for the statement
of the composed query.

What the three ways to fetch make of an answer is stated row by row, without the functions
that read it.
-/

namespace CriteriaQuery

variable {α β γ : Type}

/-- What a fetch of one entity makes of the rows of an answer. -/
structure ReadsOne (decode : Row → Except QueryError α) (rows : List Row)
    (result : Except QueryError (Option α)) : Prop where
  empty : rows = [] → result = .ok none
  single : ∀ row, rows = [row] → result = (decode row).map some
  several : 2 ≤ rows.length → result = .error (.tooManyRows 1 rows.length)

/-- What a fetch of a list makes of the rows of an answer. -/
structure ReadsAll (decode : Row → Except QueryError α) (query : Query) (rows : List Row)
    (result : Except QueryError (List α × Query)) : Prop where
  readable : ∀ entities, rows.map decode = entities.map .ok → result = .ok (entities, query)
  unreadable : ∀ before row after error, rows = before ++ row :: after →
    (∀ earlier ∈ before, ∃ entity, decode earlier = .ok entity) → decode row = .error error →
    result = .error error

/-- A fetch that sends one composed query and reads the answer. -/
structure FetchesBy (tag : String) (composed : Except QueryError Query)
    (reads : Query → List Row → Except QueryError β → Prop) (fetch : Client → Fetch β) :
    Prop where
  uncomposed : ∀ client error, composed = .error error →
    (fetch client).sent = [] ∧ (fetch client).result = .error error
  unrendered : ∀ client query error, composed = .ok query → query.statement = .error error →
    (fetch client).sent = [] ∧ (fetch client).result = .error error
  refused : ∀ client query statement error, composed = .ok query →
    query.statement = .ok statement →
    client { tag, sql := statement.sql, parameters := statement.parameters } = .error error →
    (fetch client).sent = [{ tag, sql := statement.sql, parameters := statement.parameters }] ∧
      (fetch client).result = .error error
  answered : ∀ client query statement rows, composed = .ok query →
    query.statement = .ok statement →
    client { tag, sql := statement.sql, parameters := statement.parameters } = .ok rows →
    (fetch client).sent = [{ tag, sql := statement.sql, parameters := statement.parameters }] ∧
      reads query rows (fetch client).result
  /-- Nothing but the answer to what was sent has an influence. -/
  asked : ∀ first second : Client, (∀ request ∈ (fetch first).sent, first request = second request) →
    fetch first = fetch second

namespace Fetch

/-- Going on twice is going on at once. -/
theorem andThen_assoc (fetch : Fetch α) (next : α → Fetch β) (last : β → Fetch γ) :
    (fetch.andThen next).andThen last = fetch.andThen fun value => (next value).andThen last := by
  rcases fetch with ⟨events, sent, result⟩
  cases result with
  | error error => rfl
  | ok value =>
      rcases following : next value with ⟨moreEvents, moreSent, middle⟩
      cases middle <;> simp [andThen, following]

theorem andThen_ofResult (result : Except QueryError α) (next : α → Except QueryError β) :
    ((ofResult result).andThen fun value => ofResult (next value)) =
      ofResult (result.bind next) := by
  cases result <;> rfl

end Fetch

namespace Repository

variable (repository : Repository α)

/-- Composing, sending and reading in this order is a fetch of one query. -/
theorem fetchesBy (start : Fetch Query) (unsent : start.sent = [])
    {read : Query → List Row → Except QueryError β}
    {reads : Query → List Row → Except QueryError β → Prop}
    (sound : ∀ query rows, reads query rows (read query rows)) :
    FetchesBy repository.entity.table start.result reads fun client =>
      start.andThen fun query =>
        (repository.execute client query).andThen fun rows => .ofResult (read query rows) := by
  rcases start with ⟨events, sent, composed⟩
  cases unsent
  constructor
  · rintro client error rfl
    exact ⟨rfl, rfl⟩
  · rintro client query error rfl failed
    simp [Fetch.andThen, execute, failed, Fetch.ofResult]
  · rintro client query statement error rfl rendered failed
    simp [Fetch.andThen, execute, rendered, request, failed]
  · rintro client query statement rows rfl rendered answer
    simp [Fetch.andThen, execute, rendered, request, answer, Fetch.ofResult, sound]
  · intro first second agree
    cases composed with
    | error error => rfl
    | ok query =>
        cases rendered : query.statement with
        | error error => simp [Fetch.andThen, execute, rendered, Fetch.ofResult]
        | ok statement =>
            have same : first (repository.request statement) =
                second (repository.request statement) := by
              apply agree
              cases answer : first (repository.request statement) <;>
                simp [Fetch.andThen, execute, rendered, answer, Fetch.ofResult]
            simp [Fetch.andThen, execute, rendered, same]

theorem readOne_reads (rows : List Row) :
    ReadsOne repository.decode rows (repository.readOne rows) := by
  constructor
  · rintro rfl
    rfl
  · rintro row rfl
    rfl
  · intro several
    match rows with
    | first :: second :: rest => rfl

theorem mapM_reads (query : Query) (rows : List Row) :
    ReadsAll repository.decode query rows
      ((rows.mapM repository.decode).bind fun entities => .ok (entities, query)) := by
  constructor
  · intro entities decoded
    rw [mapM_of_map_eq decoded]
    rfl
  · rintro before row after error rfl decoded failed
    rw [mapM_of_first_error decoded failed]
    rfl

/-- Every fetch composes its query, sends the statement of that query once, and reads the
answer; the first of these steps that fails gives the error and ends the fetch.  One entity
is read from an answer of at most one row, and a list row by row. -/
theorem fetches (criteria : Criteria) (selects : List String) (orders : Orders) (id : Value) :
    FetchesBy repository.entity.table (repository.oneQuery criteria selects).result
        (fun _ => ReadsOne repository.decode)
        (fun client => repository.fetchOne client criteria selects) ∧
      FetchesBy repository.entity.table (repository.manyQuery criteria selects orders).result
        (ReadsAll repository.decode)
        (fun client => repository.fetchMany client criteria selects orders) ∧
      FetchesBy repository.entity.table (repository.idQuery id)
        (fun _ => ReadsOne repository.decode) (fun client => repository.findById client id) := by
  refine ⟨?_, ?_, ?_⟩
  · exact repository.fetchesBy (.ofOutcome (repository.oneQuery criteria selects)) rfl
      fun _ rows => repository.readOne_reads rows
  · have run := repository.fetchesBy (.ofOutcome (repository.manyQuery criteria selects orders))
      rfl repository.mapM_reads
    simp only [fetchMany, fetchAll, Fetch.andThen_assoc, Fetch.andThen_ofResult]
    exact run
  · exact repository.fetchesBy (.ofResult (repository.idQuery id)) rfl
      fun _ rows => repository.readOne_reads rows

end Repository

end CriteriaQuery
