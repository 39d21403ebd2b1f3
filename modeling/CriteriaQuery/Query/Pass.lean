import CriteriaQuery.Query.Basic

/-!
# Passes over a query

What composing and sending a query reports while it goes on are events. Events are data; the
caller decides where they are written.

A pass changes a query step by step and may stop with an error. What was changed
before the error stays, so an outcome always has a query; it also has the events
reported on the way. Passes run one after the other, and the first error is that
of the whole.
-/

namespace CriteriaQuery

/-- A step of composing or sending a query. -/
inductive Event where
  /-- Every filter went through its handler. -/
  | criteriaApplied (applied conditions : Nat)
  /-- Every ordering went through its handler. -/
  | orderingsApplied (orderings : Nat)
  /-- Every selection went through its handler or was added as it is. -/
  | selectionsApplied (selections : Nat)
  /-- Repeated joins or selections were dropped. -/
  | duplicatesRemoved (joins selections : Nat)
  /-- A statement is about to be sent, shown as executed and in canonical form. -/
  | statementSent (tag : String) (parameterCount : Nat) (sql canonical : String)
deriving DecidableEq, Repr

namespace Event

/-- The channel that events of composing are written to. -/
def composingTarget : String := "pgcriteria.compile"

/-- The channel that sent statements are written to. -/
def sendingTarget : String := "pgcriteria.sql"

/-- The channel of an event. -/
def target : Event → String
  | .statementSent .. => sendingTarget
  | _ => composingTarget

end Event

/-- What a pass leaves behind. -/
structure Outcome where
  query : Query
  events : List Event
  error : Option QueryError
deriving Inhabited

/-- The query of a pass that succeeded. -/
def Outcome.result (outcome : Outcome) : Except QueryError Query :=
  match outcome.error with
  | none => .ok outcome.query
  | some error => .error error

/-- A change of a query that may stop with an error. -/
abbrev Pass := Query → Outcome

/-- Go on with a pass, unless there was an error. -/
def Outcome.andThen (outcome : Outcome) (next : Pass) : Outcome :=
  match outcome with
  | { query, events, error := some error } => { query, events, error := some error }
  | { query, events, error := none } =>
      { query := (next query).query
        events := events ++ (next query).events
        error := (next query).error }

namespace Pass

/-- Change nothing. -/
def skip : Pass := fun query =>
  { query, events := [], error := none }

/-- Stop with an error. -/
def fail (error : QueryError) : Pass := fun query =>
  { query, events := [], error := some error }

/-- Change the query. -/
def update (change : Query → Query) : Pass := fun query =>
  { query := change query, events := [], error := none }

/-- Report an event about the query. -/
def report (event : Query → Event) : Pass := fun query =>
  { query, events := [event query], error := none }

/-- Run a second pass on what a first one leaves, unless the first one stops. -/
def andThen (first second : Pass) : Pass := fun query =>
  (first query).andThen second

theorem skip_andThen (pass : Pass) : skip.andThen pass = pass := by
  funext query
  simp [andThen, Outcome.andThen, skip]

/-- A pass that stopped runs nothing after it. -/
theorem fail_andThen (error : QueryError) (pass : Pass) :
    (fail error).andThen pass = fail error := by
  funext query
  rfl

/-- Running passes in sequence does not depend on how they are grouped. -/
theorem andThen_assoc (first second third : Pass) :
    (first.andThen second).andThen third = first.andThen (second.andThen third) := by
  funext query
  cases before : first query with
  | mk middle events error =>
      cases error with
      | some error => simp [andThen, Outcome.andThen, before]
      | none =>
          cases after : second middle with
          | mk last moreEvents error =>
              cases error <;> simp [andThen, Outcome.andThen, before, after]

/-- Run a pass for every item, in order. -/
def forEach {α : Type} (step : α → Pass) : List α → Pass
  | [] => skip
  | item :: rest => (step item).andThen (forEach step rest)

end Pass

end CriteriaQuery
