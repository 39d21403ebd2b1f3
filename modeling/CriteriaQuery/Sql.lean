import CriteriaQuery.Statement

/-!
# SQL in pieces

SQL while it is put together: pieces of text and places of parameters, and the values of the
parameters in a list beside the pieces.  Text goes into the last piece if that is text too,
and becomes a piece of its own otherwise.  Places have no numbers; they are counted when the
pieces are rendered.

Nothing in the data ties a place to a value.  It is up to the operations that there are as
many places as values and that they come in the same order.
-/

namespace CriteriaQuery

/-- A piece of SQL: text, or the place of a parameter. -/
inductive Sql.Part where
  | raw (text : String)
  | param
deriving DecidableEq, Repr, Inhabited

/-- Pieces of SQL and the values of its parameters. -/
structure Sql where
  parts : List Sql.Part
  params : List Value
deriving Inhabited

namespace Sql

/-- SQL that begins with a text. -/
def new (text : String) : Sql where
  parts := [.raw text]
  params := []

/-- SQL without pieces. -/
def empty : Sql where
  parts := []
  params := []

/-- Append text: to the last piece if that is text, as a piece of its own otherwise.  Empty
text is not appended. -/
def push (sql : Sql) (text : String) : Sql :=
  if text = "" then sql
  else
    match sql.parts.getLast? with
    | some (.raw last) => { sql with parts := sql.parts.dropLast ++ [.raw (last ++ text)] }
    | _ => { sql with parts := sql.parts ++ [.raw text] }

/-- Append a place and bind its value. -/
def bind (sql : Sql) (value : Value) : Sql where
  parts := sql.parts ++ [.param]
  params := sql.params ++ [value]

/-- Append places for values with commas between them; for no values, the text `NULL`. -/
def bindList (sql : Sql) : List Value → Sql
  | [] => sql.push "NULL"
  | first :: rest => rest.foldl (fun sql value => (sql.push ", ").bind value) (sql.bind first)

/-- Append an identifier.  The pieces are given back also if it is refused. -/
def pushIdentifier (sql : Sql) (text : String) : Except QueryError Unit × Sql :=
  if Text.isIdentifier text then (.ok (), sql.push text)
  else (.error (.validation (.identifier text)), sql)

/-- Render a piece behind what is rendered already, given with the number of its last
placeholder. -/
def renderPart (done : String × Nat) : Part → String × Nat
  | .raw text => (done.1 ++ text, done.2)
  | .param => (done.1 ++ "$" ++ Nat.repr (done.2 + 1), done.2 + 1)

/-- The SQL text with placeholders `$1`, `$2` and so on. -/
def render (sql : Sql) : String :=
  (sql.parts.foldl renderPart ("", 0)).1

/-- The diagnostic text of SQL, which shows how many values are bound. -/
def diagnostic (sql : Sql) : String :=
  "Sql \x7b sql: " ++ Text.quote sql.render ++ ", params: " ++ Nat.repr sql.params.length ++
    " \x7d"

/-- All that pushing a text can make of SQL. -/
inductive Pushed (sql : Sql) (text : String) : Sql → Prop where
  | nothing (blank : text = "") : Pushed sql text sql
  | merged {before : List Part} {last : String} (ends : sql.parts = before ++ [.raw last]) :
      Pushed sql text { sql with parts := before ++ [.raw (last ++ text)] }
  | separate (apart : ∀ last, .raw last ∉ sql.parts.getLast?) :
      Pushed sql text { sql with parts := sql.parts ++ [.raw text] }

theorem pushed_push (sql : Sql) (text : String) : Pushed sql text (sql.push text) := by
  rw [push]
  split
  · next blank => exact .nothing blank
  · split
    · next last ends =>
        obtain ⟨before, split⟩ := List.getLast?_eq_some_iff.1 ends
        rw [split, List.dropLast_concat]
        exact .merged split
    · next apart =>
        refine .separate fun last ends => ?_
        exact apart last ends

end Sql

end CriteriaQuery
