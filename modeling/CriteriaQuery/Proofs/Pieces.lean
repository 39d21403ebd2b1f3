import Mathlib.Data.List.Chain
import CriteriaQuery.Proofs.Building
import CriteriaQuery.Sql

/-!
# SQL put together in pieces

Places and values are kept apart while SQL is put together, and whether a text is merged into
the piece in front of it depends on what was appended before.  Every operation keeps as many
places as values, and no two texts next to each other.

So each place can be given its value, and the pieces stand for a statement.  Operations on
pieces do to this statement what they do to statements, and pieces are rendered as the
statement is.  What is appended later cannot tell in which pieces a text came, and is
rendered as it is on its own, with all numbers raised by the number of values before it.
-/

namespace CriteriaQuery

namespace Sql

open Statement (Step Symbol)

/-! ## Steps -/

/-- What a step makes of SQL, and whether it fails. -/
def run (sql : Sql) : Step → Except QueryError Unit × Sql
  | .push text => (.ok (), sql.push text)
  | .bind value => (.ok (), sql.bind value)
  | .bindList values => (.ok (), sql.bindList values)
  | .identifier text => sql.pushIdentifier text

/-- SQL behind some steps, failing ones among them. -/
def build (sql : Sql) (steps : List Step) : Sql :=
  steps.foldl (fun sql step => (sql.run step).2) sql

/-- SQL to begin with: a text, or nothing. -/
def start : Option String → Sql
  | some text => new text
  | none => empty

/-- SQL that is made by some steps from the start. -/
def ofSteps (initial : Option String) (steps : List Step) : Sql :=
  (start initial).build steps

theorem build_cons (sql : Sql) (step : Step) (later : List Step) :
    sql.build (step :: later) = (sql.run step).2.build later := rfl

theorem ofSteps_append (initial : Option String) (steps later : List Step) :
    ofSteps initial (steps ++ later) = (ofSteps initial steps).build later :=
  List.foldl_append

theorem pushIdentifier_of_identifier {text : String} (identifier : Text.isIdentifier text = true)
    (sql : Sql) : sql.pushIdentifier text = (.ok (), sql.push text) :=
  if_pos identifier

theorem pushIdentifier_of_refused {text : String} (refused : ¬Text.isIdentifier text = true)
    (sql : Sql) : sql.pushIdentifier text = (.error (.validation (.identifier text)), sql) :=
  if_neg refused

/-! ## Text in pieces -/

theorem push_of_ends {sql : Sql} {before : List Part} {last : String}
    (ends : sql.parts = before ++ [.raw last]) (text : String) :
    sql.push text = { sql with parts := before ++ [.raw (last ++ text)] } := by
  rw [push]
  split
  · next blank => rw [blank, String.append_empty, ← ends]
  · simp only [ends, List.getLast?_concat, List.dropLast_concat]

theorem push_of_apart {sql : Sql} (apart : ∀ last, .raw last ∉ sql.parts.getLast?)
    {text : String} (filled : text ≠ "") :
    sql.push text = { sql with parts := sql.parts ++ [.raw text] } := by
  rw [push, if_neg filled]
  split
  · next last ends => exact absurd ends (apart last)
  · rfl

theorem push_empty (sql : Sql) : sql.push "" = sql :=
  if_pos rfl

/-- Pieces end with a text or they do not. -/
theorem ends_or_apart (parts : List Part) :
    (∃ before last, parts = before ++ [.raw last]) ∨ ∀ last, .raw last ∉ parts.getLast? := by
  by_cases ends : ∃ last, .raw last ∈ parts.getLast?
  · obtain ⟨last, ends⟩ := ends
    obtain ⟨before, split⟩ := List.getLast?_eq_some_iff.1 ends
    exact .inl ⟨before, last, split⟩
  · exact .inr fun last here => ends ⟨last, here⟩

/-- Text that is pushed in two pieces is text that is pushed at once. -/
theorem push_push (sql : Sql) (first second : String) :
    (sql.push first).push second = sql.push (first ++ second) := by
  by_cases blank : first = ""
  · rw [blank, push_empty, String.empty_append]
  · rcases ends_or_apart sql.parts with ⟨before, last, ends⟩ | apart
    · rw [push_of_ends ends first, push_of_ends ends (first ++ second), push_of_ends rfl second,
        String.append_assoc]
    · have filled : first ++ second ≠ "" := by
        intro nothing
        exact blank (String.append_eq_empty_iff.1 nothing).1
      rw [push_of_apart apart blank, push_of_apart apart filled, push_of_ends rfl second]

/-! ## Places and values -/

/-- What all operations keep: there are as many places as values, and no two texts stand next
to each other. -/
structure WellFormed (sql : Sql) : Prop where
  aligned : sql.parts.count .param = sql.params.length
  merged : sql.parts.IsChain fun first second => first = .param ∨ second = .param

theorem wellFormed_start (initial : Option String) : WellFormed (start initial) := by
  cases initial with
  | none => exact ⟨rfl, .nil⟩
  | some text => exact ⟨rfl, .singleton _⟩

namespace WellFormed

variable {sql : Sql}

theorem push (wellFormed : WellFormed sql) (text : String) : WellFormed (sql.push text) := by
  obtain ⟨aligned, merged⟩ := wellFormed
  have pushed := pushed_push sql text
  generalize sql.push text = after at pushed ⊢
  cases pushed with
  | nothing blank => exact ⟨aligned, merged⟩
  | @merged before last ends =>
      rw [ends] at aligned merged
      obtain ⟨chain, -, apart⟩ := List.isChain_append.1 merged
      constructor
      · simpa using aligned
      · refine chain.append (.singleton _) ?_
        intro part here next first
        cases first
        exact .inl ((apart part here (.raw last) rfl).resolve_right nofun)
  | separate apart =>
      constructor
      · simpa using aligned
      · refine merged.append (.singleton _) ?_
        intro part here next first
        cases part with
        | raw last => exact absurd here (apart last)
        | param => exact .inl rfl

theorem bind (wellFormed : WellFormed sql) (value : Value) : WellFormed (sql.bind value) where
  aligned := by simp [Sql.bind, wellFormed.aligned]
  merged := by
    refine wellFormed.merged.append (.singleton _) ?_
    intro part here next first
    cases first
    exact .inr rfl

theorem bindList (wellFormed : WellFormed sql) (values : List Value) :
    WellFormed (sql.bindList values) := by
  induction values generalizing sql with
  | nil => exact wellFormed.push "NULL"
  | cons value rest ih =>
      cases rest with
      | nil => exact wellFormed.bind value
      | cons next rest => exact ih ((wellFormed.bind value).push ", ")

theorem pushIdentifier (wellFormed : WellFormed sql) (text : String) :
    WellFormed (sql.pushIdentifier text).2 := by
  rw [Sql.pushIdentifier]
  split
  · exact wellFormed.push text
  · exact wellFormed

/-- Every step keeps places and values in step. -/
theorem run (wellFormed : WellFormed sql) (step : Step) : WellFormed (sql.run step).2 := by
  cases step with
  | push text => exact wellFormed.push text
  | bind value => exact wellFormed.bind value
  | bindList values => exact wellFormed.bindList values
  | identifier text => exact wellFormed.pushIdentifier text

theorem build (wellFormed : WellFormed sql) (steps : List Step) :
    WellFormed (sql.build steps) := by
  induction steps generalizing sql with
  | nil => exact wellFormed
  | cons step rest ih => exact ih (wellFormed.run step)

end WellFormed

-- Text is merged with what stands in front of it, but not over a place.
example : (ofSteps none [.push "a", .push "b", .bind .null, .push "", .push "c"]).parts =
    [.raw "ab", .param, .raw "c"] := by decide

/-! ## Rendering -/

/-- Pieces rendered with the number after `count` for the first place. -/
def renderFrom (count : Nat) : List Part → String
  | [] => ""
  | .raw text :: rest => text ++ renderFrom count rest
  | .param :: rest => "$" ++ Nat.repr (count + 1) ++ renderFrom (count + 1) rest

/-- Pieces behind others are rendered with the numbers that go on from theirs. -/
theorem renderFrom_append (count : Nat) (first second : List Part) :
    renderFrom count (first ++ second) =
      renderFrom count first ++ renderFrom (count + first.count .param) second := by
  induction first generalizing count with
  | nil => simp [renderFrom]
  | cons part rest ih =>
      cases part with
      | raw text => simp [renderFrom, ih, String.append_assoc]
      | param => simp [renderFrom, ih, String.append_assoc, Nat.add_assoc, Nat.add_comm 1]

/-- Going over the pieces appends what they are rendered as. -/
theorem foldl_renderPart (parts : List Part) (done : String) (count : Nat) :
    (parts.foldl renderPart (done, count)).1 = done ++ renderFrom count parts := by
  induction parts generalizing done count with
  | nil => simp [renderFrom]
  | cons part rest ih =>
      cases part with
      | raw text => simp [renderPart, renderFrom, ih, String.append_assoc]
      | param => simp [renderPart, renderFrom, ih, String.append_assoc]

theorem render_eq (sql : Sql) : sql.render = renderFrom 0 sql.parts := by
  rw [render, foldl_renderPart, String.empty_append]

/-! ## The statement that pieces stand for -/

/-- Pieces with the values of their places put in. -/
inductive Weaves : List Part → List Value → List Symbol → Prop where
  | nil : Weaves [] [] []
  | raw {parts : List Part} {values : List Value} {symbols : List Symbol} (text : String)
      (rest : Weaves parts values symbols) :
      Weaves (.raw text :: parts) values (Statement.chars text ++ symbols)
  | param {parts : List Part} {values : List Value} {symbols : List Symbol} (value : Value)
      (rest : Weaves parts values symbols) :
      Weaves (.param :: parts) (value :: values) (.bound value :: symbols)

namespace Weaves

variable {parts later : List Part} {values laterValues : List Value}
  {symbols laterSymbols : List Symbol}

theorem append (first : Weaves parts values symbols)
    (second : Weaves later laterValues laterSymbols) :
    Weaves (parts ++ later) (values ++ laterValues) (symbols ++ laterSymbols) := by
  induction first with
  | nil => exact second
  | raw text rest ih =>
      rw [List.append_assoc]
      exact .raw text ih
  | param value rest ih => exact .param value ih

/-- What is put into pieces one behind the other is put into each of them. -/
theorem split (woven : Weaves (parts ++ later) values symbols) :
    ∃ before after front back, values = before ++ after ∧ symbols = front ++ back ∧
      Weaves parts before front ∧ Weaves later after back := by
  induction parts generalizing values symbols with
  | nil => exact ⟨[], values, [], symbols, rfl, rfl, .nil, woven⟩
  | cons part rest ih =>
      cases woven with
      | raw text woven =>
          obtain ⟨before, after, front, back, sameValues, sameSymbols, first, second⟩ := ih woven
          refine ⟨before, after, Statement.chars text ++ front, back, sameValues, ?_,
            .raw text first, second⟩
          rw [sameSymbols, List.append_assoc]
      | param value woven =>
          obtain ⟨before, after, front, back, sameValues, sameSymbols, first, second⟩ := ih woven
          refine ⟨value :: before, after, .bound value :: front, back, ?_, ?_,
            .param value first, second⟩
          · rw [sameValues, List.cons_append]
          · rw [sameSymbols, List.cons_append]

theorem single (text : String) : Weaves [.raw text] [] (Statement.chars text) := by
  have woven := Weaves.raw text .nil
  rwa [List.append_nil] at woven

/-- Rendering does not look at the values. -/
theorem toList_renderFrom (woven : Weaves parts values symbols) (count : Nat) :
    (renderFrom count parts).toList = Statement.renderFrom count symbols := by
  induction woven generalizing count with
  | nil => rfl
  | raw text rest ih =>
      rw [renderFrom, String.toList_append, ih, Statement.renderFrom_chars_append]
  | param value rest ih =>
      rw [renderFrom, String.toList_append, String.toList_append, ih]
      simp [Statement.renderFrom, Nat.repr]

theorem boundValues_eq (woven : Weaves parts values symbols) :
    Statement.boundValues symbols = values := by
  induction woven with
  | nil => rfl
  | raw text rest ih => simp [ih]
  | param value rest ih => simp [ih]

theorem count_param (woven : Weaves parts values symbols) :
    parts.count .param = values.length := by
  induction woven with
  | nil => rfl
  | raw text rest ih => simpa using ih
  | param value rest ih => simp [ih]

end Weaves

/-- Pieces stand for the statement that has their values in their places. -/
def StandsFor (sql : Sql) (statement : Statement) : Prop :=
  Weaves sql.parts sql.params statement.symbols

theorem standsFor_start (initial : Option String) :
    (start initial).StandsFor (.ofText (initial.getD "")) := by
  cases initial with
  | none => exact .nil
  | some text => exact .single text

namespace StandsFor

variable {sql : Sql} {statement : Statement}

theorem render_eq (standsFor : sql.StandsFor statement) : sql.render = statement.sql := by
  apply String.toList_inj.1
  rw [Sql.render_eq, Weaves.toList_renderFrom standsFor, Statement.sql, String.toList_ofList]

theorem params_eq (standsFor : sql.StandsFor statement) : sql.params = statement.parameters :=
  (Weaves.boundValues_eq standsFor).symm

/-- However a text is put into pieces, it is pushed behind the statement. -/
theorem push (standsFor : sql.StandsFor statement) (text : String) :
    (sql.push text).StandsFor (statement.push text) := by
  have pushed := pushed_push sql text
  generalize sql.push text = after at pushed ⊢
  rw [StandsFor, Statement.symbols_push]
  cases pushed with
  | nothing blank =>
      rw [blank, Statement.chars, String.toList_empty, List.map_nil, List.append_nil]
      exact standsFor
  | @merged before last ends =>
      rw [StandsFor, ends] at standsFor
      obtain ⟨values, none, front, back, sameValues, sameSymbols, first, second⟩ :=
        standsFor.split
      have joined : Statement.chars (last ++ text) =
          Statement.chars last ++ Statement.chars text := by simp [Statement.chars]
      cases second with
      | raw text rest =>
          cases rest
          rw [sameSymbols, List.append_nil, List.append_assoc, ← joined]
          have woven := first.append (.single (last ++ text))
          rwa [← sameValues] at woven
  | separate apart =>
      have woven := Weaves.append standsFor (.single text)
      rwa [List.append_nil] at woven

theorem bind (standsFor : sql.StandsFor statement) (value : Value) :
    (sql.bind value).StandsFor (statement.bind value) :=
  Weaves.append standsFor (.param value .nil)

theorem bindList (standsFor : sql.StandsFor statement) (values : List Value) :
    (sql.bindList values).StandsFor (statement.bindList values) := by
  induction values generalizing sql statement with
  | nil => exact standsFor.push "NULL"
  | cons value rest ih =>
      cases rest with
      | nil => exact standsFor.bind value
      | cons next rest =>
          have continued := ih ((standsFor.bind value).push ", ")
          have same : ((statement.bind value).push ", ").bindList (next :: rest) =
              statement.bindList (value :: next :: rest) := by
            simp [Statement.bindList, Statement.bind, Statement.push, Statement.append,
              Statement.listSymbols]
          rwa [same] at continued

/-- A step makes of pieces what it makes of the statement, and fails as it does there. -/
theorem run (standsFor : sql.StandsFor statement) (step : Step) :
    (sql.run step).1 = (step.run statement).map (fun _ => ()) ∧
      (sql.run step).2.StandsFor (statement.advance step) := by
  cases step with
  | push text => exact ⟨rfl, standsFor.push text⟩
  | bind value => exact ⟨rfl, standsFor.bind value⟩
  | bindList values => exact ⟨rfl, standsFor.bindList values⟩
  | identifier text =>
      rw [Statement.advance, Step.run, Statement.pushIdentifier, Statement.identifierSymbols,
        Sql.run]
      by_cases identifier : Text.isIdentifier text = true
      · rw [pushIdentifier_of_identifier identifier, if_pos identifier]
        exact ⟨rfl, standsFor.push text⟩
      · rw [pushIdentifier_of_refused identifier, if_neg identifier]
        exact ⟨rfl, standsFor⟩

theorem build (standsFor : sql.StandsFor statement) (steps : List Step) :
    (sql.build steps).StandsFor (statement.build steps) := by
  induction steps generalizing sql statement with
  | nil => exact standsFor
  | cons step rest ih => exact ih (standsFor.run step).2

/-- The symbols of later steps come behind those of the statement. -/
theorem symbols_build (statement : Statement) (later : List Step) :
    (statement.build later).symbols =
      statement.symbols ++ ((Statement.ofText "").build later).symbols := by
  rw [Statement.symbols_build, Statement.symbols_build]
  rfl

/-- What is built behind pieces is rendered as it is on its own, with its numbers raised by
the number of values in the pieces. -/
theorem render_build (standsFor : sql.StandsFor statement) (later : List Step) :
    (sql.build later).render =
      sql.render ++ renderFrom sql.params.length (ofSteps none later).parts := by
  have alone := ((standsFor_start none).build later).toList_renderFrom sql.params.length
  have raised := Statement.renderFrom_append 0 statement.symbols
    ((Statement.ofText "").build later).symbols
  rw [Nat.zero_add, ← symbols_build] at raised
  have values : (statement.symbols.filterMap Symbol.value?).length = sql.params.length := by
    rw [standsFor.params_eq]
    rfl
  apply String.toList_inj.1
  rw [(standsFor.build later).render_eq, standsFor.render_eq, Statement.sql,
    String.toList_ofList, raised, values, String.toList_append, Statement.sql,
    String.toList_ofList]
  exact congrArg _ alone.symm

theorem params_build (standsFor : sql.StandsFor statement) (later : List Step) :
    (sql.build later).params = sql.params ++ later.flatMap Step.values := by
  rw [(standsFor.build later).params_eq, standsFor.params_eq, Statement.parameters_build]

end StandsFor

theorem standsFor_ofSteps (initial : Option String) (steps : List Step) :
    (ofSteps initial steps).StandsFor ((Statement.ofText (initial.getD "")).build steps) :=
  (standsFor_start initial).build steps

theorem params_ofSteps (initial : Option String) (steps : List Step) :
    (ofSteps initial steps).params = steps.flatMap Step.values := by
  have none : (start initial).params = [] := by cases initial <;> rfl
  rw [ofSteps, (standsFor_start initial).params_build, none, List.nil_append]

/-- The place behind some pieces is rendered with the number of places up to it, and there is
a value at the same position. -/
theorem WellFormed.place {sql : Sql} (wellFormed : WellFormed sql) {before after : List Part}
    (split : sql.parts = before ++ .param :: after) :
    ∃ value, sql.params[before.count .param]? = some value ∧
      sql.render = renderFrom 0 before ++ "$" ++ Nat.repr (before.count .param + 1) ++
        renderFrom (before.count .param + 1) after := by
  have aligned := wellFormed.aligned
  rw [split, List.count_append, List.count_cons_self] at aligned
  have inside : before.count .param < sql.params.length := by omega
  refine ⟨_, List.getElem?_eq_getElem inside, ?_⟩
  rw [render_eq, split, renderFrom_append, Nat.zero_add, renderFrom]
  simp only [String.append_assoc]

/-- What holds of SQL that is made by any steps, from a text to begin with or from nothing.

There are as many places as values.  The place behind `i` others is rendered with the number
`i + 1`, and the value at this position is there for it; the values are those of the steps,
in order, and the pieces stand for the statement that has each value where its step put it.

An identifier that is refused leaves everything as it is, for all steps that come later too.
Neither can steps that come later tell whether a text came in two pieces or at once, or
whether empty text was pushed.  Steps that come later are rendered as they are on their own,
with all numbers raised by the number of values before them, and bind their values behind
those. -/
theorem ofSteps_lawful (initial : Option String) (steps : List Step) :
    (WellFormed (ofSteps initial steps) ∧
      (∀ before after, (ofSteps initial steps).parts = before ++ .param :: after →
        ∃ value, (ofSteps initial steps).params[before.count .param]? = some value ∧
          (ofSteps initial steps).render =
            renderFrom 0 before ++ "$" ++ Nat.repr (before.count .param + 1) ++
              renderFrom (before.count .param + 1) after) ∧
      (ofSteps initial steps).params = steps.flatMap Step.values ∧
      (ofSteps initial steps).StandsFor
        ((Statement.ofText (initial.getD "")).build steps)) ∧
    (∀ text,
      ((∃ error, ((ofSteps initial steps).pushIdentifier text).1 = .error error) ↔
        ¬Text.isIdentifier text) ∧
      (∀ error, ((ofSteps initial steps).pushIdentifier text).1 = .error error →
        ((ofSteps initial steps).pushIdentifier text).2 = ofSteps initial steps ∧
        ∀ later, ofSteps initial (steps ++ .identifier text :: later) =
          ofSteps initial (steps ++ later))) ∧
    (∀ (first second : String) (later : List Step),
      ofSteps initial (steps ++ .push first :: .push second :: later) =
        ofSteps initial (steps ++ .push (first ++ second) :: later)) ∧
    (∀ later : List Step,
      ofSteps initial (steps ++ .push "" :: later) = ofSteps initial (steps ++ later)) ∧
    ∀ later : List Step,
      (ofSteps initial (steps ++ later)).render =
          (ofSteps initial steps).render ++
            renderFrom (ofSteps initial steps).params.length (ofSteps none later).parts ∧
        (ofSteps none later).render = renderFrom 0 (ofSteps none later).parts ∧
        (ofSteps initial (steps ++ later)).params =
          (ofSteps initial steps).params ++ (ofSteps none later).params := by
  have wellFormed := (wellFormed_start initial).build steps
  refine ⟨⟨wellFormed, fun before after => wellFormed.place, params_ofSteps initial steps,
    standsFor_ofSteps initial steps⟩, ?_, ?_, ?_, ?_⟩
  · intro text
    by_cases identifier : Text.isIdentifier text = true
    · simp [pushIdentifier_of_identifier identifier, identifier]
    · have refused := pushIdentifier_of_refused identifier (ofSteps initial steps)
      refine ⟨by simp [refused, identifier], ?_⟩
      intro error failed
      refine ⟨by rw [refused], ?_⟩
      intro later
      rw [ofSteps_append, build_cons, run, refused, ofSteps_append]
  · intro first second later
    rw [ofSteps_append, build_cons, build_cons, run, run, push_push, ofSteps_append, build_cons,
      run]
  · intro later
    rw [ofSteps_append, build_cons, run, push_empty, ofSteps_append]
  · intro later
    have standsFor := standsFor_ofSteps initial steps
    rw [ofSteps_append, standsFor.params_build, params_ofSteps none later]
    exact ⟨standsFor.render_build later, render_eq _, rfl⟩

end Sql

end CriteriaQuery
