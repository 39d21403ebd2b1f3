import Mathlib.Data.List.Flatten
import CriteriaQuery.Proofs.Building
import CriteriaQuery.Proofs.DistinctQueries
import CriteriaQuery.Proofs.References

/-!
# Statements without duplicates

A query that can be executed can be executed without its duplicates.  The joins that are left
give no new alias and no new reference, so there is no more to check than before.

What is bound in the joins that are dropped is not bound any more.  The clauses behind the
joins stay as they are, but for the numbers of their placeholders: each is lower by the number
of values that those joins bound.
-/

namespace CriteriaQuery.Query

open Statement

/-- The values that are bound in joins, in order. -/
def valuesIn (query : Query) (joins : List Join) : List Value :=
  joins.flatMap fun join => referencedValues query.parameters join.text

/-- The symbols up to the last join. -/
def sourceSymbols (query : Query) : List Symbol :=
  query.headSymbols ++ joinsClause query.joinImages

/-- The clauses behind the joins: conditions, sort keys, limit and offset.  A clause that is
missing has no symbols. -/
def clauses (query : Query) : List (List Symbol) :=
  [conditionsClause query.conditionImages, orderingsClause query.orderings,
    boundClause " LIMIT " query.limit, boundClause " OFFSET " query.offset]

theorem boundValues_sourceSymbols (query : Query) :
    boundValues query.sourceSymbols = query.valuesIn query.allJoins := by
  simp [sourceSymbols, valuesIn, joinImages, List.flatMap_map, boundValues_expressionImage]

section Rendered

variable {query : Query} {statement : Statement} (rendered : query.statement = .ok statement)

include rendered

theorem symbols_eq_clauses :
    statement.symbols = query.sourceSymbols ++ query.clauses.flatten := by
  rw [symbols_of_statement rendered]
  simp [sourceSymbols, clauses, tailSymbols]

/-- The clauses are rendered with their placeholders numbered on from those of the joins. -/
theorem sql_eq_clauses :
    statement.sql.toList = renderFrom 0 query.sourceSymbols ++
      numbered (query.valuesIn query.allJoins).length (texts query.clauses.flatten) := by
  have count : query.sourceSymbols.filterMap Symbol.value? = query.valuesIn query.allJoins :=
    query.boundValues_sourceSymbols
  rw [sql, String.toList_ofList, symbols_eq_clauses rendered, renderFrom_append, count,
    Nat.zero_add, renderFrom_eq_numbered _ query.clauses.flatten]

theorem parameters_eq_clauses :
    statement.parameters =
      query.valuesIn query.allJoins ++ boundValues query.clauses.flatten := by
  have outright : statement.parameters = boundValues statement.symbols := rfl
  rw [outright, symbols_eq_clauses rendered, boundValues_append, boundValues_sourceSymbols]

end Rendered

/-- Dropping duplicates gives no new alias. -/
theorem mem_aliases_of_distinct {query : Query} {name : String}
    (known : name ∈ query.distinct.aliases) : name ∈ query.aliases :=
  ((query.allJoins_distinct_sublist.map Join.joinAlias).cons_cons query.rootAlias).mem known

/-- A query that can be executed can be executed without its duplicates. -/
theorem exists_statement_distinct {query : Query}
    (executable : ∃ statement, query.statement = .ok statement) :
    ∃ statement, query.distinct.statement = .ok statement := by
  obtain ⟨table, rootAlias, selections, joins, conditions⟩ := exists_statement_iff.1 executable
  refine exists_statement_iff.2 ⟨table, rootAlias, ?_, ?_, conditions⟩
  · intro text left known
    have member : text ∈ query.selections := (distinctBy_sublist id [] query.selections).mem left
    exact selections text member (mem_aliases_of_distinct known)
  · intro join left
    exact joins join (query.allJoins_distinct_sublist.mem left)

/-- Dropping duplicates leaves the clauses behind the joins alone. -/
theorem clauses_distinct (query : Query) : query.distinct.clauses = query.clauses := rfl

/-- What becomes of the statement of a query when its duplicates are dropped.

There still is a statement, and it binds a part of the values, in their order.  The joins that
are left are a part of the joins, in their order; the others are gone.  The clauses behind the
joins, which are the conditions, the sort keys, the limit and the offset, are rendered as the
same texts with placeholders between them, and these are numbered on from fewer values: the
number of each is lower by the number of values that were bound in the joins that are gone. -/
theorem statement_dropDuplicates {query last : Query} {statement : Statement}
    (rendered : query.statement = .ok statement)
    (dropped : (dropDuplicates query).result = .ok last) :
    ∃ (distinct : Statement) (gone : List Join),
      last.statement = .ok distinct ∧
      distinct.parameters.Sublist statement.parameters ∧
      last.allJoins.Sublist query.allJoins ∧
      query.allJoins.Perm (last.allJoins ++ gone) ∧
      let left := (query.valuesIn last.allJoins).length
      statement.symbols = query.sourceSymbols ++ query.clauses.flatten ∧
      distinct.symbols = last.sourceSymbols ++ last.clauses.flatten ∧
      last.clauses = query.clauses ∧
      statement.sql.toList = renderFrom 0 query.sourceSymbols ++
        numbered (left + (query.valuesIn gone).length) (texts query.clauses.flatten) ∧
      distinct.sql.toList = renderFrom 0 last.sourceSymbols ++
        numbered left (texts query.clauses.flatten) := by
  rw [result_dropDuplicates] at dropped
  obtain ⟨-, rfl⟩ := deduplicated_eq_ok_iff.1 dropped
  obtain ⟨distinct, renderedToo⟩ := exists_statement_distinct ⟨statement, rendered⟩
  have left := query.allJoins_distinct_sublist
  obtain ⟨gone, split⟩ := left.exists_perm_append
  have counted : (query.valuesIn query.allJoins).length =
      (query.valuesIn query.distinct.allJoins).length + (query.valuesIn gone).length := by
    have images := split.flatMap_right fun join => referencedValues query.parameters join.text
    rw [List.flatMap_append] at images
    exact images.length_eq.trans List.length_append
  refine ⟨distinct, gone, renderedToo, ?_, left, split, symbols_eq_clauses rendered,
    symbols_eq_clauses renderedToo, query.clauses_distinct, ?_, ?_⟩
  · rw [parameters_eq_clauses rendered, parameters_eq_clauses renderedToo, clauses_distinct]
    exact (left.flatMap _).append_right _
  · rw [← counted]
    exact sql_eq_clauses rendered
  · exact sql_eq_clauses renderedToo

/-- Users with their teams, which are joined twice and once with a list of teams. -/
def teamsTwice : Query :=
  { (ofTable "users" "u").addAll [
      .join "u" (leftJoin "teams" "t" "t.id = u.team AND t.kind = :kind"),
      .join "u" (leftJoin "teams" "t" "t.id IN (:teams)"), .selection "t", .selection "t",
      .condition "t.age > :age",
      .ordering { expression := "u.age", direction := .ascending }] with
    parameters := .ofList [
      ("kind", .text "public"), ("teams", .list [.int 1, .int 2]), ("age", .int 30)]
    limit := some 10 }

theorem statement_dropDuplicates_teamsTwice :
    ∃ last statement distinct, teamsTwice.statement = .ok statement ∧
      (dropDuplicates teamsTwice).result = .ok last ∧ last.statement = .ok distinct ∧
      distinct.parameters.Sublist statement.parameters ∧
      statement.sql =
        "SELECT u.*, t.*, t.* FROM users u LEFT JOIN teams t ON t.id = u.team AND t.kind = $1 " ++
        "LEFT JOIN teams t ON t.id IN ($2, $3) WHERE t.age > $4 ORDER BY u.age ASC LIMIT $5" ∧
      distinct.sql =
        "SELECT u.*, t.* FROM users u LEFT JOIN teams t ON t.id = u.team AND t.kind = $1 " ++
        "WHERE t.age > $2 ORDER BY u.age ASC LIMIT $3" := by
  have dropped : (dropDuplicates teamsTwice).result = .ok teamsTwice.distinct := by rfl
  have text : teamsTwice.statement.map Statement.sql = .ok
      ("SELECT u.*, t.*, t.* FROM users u LEFT JOIN teams t ON t.id = u.team AND t.kind = $1 " ++
        "LEFT JOIN teams t ON t.id IN ($2, $3) WHERE t.age > $4 ORDER BY u.age ASC LIMIT $5") := by
    decide +kernel
  have distinctText : teamsTwice.distinct.statement.map Statement.sql = .ok
      ("SELECT u.*, t.* FROM users u LEFT JOIN teams t ON t.id = u.team AND t.kind = $1 " ++
        "WHERE t.age > $2 ORDER BY u.age ASC LIMIT $3") := by
    decide +kernel
  obtain ⟨statement, rendered, sql⟩ := Except.map_eq_ok text
  obtain ⟨distinct, gone, renderedToo, part, -⟩ := statement_dropDuplicates rendered dropped
  rw [renderedToo] at distinctText
  exact ⟨_, statement, distinct, rendered, dropped, renderedToo, part, sql,
    Except.ok.inj distinctText⟩

end CriteriaQuery.Query
