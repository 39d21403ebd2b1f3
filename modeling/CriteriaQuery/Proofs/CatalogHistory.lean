import Mathlib.Data.Finset.Card
import CriteriaQuery.Catalog
import CriteriaQuery.Proofs.Insertions

/-!
# What a catalog knows after its registrations

A catalog keeps of its registrations the latest of each schema and name.  What it answers is read
off the list of registrations, without its two levels of maps.

A search by name alone is settled by the default schema, or by the one schema that has the name.
Where several other schemas have it, their order decides; nothing is said about this case here.
-/

namespace CriteriaQuery

/-- A registration: of a table, or of an entity with its columns. -/
inductive Registration where
  | table (table : Table)
  | entity (entity : Entity)
deriving Repr

namespace Registration

/-- The table that is registered. -/
def registered : Registration → Table
  | .table added => added
  | .entity declared => .ofEntity declared

/-- The schema and the name that a registration is kept under. -/
def key (registration : Registration) : String × String :=
  (registration.registered.schema, registration.registered.name)

/-- Carry out a registration. -/
def apply (catalog : Catalog) : Registration → Catalog
  | .table added => catalog.registerTable added
  | .entity declared => catalog.register declared

theorem apply_eq (catalog : Catalog) (registration : Registration) :
    registration.apply catalog = catalog.registerTable registration.registered := by
  cases registration with
  | table | entity => rfl

end Registration

/-- The table that was registered last under a schema and name. -/
def latest? (history : List Registration) (schema name : String) : Option Table :=
  (history.map Registration.registered).reverse.find? fun table =>
    table.schema == schema && table.name == name

/-- All registrations of a name lie in one schema. -/
def LiesIn (history : List Registration) (name schema : String) : Prop :=
  ∀ registration ∈ history, registration.registered.name = name →
    registration.registered.schema = schema

/-- A name is registered in the default schema, or in one schema at most. -/
def Unambiguous (history : List Registration) (name : String) : Prop :=
  (latest? history Catalog.defaultSchema name).isSome ∨ ∃ schema, LiesIn history name schema

namespace Table

variable {table : Table}

theorem hasColumn_iff {column : String} :
    table.hasColumn column = true ↔ column ∈ table.columns.map Column.name := by
  simp [hasColumn]

end Table

section Latest

variable {before later : List Registration} {registration : Registration} {schema name : String}

theorem latest?_concat (history : List Registration) (registration : Registration)
    (schema name : String) :
    latest? (history ++ [registration]) schema name =
      if registration.key = (schema, name) then some registration.registered
      else latest? history schema name := by
  simp only [latest?, List.map_append, List.map_cons, List.map_nil, List.reverse_append,
    List.reverse_cons, List.reverse_nil, List.nil_append, List.singleton_append, List.find?_cons,
    Registration.key, Prod.mk.injEq]
  split
  · next found => rw [if_pos (by simpa using found)]
  · next missed => rw [if_neg (by simpa using missed)]

theorem latest?_append (before later : List Registration) (schema name : String) :
    latest? (before ++ later) schema name =
      (latest? later schema name).or (latest? before schema name) := by
  simp only [latest?, List.map_append, List.reverse_append, List.find?_append]

theorem isSome_latest?_iff {history : List Registration} :
    (latest? history schema name).isSome ↔
      ∃ registration ∈ history, registration.key = (schema, name) := by
  simp [latest?, Registration.key]

/-- A registration under another key, or one that is replaced later, leaves the latest alone. -/
theorem latest?_of_idle
    (idle : registration.key ≠ (schema, name) ∨
      ∃ replacing ∈ later, replacing.key = registration.key) :
    latest? (before ++ registration :: later) schema name =
      latest? (before ++ later) schema name := by
  rw [List.append_cons, latest?_append _ later, latest?_append _ later, latest?_concat]
  by_cases own : registration.key = (schema, name)
  · obtain different | ⟨replacing, inside, same⟩ := idle
    · exact absurd own different
    · have found := isSome_latest?_iff.2 ⟨replacing, inside, same.trans own⟩
      rw [Option.or_of_isSome found, Option.or_of_isSome found]
  · rw [if_neg own]

end Latest

namespace Catalog

variable {catalog : Catalog} {schema name : String}

theorem table?_eq (catalog : Catalog) (schema name : String) :
    catalog.table? schema name = (catalog.tablesOf schema).get? name := by
  unfold table? tablesOf
  cases catalog.schemas.get? schema with
  | none | some => rfl

/-- A registered table is found under its schema and name; all others are found as before. -/
theorem table?_registerTable (catalog : Catalog) (table : Table) (schema name : String) :
    (catalog.registerTable table).table? schema name =
      if (table.schema, table.name) = (schema, name) then some table
      else catalog.table? schema name := by
  by_cases sameSchema : table.schema = schema
  · subst sameSchema
    have inSchema : (catalog.registerTable table).table? table.schema name =
        ((catalog.tablesOf table.schema).insert table.name table).get? name := by
      simp [table?, registerTable]
    rw [inSchema, table?_eq]
    by_cases sameName : table.name = name
    · subst sameName
      rw [if_pos rfl, OrderedMap.get?_insert_self]
    · rw [if_neg fun same => sameName (Prod.mk.inj same).2,
        OrderedMap.get?_insert_of_ne _ (Ne.symm sameName)]
  · rw [if_neg fun same => sameSchema (Prod.mk.inj same).1, table?, registerTable,
      OrderedMap.get?_insert_of_ne _ (Ne.symm sameSchema), table?]

/-- A registration adds a table unless it replaces one. -/
theorem size_registerTable (catalog : Catalog) (table : Table) :
    (catalog.registerTable table).size =
      if (catalog.table? table.schema table.name).isSome then catalog.size
      else catalog.size + 1 := by
  have exchanged := catalog.schemas.total_insert table.schema
    ((catalog.tablesOf table.schema).insert table.name table) OrderedMap.size
  have previous : ((catalog.schemas.get? table.schema).map OrderedMap.size).getD 0 =
      (catalog.tablesOf table.schema).size := by
    unfold tablesOf
    cases catalog.schemas.get? table.schema with
    | none | some => rfl
  rw [previous, OrderedMap.size_insert, ← table?_eq] at exchanged
  change (catalog.registerTable table).size + _ = catalog.size + _ at exchanged
  by_cases replaced : (catalog.table? table.schema table.name).isSome
  · rw [if_pos replaced] at exchanged ⊢
    omega
  · rw [if_neg replaced] at exchanged ⊢
    omega

theorem isEmpty_iff (catalog : Catalog) : catalog.isEmpty = true ↔ catalog.size = 0 := by
  rw [isEmpty, List.all_eq_true, size, OrderedMap.total_eq_zero_iff]
  simp only [OrderedMap.isEmpty, OrderedMap.size, List.isEmpty_iff, List.length_eq_zero_iff]

/-- A name that only one schema has is found there, in whatever order the schemas are searched. -/
theorem findSome?_of_lone {order : List (String × OrderedMap String Table)}
    (permuted : order.Perm catalog.schemas.entries)
    (lone : ∀ other, (catalog.table? other name).isSome → other = schema) :
    order.findSome? (fun entry => entry.2.get? name) = catalog.table? schema name := by
  have ends : ∀ other tables, catalog.schemas.get? other = some tables →
      (tables.get? name).isSome → other = schema := by
    intro other tables found has
    apply lone
    rwa [table?, found]
  exact OrderedMap.findSome?_of_lone permuted ends

theorem findTable?_of_default {table : Table}
    (found : catalog.table? defaultSchema name = some table) :
    catalog.findTable? name = some table := by
  rw [findTable?, found, Option.some_or]

theorem findTable?_of_lone
    (lone : ∀ other, (catalog.table? other name).isSome → other = schema) :
    catalog.findTable? name = catalog.table? schema name := by
  have searched := findSome?_of_lone (List.Perm.refl _) lone
  rw [findTable?, OrderedMap.values, List.findSome?_map]
  cases found : catalog.table? defaultSchema name with
  | none => exact searched
  | some table =>
      have same := lone defaultSchema (Option.isSome_of_eq_some found)
      rw [Option.some_or, ← same, found]

theorem declares_iff {column : String} :
    catalog.declares name column = true ↔
      ∃ table, catalog.findTable? name = some table ∧
        column ∈ table.columns.map Column.name := by
  unfold declares
  cases catalog.findTable? name with
  | none => simp
  | some table => simp [Table.hasColumn_iff]

/-- The catalog after a list of registrations. -/
def after (history : List Registration) : Catalog :=
  history.foldl Registration.apply empty

theorem after_concat (history : List Registration) (registration : Registration) :
    after (history ++ [registration]) =
      (after history).registerTable registration.registered := by
  rw [after, List.foldl_append]
  exact registration.apply_eq (after history)

theorem table?_after (history : List Registration) (schema name : String) :
    (after history).table? schema name = latest? history schema name := by
  induction history using List.reverseRecOn with
  | nil => rfl
  | append_singleton history registration ih =>
      rw [after_concat, table?_registerTable, latest?_concat, ih]
      rfl

theorem size_after (history : List Registration) :
    (after history).size = (history.map Registration.key).toFinset.card := by
  induction history using List.reverseRecOn with
  | nil => rfl
  | append_singleton history registration ih =>
      have keys : ((history ++ [registration]).map Registration.key).toFinset =
          insert registration.key (history.map Registration.key).toFinset := by
        simp
      have known : ((after history).table? registration.registered.schema
            registration.registered.name).isSome ↔
          registration.key ∈ (history.map Registration.key).toFinset := by
        rw [table?_after, isSome_latest?_iff, List.mem_toFinset, List.mem_map]
        rfl
      rw [after_concat, size_registerTable, ih, keys]
      by_cases present : registration.key ∈ (history.map Registration.key).toFinset
      · rw [if_pos (known.2 present), Finset.insert_eq_of_mem present]
      · rw [if_neg (mt known.1 present), Finset.card_insert_of_notMem present]

variable {history before later : List Registration} {registration : Registration}
  {table : Table} {column : String}

theorem declares_after_of_default
    (found : latest? history defaultSchema name = some table) :
    (after history).declares name column = true ↔ column ∈ table.columns.map Column.name := by
  rw [← table?_after] at found
  rw [declares_iff, findTable?_of_default found]
  simp

theorem declares_after_of_liesIn (lies : LiesIn history name schema) :
    (after history).declares name column = true ↔
      ∃ table, latest? history schema name = some table ∧
        column ∈ table.columns.map Column.name := by
  have lone : ∀ other, ((after history).table? other name).isSome → other = schema := by
    intro other has
    rw [table?_after, isSome_latest?_iff] at has
    obtain ⟨registration, inside, same⟩ := has
    obtain ⟨sameSchema, sameName⟩ := Prod.mk.inj same
    exact sameSchema.symm.trans (lies registration inside sameName)
  rw [declares_iff, findTable?_of_lone lone, table?_after]

/-- What a catalog declares of an unambiguous name depends on the latest tables of the name. -/
theorem declares_after_congr {shorter : List Registration} (part : shorter ⊆ history)
    (same : ∀ schema, latest? shorter schema name = latest? history schema name)
    (unambiguous : Unambiguous history name) :
    (after shorter).declares name column = (after history).declares name column := by
  apply Bool.eq_iff_iff.2
  obtain found | ⟨schema, lies⟩ := unambiguous
  · obtain ⟨table, found⟩ := Option.isSome_iff_exists.1 found
    rw [declares_after_of_default found,
      declares_after_of_default ((same defaultSchema).trans found)]
  · have liesShorter : LiesIn shorter name schema :=
      fun registration inside => lies registration (part inside)
    rw [declares_after_of_liesIn lies, declares_after_of_liesIn liesShorter, same]

theorem size_after_of_replaced (replaced : ∃ replacing ∈ later, replacing.key = registration.key) :
    (after (before ++ later)).size = (after (before ++ registration :: later)).size := by
  have known : registration.key ∈ (later.map Registration.key).toFinset := by
    rw [List.mem_toFinset, List.mem_map]
    exact replaced
  rw [size_after, size_after, List.map_append, List.map_append, List.map_cons,
    List.toFinset_append, List.toFinset_append, List.toFinset_cons, Finset.insert_eq_of_mem known]

/-- A catalog answers by the latest registration of each schema and name.  It has a table for each
schema and name that was registered.  A name declares the columns of its latest table in the
default schema; without one, those of the latest table in the one schema that has the name.
Registrations under other names and replaced ones have no influence. -/
theorem after_keeps_latest (history : List Registration) :
    (∀ schema name, (after history).table? schema name = latest? history schema name) ∧
    (after history).size = (history.map Registration.key).toFinset.card ∧
    ((after history).isEmpty = true ↔ (after history).size = 0) ∧
    (∀ name column table, latest? history "public" name = some table →
      ((after history).declares name column = true ↔
        column ∈ table.columns.map Column.name)) ∧
    (∀ schema name column, latest? history "public" name = none → LiesIn history name schema →
      ((after history).declares name column = true ↔
        ∃ table, latest? history schema name = some table ∧
          column ∈ table.columns.map Column.name)) ∧
    ∀ before registration later, history = before ++ registration :: later →
      ((∃ replacing ∈ later, replacing.key = registration.key) →
        (after (before ++ later)).size = (after history).size) ∧
      ∀ name, (registration.registered.name ≠ name ∨
          ∃ replacing ∈ later, replacing.key = registration.key) →
        (∀ schema,
          (after (before ++ later)).table? schema name = (after history).table? schema name) ∧
        (Unambiguous history name → ∀ column,
          (after (before ++ later)).declares name column =
            (after history).declares name column) := by
  refine ⟨table?_after history, size_after history, isEmpty_iff _, ?_, ?_, ?_⟩
  · intro name column table found
    exact declares_after_of_default found
  · intro schema name column _ lies
    exact declares_after_of_liesIn lies
  · intro before registration later split
    subst split
    refine ⟨size_after_of_replaced, ?_⟩
    intro name idle
    have same : ∀ schema, latest? (before ++ later) schema name =
        latest? (before ++ registration :: later) schema name := by
      intro schema
      have idleKey := idle.imp_left fun other (equal : registration.key = (schema, name)) =>
        other (Prod.mk.inj equal).2
      exact (latest?_of_idle idleKey).symm
    constructor
    · intro schema
      rw [table?_after, table?_after, same]
    · intro unambiguous column
      have part : before ++ later ⊆ before ++ registration :: later :=
        ((List.sublist_cons_self _ _).append_left _).subset
      exact declares_after_congr part same unambiguous

/-- A table outside the default schema, an entity and another version of the table. -/
def eventHistory : List Registration :=
  [.table (.ofColumns "audit" "events" ["id", "kind"]),
    .entity { table := "users", rootAlias := "u", columns := ["id"] },
    .table (.ofColumns "audit" "events" ["id", "at"])]

theorem after_keeps_latest_eventHistory :
    (after eventHistory).size = 2 ∧
    (after eventHistory).declares "users" "id" = true ∧
    (after eventHistory).declares "events" "at" = true ∧
    (after eventHistory).declares "events" "kind" = false ∧
    (after (eventHistory.drop 1)).size = 2 ∧
    (after (eventHistory.drop 1)).declares "events" "at" = true := by
  obtain ⟨-, size, -, default, lone, idle⟩ := after_keeps_latest eventHistory
  have lies : LiesIn eventHistory "events" "audit" := by
    unfold LiesIn
    decide
  have others : latest? eventHistory "public" "events" = none := by decide
  have replaced : ∃ replacing ∈ eventHistory.drop 1,
      replacing.key = (Registration.table (.ofColumns "audit" "events" ["id", "kind"])).key := by
    decide
  obtain ⟨sameSize, same⟩ := idle [] _ (eventHistory.drop 1) rfl
  have twoTables : (after eventHistory).size = 2 := size.trans (by decide)
  have hasAt : (after eventHistory).declares "events" "at" = true :=
    (lone "audit" "events" "at" others lies).2 ⟨_, rfl, by decide⟩
  refine ⟨twoTables, (default "users" "id" _ rfl).2 (by decide), hasAt, ?_,
    (sameSize replaced).trans twoTables, ?_⟩
  · rw [← Bool.not_eq_true, lone "audit" "events" "kind" others lies]
    decide
  · exact ((same "events" (.inr replaced)).2 (.inr ⟨"audit", lies⟩) "at").trans hasAt

end Catalog

end CriteriaQuery
