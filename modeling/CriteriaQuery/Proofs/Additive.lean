import CriteriaQuery.Proofs.ColumnFilters

/-!
# Handlers that only add

Handlers of orderings and selections are arbitrary code.  What they leave alone is a
relation between the query before and the query after; a relation that holds of every
handler, and that may be chained, holds of the whole pass.  Two such relations matter
here: that the filters of a query stay as they are, and that fragments are appended and
nothing else happens.
-/

namespace CriteriaQuery

namespace Query

/-- The filters of a query are still there after it: its conditions at the same places,
and its parameters with the same values. -/
structure KeepsFilters (before after : Query) : Prop where
  conditions : before.conditions <+: after.conditions
  parameters : ∀ name value,
    before.parameters.get? name = some value → after.parameters.get? name = some value

namespace KeepsFilters

theorem refl (query : Query) : query.KeepsFilters query where
  conditions := List.prefix_refl _
  parameters _ _ found := found

theorem trans {first second third : Query} (left : first.KeepsFilters second)
    (right : second.KeepsFilters third) : first.KeepsFilters third where
  conditions := left.conditions.trans right.conditions
  parameters name value found := right.parameters name value (left.parameters name value found)

theorem condition_at {before after : Query} (kept : before.KeepsFilters after) {place : Nat}
    {text : String} (found : before.conditions[place]? = some text) :
    after.conditions[place]? = some text := by
  rcases kept.conditions with ⟨more, extended⟩
  rcases List.getElem?_eq_some_iff.1 found with ⟨inside, -⟩
  rw [← extended, List.getElem?_append_left inside, found]

end KeepsFilters

/-- Append fragments one after the other. -/
def addAll (query : Query) (fragments : List Fragment) : Query :=
  fragments.foldl add query

/-- Appended fragments leave the filters and the root alias as they are. -/
theorem addAll_frame (query : Query) (fragments : List Fragment) :
    query.KeepsFilters (query.addAll fragments) ∧
      (query.addAll fragments).rootAlias = query.rootAlias := by
  induction fragments generalizing query with
  | nil => exact ⟨.refl query, rfl⟩
  | cons fragment rest ih =>
      have step : query.KeepsFilters (query.add fragment) ∧
          (query.add fragment).rootAlias = query.rootAlias := by
        cases fragment with
        | selection text => exact ⟨⟨List.prefix_refl _, fun _ _ found => found⟩, rfl⟩
        | join root join => exact ⟨⟨List.prefix_refl _, fun _ _ found => found⟩, rfl⟩
        | condition text => exact ⟨⟨List.prefix_append _ _, fun _ _ found => found⟩, rfl⟩
        | ordering key => exact ⟨⟨List.prefix_refl _, fun _ _ found => found⟩, rfl⟩
      rcases ih (query.add fragment) with ⟨kept, sameAlias⟩
      exact ⟨step.1.trans kept, sameAlias.trans step.2⟩

@[simp] theorem rootAlias_addAll (query : Query) (fragments : List Fragment) :
    (query.addAll fragments).rootAlias = query.rootAlias :=
  (query.addAll_frame fragments).2

theorem dropDuplicates_keepsFilters {before after : Query}
    (dropped : (dropDuplicates before).result = .ok after) : before.KeepsFilters after := by
  rw [dropDuplicates_frame dropped]
  exact ⟨List.prefix_refl _, fun _ _ found => found⟩

end Query

/-- A pass that appends fragments of some parts and does nothing else to the query. -/
def Pass.Appends (parts : List QueryPart) (pass : Pass) : Prop :=
  ∀ query, ∃ fragments : List Fragment,
    (∀ fragment ∈ fragments, fragment.part ∈ parts) ∧
      (pass query).query = query.addAll fragments

/-- Orderings by columns, by the names of their handlers. -/
abbrev ColumnOrders := String → Option String

namespace ColumnOrders

/-- The sort key of an entry, if there is a handler for its field and its direction is one. -/
def sortKey? (columns : ColumnOrders) (rootAlias : String) (entry : String × String) :
    Option SortKey :=
  (columns (Handlers.orderName entry.1)).bind fun column =>
    (SortDirection.ofKeyword? entry.2).map fun direction =>
      { expression := rootAlias ++ "." ++ column, direction }

/-- The sort keys of entries, in order.  Entries without a field have none. -/
def sortKeys (columns : ColumnOrders) (rootAlias : String)
    (entries : List (String × String)) : List SortKey :=
  (Handlers.namedEntries entries).filterMap (columns.sortKey? rootAlias)

end ColumnOrders

namespace Handlers

/-- The handlers of orderings are exactly those of a table. -/
def OrderBy (handlers : Handlers) (columns : ColumnOrders) : Prop :=
  ∀ name, handlers.orders.get? name = (columns name).map OrderHandler.ofColumn

/-- The handlers of selections append fragments of some parts and do nothing else. -/
def SelectsAppend (handlers : Handlers) (parts : List QueryPart) : Prop :=
  ∀ name handler, handlers.selects.get? name = some handler → handler.Appends parts

/-- The handlers of orderings and selections leave the filters of a query as they are. -/
structure KeepFilters (handlers : Handlers) : Prop where
  orders : ∀ name handler, handlers.orders.get? name = some handler →
    ∀ direction (query : Query), query.KeepsFilters (handler direction query).query
  selects : ∀ name handler, handlers.selects.get? name = some handler →
    ∀ query : Query, query.KeepsFilters (handler query).query

variable {handlers : Handlers} (related : Query → Query → Prop)

/-- What every handler of an ordering does to a query, all orderings together do. -/
theorem addOrders_related (refl : ∀ query, related query query)
    (trans : ∀ {first second third}, related first second → related second third →
      related first third)
    (each : ∀ name handler, handlers.orders.get? name = some handler →
      ∀ direction query, related query (handler direction query).query)
    {orders : Orders} {before after : Query}
    (added : (handlers.addOrders orders before).result = .ok after) : related before after := by
  simp only [addOrders, Pass.result_andThen, Pass.result_forEach, Pass.result_report] at added
  rcases Except.bind_eq_ok added with ⟨last, run, same⟩
  cases same
  refine foldlM_preserves (refl before) (fun entry _ middle next held applied => ?_) run
  simp only [applyOrder, requireOrder] at applied
  cases stored : handlers.order? entry.1 with
  | none => simp [stored] at applied
  | some handler =>
      simp only [stored] at applied
      rw [← Outcome.query_eq_of_result applied]
      exact trans held (each _ handler stored entry.2 middle)

/-- What every handler of a selection does to a query, and a plain selection too, all
selections together do. -/
theorem addSelects_related (refl : ∀ query, related query query)
    (trans : ∀ {first second third}, related first second → related second third →
      related first third)
    (each : ∀ name handler, handlers.selects.get? name = some handler →
      ∀ query, related query (handler query).query)
    (plain : ∀ query text, related query (query.addSelection text))
    {selects : List String} {before after : Query}
    (added : (handlers.addSelects selects before).result = .ok after) :
    related before after := by
  simp only [addSelects, Pass.result_andThen, Pass.result_forEach, Pass.result_report] at added
  rcases Except.bind_eq_ok added with ⟨last, run, same⟩
  cases same
  refine foldlM_preserves (refl before) (fun field _ middle next held applied => ?_) run
  rw [← Outcome.query_eq_of_result applied]
  refine trans held ?_
  simp only [applySelect]
  cases stored : handlers.select? field with
  | none => exact plain middle field
  | some handler => exact each _ handler stored middle

/-- An ordering by a column leaves the filters and the root alias as they are. -/
theorem ofColumn_frame (column direction : String) (query : Query) :
    query.KeepsFilters (OrderHandler.ofColumn column direction query).query ∧
      (OrderHandler.ofColumn column direction query).query.rootAlias = query.rootAlias := by
  simp only [OrderHandler.ofColumn]
  cases SortDirection.ofKeyword direction with
  | ok parsed => exact query.addAll_frame [.ordering _]
  | error error => exact query.addAll_frame []

/-- One ordering: it has a sort key, or there is no handler or no such direction. -/
theorem applyOrder_eq_ok_iff {columns : ColumnOrders} (ordered : handlers.OrderBy columns)
    (entry : String × String) {query next : Query} :
    (handlers.applyOrder entry query).result = .ok next ↔
      (columns.sortKey? query.rootAlias entry).isSome ∧
        next = query.addAll
          ((columns.sortKey? query.rootAlias entry).toList.map .ordering) := by
  have stored : handlers.order? entry.1 =
      (columns (orderName entry.1)).map OrderHandler.ofColumn := ordered _
  simp only [applyOrder, requireOrder, ColumnOrders.sortKey?]
  rw [stored]
  cases columns (orderName entry.1) with
  | none => simp
  | some column =>
      simp only [Option.map_some, Option.bind_some, OrderHandler.ofColumn,
        SortDirection.ofKeyword]
      cases SortDirection.ofKeyword? entry.2 with
      | none => simp
      | some direction =>
          simp only [Pass.result_update, Except.ok.injEq, Option.map_some, Option.isSome_some,
            true_and]
          exact eq_comm

/-- Orderings are added exactly if every entry with a field has a sort key, and then these
are appended, in order. -/
theorem addOrders_eq_ok_iff {columns : ColumnOrders} (ordered : handlers.OrderBy columns)
    {orders : Orders} {before after : Query} :
    (handlers.addOrders orders before).result = .ok after ↔
      (∀ entry ∈ namedEntries orders.entries,
        (columns.sortKey? before.rootAlias entry).isSome) ∧
        after = before.addAll ((columns.sortKeys before.rootAlias orders.entries).map
          .ordering) := by
  have keeps (query : Query) (entry : String × String)
      (same : query.rootAlias = before.rootAlias) :
      (query.addAll ((columns.sortKey? before.rootAlias entry).toList.map
        .ordering)).rootAlias = before.rootAlias :=
    (query.rootAlias_addAll _).trans same
  have step (query : Query) (entry : String × String) (next : Query)
      (same : query.rootAlias = before.rootAlias) :
      (handlers.applyOrder entry query).result = .ok next ↔
        (columns.sortKey? before.rootAlias entry).isSome ∧
          next = query.addAll
            ((columns.sortKey? before.rootAlias entry).toList.map .ordering) := by
    rw [← same]
    exact applyOrder_eq_ok_iff ordered entry
  have keys : before.addAll ((columns.sortKeys before.rootAlias orders.entries).map
        .ordering) =
      (namedEntries orders.entries).foldl (fun query entry => query.addAll
        ((columns.sortKey? before.rootAlias entry).toList.map .ordering)) before := by
    rw [ColumnOrders.sortKeys, List.filterMap_eq_flatMap_toList, List.map_flatMap]
    exact List.foldl_flatMap
  rw [keys]
  exact Pass.forEach_report_eq_ok_iff keeps step _ _ rfl after

/-- Orderings by columns and selections that append leave the filters as they are. -/
theorem OrderBy.keepFilters {columns : ColumnOrders} {parts : List QueryPart}
    (ordered : handlers.OrderBy columns) (selected : handlers.SelectsAppend parts) :
    handlers.KeepFilters where
  orders name handler stored direction query := by
    rw [ordered name] at stored
    rcases Option.map_eq_some_iff.1 stored with ⟨column, -, rfl⟩
    exact (ofColumn_frame column direction query).1
  selects name handler stored query := by
    rcases selected name handler stored query with ⟨fragments, -, appended⟩
    rw [appended]
    exact (query.addAll_frame fragments).1

theorem KeepFilters.addOrders (keep : handlers.KeepFilters) {orders : Orders}
    {before after : Query} (added : (handlers.addOrders orders before).result = .ok after) :
    before.KeepsFilters after :=
  addOrders_related Query.KeepsFilters .refl .trans keep.orders added

theorem KeepFilters.addSelects (keep : handlers.KeepFilters) {selects : List String}
    {before after : Query} (added : (handlers.addSelects selects before).result = .ok after) :
    before.KeepsFilters after :=
  addSelects_related Query.KeepsFilters .refl .trans keep.selects
    (fun query text => (query.addAll_frame [.selection text]).1) added

/-- Selections that append keep the root alias. -/
theorem SelectsAppend.rootAlias_eq {parts : List QueryPart}
    (selected : handlers.SelectsAppend parts) {selects : List String} {before after : Query}
    (added : (handlers.addSelects selects before).result = .ok after) :
    after.rootAlias = before.rootAlias := by
  have each : ∀ name handler, handlers.selects.get? name = some handler →
      ∀ query, (handler query).query.rootAlias = query.rootAlias := by
    intro name handler stored query
    rcases selected name handler stored query with ⟨fragments, -, appended⟩
    rw [appended]
    exact query.rootAlias_addAll fragments
  exact addSelects_related (fun first second => second.rootAlias = first.rootAlias)
    (fun _ => rfl) (fun left right => right.trans left) each (fun _ _ => rfl) added

end Handlers

end CriteriaQuery
