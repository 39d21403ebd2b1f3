import CriteriaQuery.Proofs.Lifecycle

/-!
# Queries that differ in their values

Two runs of a request are compared step by step.  Computations agree if both fail with one
error or both succeed with related results, and agreement composes as computations do.

Two queries are alike if they differ at most in the values of their parameters, and there
only within a shape, and in the numbers of their limits and offsets.  Composing takes alike
queries to alike queries whenever the values that it is given have the same shapes.
-/

namespace CriteriaQuery

/-- Both computations fail with one error, or both succeed with related results. -/
inductive Agree {ε α β : Type} (related : α → β → Prop) :
    Except ε α → Except ε β → Prop where
  | error (error : ε) : Agree related (.error error) (.error error)
  | ok {left : α} {right : β} (same : related left right) : Agree related (.ok left) (.ok right)

namespace Agree

variable {ε α β γ δ : Type}

theorem refl (computed : Except ε α) : Agree Eq computed computed := by
  cases computed with
  | error error => exact .error error
  | ok result => exact .ok rfl

theorem bind {related : α → β → Prop} {after : γ → δ → Prop} {left : Except ε α}
    {right : Except ε β} {leftNext : α → Except ε γ} {rightNext : β → Except ε δ}
    (first : Agree related left right)
    (next : ∀ a b, related a b → Agree after (leftNext a) (rightNext b)) :
    Agree after (left.bind leftNext) (right.bind rightNext) := by
  cases first with
  | error error => exact .error error
  | ok same => exact next _ _ same

/-- Folds over lists agree if the lists show the same keys and so much is all that a step
depends on. -/
theorem foldlM {σ τ κ : Type} {related : σ → τ → Prop} {leftKey : α → κ} {rightKey : β → κ}
    {leftStep : σ → α → Except ε σ} {rightStep : τ → β → Except ε τ}
    (step : ∀ a b, leftKey a = rightKey b → ∀ s t, related s t →
      Agree related (leftStep s a) (rightStep t b))
    {lefts : List α} {rights : List β} (keys : lefts.map leftKey = rights.map rightKey)
    {left : σ} {right : τ} (start : related left right) :
    Agree related (lefts.foldlM leftStep left) (rights.foldlM rightStep right) := by
  induction lefts generalizing rights left right with
  | nil =>
      cases rights with
      | nil => exact .ok start
      | cons b rights => cases keys
  | cons a lefts ih =>
      cases rights with
      | nil => cases keys
      | cons b rights =>
          rcases List.cons.inj keys with ⟨sameKey, sameKeys⟩
          rw [List.foldlM_cons, List.foldlM_cons]
          apply (step a b sameKey left right start).bind
          intro s t held
          exact ih sameKeys held

/-- Folds over one list agree if their steps do for every item. -/
theorem foldlM_self {σ τ : Type} {related : σ → τ → Prop} {leftStep : σ → α → Except ε σ}
    {rightStep : τ → α → Except ε τ}
    (step : ∀ item s t, related s t → Agree related (leftStep s item) (rightStep t item))
    (items : List α) {left : σ} {right : τ} (start : related left right) :
    Agree related (items.foldlM leftStep left) (items.foldlM rightStep right) := by
  have keys : items.map id = items.map id := rfl
  refine foldlM ?_ keys start
  rintro a _ rfl s t held
  exact step a s t held

/-- Two computations whose results show the same key for every item of a list show the same
keys for the list. -/
theorem mapM {κ : Type} (key : β → κ) {leftOf rightOf : α → Except ε β} {items : List α}
    (each : ∀ item ∈ items,
      Agree (fun left right => key left = key right) (leftOf item) (rightOf item)) :
    Agree (fun lefts rights => lefts.map key = rights.map key) (items.mapM leftOf)
      (items.mapM rightOf) := by
  induction items with
  | nil => exact .ok rfl
  | cons item rest ih =>
      rw [List.mapM_cons, List.mapM_cons]
      apply (each item List.mem_cons_self).bind
      intro left right same
      apply (ih fun later member => each later (List.mem_cons_of_mem _ member)).bind
      intro lefts rights sameRest
      apply Agree.ok
      rw [List.map_cons, List.map_cons, same, sameRest]

/-- Computations that agree look the same to whoever sees no more than what is related. -/
theorem map_eq {related : α → β → Prop} {left : Except ε α} {right : Except ε β}
    (agree : Agree related left right) {leftView : α → γ} {rightView : β → γ}
    (view : ∀ a b, related a b → leftView a = rightView b) :
    left.map leftView = right.map rightView := by
  cases agree with
  | error error => rfl
  | ok same => exact congrArg Except.ok (view _ _ same)

end Agree

namespace OrderedMap

variable {α β γ : Type}

/-- The map with an image of every value. -/
def mapValues (map : OrderedMap α β) (image : β → γ) : OrderedMap α γ where
  entries := map.entries.map fun entry => (entry.1, image entry.2)
  nodup_keys := by
    rw [List.map_map]
    exact map.nodup_keys

variable [DecidableEq α]

theorem get?_mapValues (map : OrderedMap α β) (image : β → γ) (key : α) :
    (map.mapValues image).get? key = (map.get? key).map image := by
  unfold get? mapValues
  simp only
  induction map.entries with
  | nil => rfl
  | cons entry rest ih =>
      by_cases same : entry.1 = key
      · simp [find?, same]
      · simp [find?, same, ih]

theorem mapValues_insert (map : OrderedMap α β) (image : β → γ) (key : α) (value : β) :
    (map.insert key value).mapValues image = (map.mapValues image).insert key (image value) := by
  apply eq_of_entries
  change (put key value map.entries).map _ = put key (image value) (map.entries.map _)
  induction map.entries with
  | nil => rfl
  | cons entry rest ih =>
      by_cases same : entry.1 = key
      · simp [put, same]
      · simp [put, same, ih]

end OrderedMap

namespace Predicate

/-- What a predicate shows of its value: no more than the shape. -/
def outline (predicate : Predicate) : String × Option (String × Value.Shape) :=
  (predicate.condition, predicate.parameter.map fun bound => (bound.1, bound.2.shape))

/-- Values of one shape have predicates of one outline. -/
theorem outline_resolve (rootAlias column : String) {left right : Value}
    (same : left.shape = right.shape) (exclude : Bool) :
    (resolve rootAlias column left exclude).map outline =
      (resolve rootAlias column right exclude).map outline := by
  rw [resolve_shape, resolve_shape, same]
  cases shape : right.shape with
  | null => rfl
  | items count =>
      cases count with
      | zero => rfl
      | succ count => simp [outline, membership, same]
  | nullSentinel => rfl
  | notNullSentinel => rfl
  | scalar => simp [outline, equality, same]

end Predicate

/-- What an entry of a request shows: its field and the shape of its value. -/
def entryOutline (entry : String × Value) : String × Value.Shape :=
  (entry.1, entry.2.shape)

/-- Entries of one outline turn into predicates of one outline. -/
theorem ColumnFilters.outline_predicate? (filters : ColumnFilters) (rootAlias : String)
    {left right : String × Value} (same : entryOutline left = entryOutline right) :
    (filters.predicate? rootAlias left).map Predicate.outline =
      (filters.predicate? rootAlias right).map Predicate.outline := by
  rcases left with ⟨field, value⟩
  rcases right with ⟨field', value'⟩
  rcases Prod.mk.inj same with ⟨rfl, shapes⟩
  cases found : filters.filter? field with
  | none => simp [predicate?, found]
  | some filter =>
      simp only [predicate?, found, Option.bind_some]
      exact Predicate.outline_resolve rootAlias filter.column shapes filter.exclude

namespace Query

/-- Two queries that differ at most in values of one shape and in their limits and
offsets. -/
inductive Alike : Query → Query → Prop where
  | intro (query : Query) {parameters : OrderedMap String Value} {limit offset : Option Int64}
      (shapes : query.parameters.mapValues Value.shape = parameters.mapValues Value.shape)
      (limits : query.limit.isSome = limit.isSome)
      (offsets : query.offset.isSome = offset.isSome) :
      Alike query { query with parameters, limit, offset }

namespace Alike

variable {left right : Query}

theorem refl (query : Query) : query.Alike query :=
  .intro query rfl rfl rfl

theorem rootAlias_eq (alike : left.Alike right) : left.rootAlias = right.rootAlias := by
  cases alike
  rfl

theorem add (alike : left.Alike right) (fragment : Fragment) :
    (left.add fragment).Alike (right.add fragment) := by
  cases alike with
  | intro shapes limits offsets =>
      cases fragment <;> exact .intro (left.add _) shapes limits offsets

theorem addAll (alike : left.Alike right) (fragments : List Fragment) :
    (left.addAll fragments).Alike (right.addAll fragments) := by
  induction fragments generalizing left right with
  | nil => exact alike
  | cons fragment rest ih => exact ih (alike.add fragment)

/-- Predicates of one outline are added alike. -/
theorem addPredicate (alike : left.Alike right) {first second : Predicate}
    (same : first.outline = second.outline) :
    (left.addPredicate first).Alike (right.addPredicate second) := by
  rcases first with ⟨condition, parameter⟩
  rcases second with ⟨condition', parameter'⟩
  simp only [Predicate.outline, Prod.mk.injEq] at same
  rcases same with ⟨rfl, shapes⟩
  cases alike with
  | intro held limits offsets =>
      cases parameter with
      | none =>
          cases parameter' with
          | none => exact .intro (left.addCondition condition) held limits offsets
          | some bound => cases shapes
      | some bound =>
          cases parameter' with
          | none => cases shapes
          | some bound' =>
              -- both bind one name, so the maps go on to show the same shapes
              rcases bound with ⟨name, value⟩
              rcases bound' with ⟨name', value'⟩
              simp only [Option.map_some, Option.some.injEq, Prod.mk.injEq] at shapes
              rcases shapes with ⟨rfl, sameShape⟩
              refine .intro ((left.addCondition condition).setParameter name value) ?_ limits
                offsets
              change (left.parameters.insert name value).mapValues Value.shape = _
              rw [OrderedMap.mapValues_insert, held, sameShape, ← OrderedMap.mapValues_insert]
              rfl

theorem addPredicates (alike : left.Alike right) {firsts seconds : List Predicate}
    (same : firsts.map Predicate.outline = seconds.map Predicate.outline) :
    (left.addPredicates firsts).Alike (right.addPredicates seconds) := by
  induction firsts generalizing seconds left right with
  | nil =>
      cases seconds with
      | nil => exact alike
      | cons second seconds => cases same
  | cons first firsts ih =>
      cases seconds with
      | nil => cases same
      | cons second seconds =>
          rcases List.cons.inj same with ⟨sameHead, sameTail⟩
          exact ih (alike.addPredicate sameHead) sameTail

/-- Alike queries stay so with limits and offsets that are both given or both missing. -/
theorem paginate (alike : left.Alike right) {leftLimit rightLimit : Option Int64}
    {leftOffset rightOffset : Option Int64} (limits : leftLimit.isSome = rightLimit.isSome)
    (offsets : leftOffset.isSome = rightOffset.isSome) :
    ((left.setLimit leftLimit).setOffset leftOffset).Alike
      ((right.setLimit rightLimit).setOffset rightOffset) := by
  cases alike with
  | intro shapes _ _ =>
      exact .intro ((left.setLimit leftLimit).setOffset leftOffset) shapes limits offsets

/-- Dropping duplicates looks at joins and selections only. -/
theorem dropDuplicates (alike : left.Alike right) :
    Agree Query.Alike (Query.dropDuplicates left).result (Query.dropDuplicates right).result := by
  rw [result_dropDuplicates, result_dropDuplicates]
  cases alike with
  | intro shapes limits offsets =>
      apply (Agree.refl _).bind
      rintro groups _ rfl
      exact .ok (.intro { left with joins := _, selections := _ } shapes limits offsets)

end Alike

end Query

/-- A pass that appends the same fragments to every query under a root alias, and then
succeeds or fails in the same way. -/
def Pass.AppendsFixed (pass : Pass) : Prop :=
  ∃ (fragments : String → List Fragment) (error : Option QueryError), ∀ query,
    (pass query).query = query.addAll (fragments query.rootAlias) ∧ (pass query).error = error

namespace Handlers

/-- The handlers of selections append fixed fragments. -/
def SelectsFixed (handlers : Handlers) : Prop :=
  ∀ name handler, handlers.selects.get? name = some handler → handler.AppendsFixed

variable {handlers : Handlers} {left right : Query}

theorem SelectsFixed.withLifecycle (fixed : handlers.SelectsFixed) (settings : Settings) :
    (handlers.withLifecycle settings).SelectsFixed :=
  forall_selects_withLifecycle fixed settings

theorem applyCriterion_agree {filters : ColumnFilters} (described : handlers.FilterBy filters)
    (alike : left.Alike right) {first second : String × Value}
    (same : entryOutline first = entryOutline second) :
    Agree Query.Alike (handlers.applyCriterion first left).result
      (handlers.applyCriterion second right).result := by
  have outlines := filters.outline_predicate? left.rootAlias same
  rcases Prod.mk.inj same with ⟨field, -⟩
  rw [result_applyCriterion described, result_applyCriterion described, field,
    ← alike.rootAlias_eq]
  split
  · refine .ok (alike.addPredicates ?_)
    rw [← Option.toList_map, ← Option.toList_map, outlines]
  · exact .error _

/-- Filters with values of the same shapes are added alike. -/
theorem addCriteria_agree {filters : ColumnFilters} (described : handlers.FilterBy filters)
    (alike : left.Alike right) {first second : Criteria}
    (shapes : first.mapValues Value.shape = second.mapValues Value.shape) :
    Agree Query.Alike (handlers.addCriteria first left).result
      (handlers.addCriteria second right).result := by
  have entries : first.entries.map entryOutline = second.entries.map entryOutline :=
    congrArg OrderedMap.entries shapes
  have kept (entries : List (String × Value)) :
      (namedEntries entries).map entryOutline = namedEntries (entries.map entryOutline) := by
    rw [namedEntries, namedEntries, List.filter_map]
    rfl
  have named : (namedEntries first.entries).map entryOutline =
      (namedEntries second.entries).map entryOutline := by
    rw [kept, kept, entries]
  simp only [addCriteria, Pass.result_andThen, Pass.result_forEach, Pass.result_report]
  refine (Agree.foldlM (fun a b same s t held => ?_) named alike).bind fun s t held => .ok held
  exact applyCriterion_agree described held same

theorem applyOrder_agree {columns : ColumnOrders} (ordered : handlers.OrderBy columns)
    (alike : left.Alike right) (entry : String × String) :
    Agree Query.Alike (handlers.applyOrder entry left).result
      (handlers.applyOrder entry right).result := by
  have stored : handlers.order? entry.1 =
      (columns (orderName entry.1)).map OrderHandler.ofColumn := ordered _
  simp only [applyOrder, requireOrder]
  rw [stored]
  cases columns (orderName entry.1) with
  | none => exact .error _
  | some column =>
      simp only [Option.map_some, OrderHandler.ofColumn]
      cases SortDirection.ofKeyword entry.2 with
      | error error => exact .error error
      | ok direction =>
          refine .ok ?_
          change (left.addOrdering (left.rootAlias ++ "." ++ column) direction).Alike
            (right.addOrdering (right.rootAlias ++ "." ++ column) direction)
          rw [← alike.rootAlias_eq]
          exact alike.add (.ordering _)

theorem addOrders_agree {columns : ColumnOrders} (ordered : handlers.OrderBy columns)
    (alike : left.Alike right) (orders : Orders) :
    Agree Query.Alike (handlers.addOrders orders left).result
      (handlers.addOrders orders right).result := by
  simp only [addOrders, Pass.result_andThen, Pass.result_forEach, Pass.result_report]
  refine (Agree.foldlM_self (fun entry s t held => ?_) _ alike).bind fun s t held => .ok held
  exact applyOrder_agree ordered held entry

theorem applySelect_agree (fixed : handlers.SelectsFixed) (alike : left.Alike right)
    (field : String) :
    Agree Query.Alike (handlers.applySelect field left).result
      (handlers.applySelect field right).result := by
  simp only [applySelect]
  cases stored : handlers.select? field with
  | none => exact .ok (alike.add (.selection field))
  | some handler =>
      rcases fixed _ handler stored with ⟨fragments, error, appends⟩
      rcases appends left with ⟨leftQuery, leftError⟩
      rcases appends right with ⟨rightQuery, rightError⟩
      simp only [Outcome.result, leftQuery, leftError, rightQuery, rightError]
      cases error with
      | some error => exact .error error
      | none =>
          rw [← alike.rootAlias_eq]
          exact .ok (alike.addAll _)

theorem addSelects_agree (fixed : handlers.SelectsFixed) (alike : left.Alike right)
    (selects : List String) :
    Agree Query.Alike (handlers.addSelects selects left).result
      (handlers.addSelects selects right).result := by
  simp only [addSelects, Pass.result_andThen, Pass.result_forEach, Pass.result_report]
  refine (Agree.foldlM_self (fun field s t held => ?_) _ alike).bind fun s t held => .ok held
  exact applySelect_agree fixed held field

end Handlers

end CriteriaQuery
