import CriteriaQuery.Criteria.Handlers

/-!
# Registration of the lifecycle handlers

Each lifecycle handler is registered where its name is free.  A registration of this kind takes no
handler away and leaves one under its name, so it does nothing when it is made again.

Names count and not fields.  The two lifecycle filters may have one name, and then the first of
them, which includes, is registered and the other is not.
-/

namespace CriteriaQuery

namespace OrderedMap

universe u v

variable {α : Type u} {β : Type v} [DecidableEq α] {map : OrderedMap α β} {key : α}

/-- Insert an entry unless its key is there. -/
def insertNew (map : OrderedMap α β) (key : α) (value : β) : OrderedMap α β :=
  if (map.get? key).isSome then map else map.insert key value

theorem get?_insertNew (map : OrderedMap α β) (key : α) (value : β) (other : α) :
    (map.insertNew key value).get? other =
      (map.get? other).or (if other = key then some value else none) := by
  by_cases same : other = key
  · subst same
    cases found : map.get? other with
    | none => simp [insertNew, found]
    | some taken => simp [insertNew, found]
  · rw [if_neg same, Option.or_none, insertNew]
    split
    · rfl
    · exact map.get?_insert_of_ne same value

end OrderedMap

namespace Handlers

variable {handlers : Handlers} {settings : Settings} {field : String}

theorem requireCriterion_eq_ok_iff {handler : CriterionHandler} :
    handlers.requireCriterion field = .ok handler ↔ handlers.criterion? field = some handler := by
  rw [requireCriterion]
  split <;> simp_all

theorem requireOrder_eq_ok_iff {handler : OrderHandler} :
    handlers.requireOrder field = .ok handler ↔ handlers.order? field = some handler := by
  rw [requireOrder]
  split <;> simp_all

theorem criterion_of_free (handlers : Handlers) (field : String) (handler : CriterionHandler) :
    (if handlers.hasCriterion field then handlers else handlers.criterion field handler) =
      { handlers with
        criteria := handlers.criteria.insertNew (criterionName field) handler } := by
  unfold OrderedMap.insertNew hasCriterion criterion?
  split <;> rfl

theorem order_of_free (handlers : Handlers) (field : String) (handler : OrderHandler) :
    (if handlers.hasOrder field then handlers else handlers.order field handler) =
      { handlers with orders := handlers.orders.insertNew (orderName field) handler } := by
  unfold OrderedMap.insertNew hasOrder order?
  split <;> rfl

/-- The three registrations, each in its table. -/
theorem withLifecycle_eq (handlers : Handlers) (settings : Settings) :
    handlers.withLifecycle settings =
      { criteria :=
          (handlers.criteria.insertNew (criterionName settings.statusField)
            (.ofColumn settings.statusField false)).insertNew
            (criterionName settings.excludedStatusKey) (.ofColumn settings.statusField true)
        orders :=
          handlers.orders.insertNew (orderName settings.statusField)
            (.ofColumn settings.statusField)
        selects := handlers.selects } := by
  simp only [withLifecycle, fieldCriterion, excludedFieldCriterion, fieldOrder, criterion_of_free,
    order_of_free]

/-- A filter is the one that was there.  If there was none, it is the first of the lifecycle
filters with its name. -/
theorem criterion?_withLifecycle (handlers : Handlers) (settings : Settings) (field : String) :
    (handlers.withLifecycle settings).criterion? field =
      (handlers.criterion? field).or
        (if criterionName field = criterionName settings.statusField then
          some (.ofColumn settings.statusField false)
        else if criterionName field = criterionName settings.excludedStatusKey then
          some (.ofColumn settings.statusField true)
        else none) := by
  rw [withLifecycle_eq, criterion?, OrderedMap.get?_insertNew, OrderedMap.get?_insertNew,
    Option.or_assoc]
  congr 1
  split <;> rfl

-- The uppercase of a letter may be two letters, so these two fields have one name.
example : (empty.withLifecycle { statusField := "ß", excludedStatusKey := "SS" }).criterion? "SS" =
    some (.ofColumn "ß" false) := by
  rfl

theorem order?_withLifecycle (handlers : Handlers) (settings : Settings) (field : String) :
    (handlers.withLifecycle settings).order? field =
      (handlers.order? field).or
        (if orderName field = orderName settings.statusField then
          some (.ofColumn settings.statusField)
        else none) := by
  rw [withLifecycle_eq, order?, OrderedMap.get?_insertNew]
  rfl

@[simp] theorem selects_withLifecycle (settings : Settings) :
    (handlers.withLifecycle settings).selects = handlers.selects := by
  rw [withLifecycle_eq]

theorem hasCriterion_withLifecycle (settings : Settings) (field : String) :
    (handlers.withLifecycle settings).hasCriterion field = true ↔
      handlers.hasCriterion field = true ∨
        criterionName field = criterionName settings.statusField ∨
          criterionName field = criterionName settings.excludedStatusKey := by
  rw [hasCriterion, criterion?_withLifecycle, Option.isSome_or, Bool.or_eq_true, hasCriterion]
  split
  · next including => simp [including]
  · next different =>
    split
    · next excluding => simp [excluding]
    · next other => simp [different, other]

theorem hasOrder_withLifecycle (settings : Settings) (field : String) :
    (handlers.withLifecycle settings).hasOrder field = true ↔
      handlers.hasOrder field = true ∨ orderName field = orderName settings.statusField := by
  by_cases ordering : orderName field = orderName settings.statusField <;>
    simp [hasOrder, order?_withLifecycle, ordering]

/-- A new filter for the status includes. -/
theorem requireCriterion_statusField (free : handlers.hasCriterion settings.statusField = false) :
    (handlers.withLifecycle settings).requireCriterion settings.statusField =
      .ok (.ofColumn settings.statusField false) := by
  have missing : handlers.criterion? settings.statusField = none :=
    Option.not_isSome_iff_eq_none.1 (Bool.eq_false_iff.1 free)
  rw [requireCriterion_eq_ok_iff, criterion?_withLifecycle, missing, Option.none_or, if_pos rfl]

/-- A new filter for the excluded statuses excludes, by the same column, if it has a name of its
own. -/
theorem requireCriterion_excludedStatusKey
    (different : criterionName settings.statusField ≠ criterionName settings.excludedStatusKey)
    (free : handlers.hasCriterion settings.excludedStatusKey = false) :
    (handlers.withLifecycle settings).requireCriterion settings.excludedStatusKey =
      .ok (.ofColumn settings.statusField true) := by
  have missing : handlers.criterion? settings.excludedStatusKey = none :=
    Option.not_isSome_iff_eq_none.1 (Bool.eq_false_iff.1 free)
  rw [requireCriterion_eq_ok_iff, criterion?_withLifecycle, missing, Option.none_or,
    if_neg different.symm, if_pos rfl]

/-- Nothing is registered where no name is free. -/
theorem withLifecycle_eq_self (including : handlers.hasCriterion settings.statusField = true)
    (excluding : handlers.hasCriterion settings.excludedStatusKey = true)
    (ordering : handlers.hasOrder settings.statusField = true) :
    handlers.withLifecycle settings = handlers := by
  simp only [withLifecycle, if_pos including, if_pos excluding, if_pos ordering]

/-- What registering the lifecycle handlers does, for any handlers and settings.

Every handler that was there is found as before.  Afterwards there are filters for the status and
for the excluded statuses and there is an ordering by the status, and no other name has a handler
that had none.  Both filters look at the status column: where they are new, the one for the status
includes, and so the one for the excluded statuses excludes if it has another name.

Registering the lifecycle handlers again changes nothing. -/
theorem withLifecycle_conservative (handlers : Handlers) (settings : Settings) :
    let after := handlers.withLifecycle settings
    let status := settings.statusField
    let excluded := settings.excludedStatusKey
    (∀ field handler, handlers.requireCriterion field = .ok handler →
        after.requireCriterion field = .ok handler) ∧
      (∀ field handler, handlers.requireOrder field = .ok handler →
        after.requireOrder field = .ok handler) ∧
      (∀ field handler, handlers.select? field = some handler →
        after.select? field = some handler) ∧
      (after.hasCriterion status = true ∧ after.hasCriterion excluded = true ∧
        after.hasOrder status = true) ∧
      (∀ field, after.hasCriterion field = true → handlers.hasCriterion field = true ∨
        criterionName field = criterionName status ∨
          criterionName field = criterionName excluded) ∧
      (∀ field, after.hasOrder field = true →
        handlers.hasOrder field = true ∨ orderName field = orderName status) ∧
      (∀ field, after.hasSelect field = true → handlers.hasSelect field = true) ∧
      (handlers.hasCriterion status = false →
        after.requireCriterion status = .ok (.ofColumn status false)) ∧
      (criterionName status ≠ criterionName excluded → handlers.hasCriterion excluded = false →
        after.requireCriterion excluded = .ok (.ofColumn status true)) ∧
      after.withLifecycle settings = after := by
  intro after status excluded
  have including : after.hasCriterion status = true :=
    (hasCriterion_withLifecycle settings status).2 (.inr (.inl rfl))
  have excluding : after.hasCriterion excluded = true :=
    (hasCriterion_withLifecycle settings excluded).2 (.inr (.inr rfl))
  have ordering : after.hasOrder status = true :=
    (hasOrder_withLifecycle settings status).2 (.inr rfl)
  refine ⟨?_, ?_, ?_, ⟨including, excluding, ordering⟩, ?_, ?_, ?_, requireCriterion_statusField,
    requireCriterion_excludedStatusKey, withLifecycle_eq_self including excluding ordering⟩
  · intro field handler found
    rw [requireCriterion_eq_ok_iff] at found ⊢
    rw [criterion?_withLifecycle, found, Option.some_or]
  · intro field handler found
    rw [requireOrder_eq_ok_iff] at found ⊢
    rw [order?_withLifecycle, found, Option.some_or]
  · intro field handler found
    rw [select?, selects_withLifecycle]
    exact found
  · intro field
    exact (hasCriterion_withLifecycle settings field).1
  · intro field
    exact (hasOrder_withLifecycle settings field).1
  · intro field found
    rw [hasSelect, select?, selects_withLifecycle] at found
    exact found

/-- Handlers of a program that filters by the age and orders by the status on its own. -/
def agingHandlers : Handlers :=
  (empty.fieldCriterion "age").order "Status" (.ofColumn "rank")

theorem withLifecycle_conservative_agingHandlers :
    let after := agingHandlers.withLifecycle {}
    after.requireCriterion "Age" = .ok (.ofColumn "age" false) ∧
      after.requireOrder "status" = .ok (.ofColumn "rank") ∧
      after.requireCriterion "status" = .ok (.ofColumn "status" false) ∧
      after.requireCriterion "excludedStatus" = .ok (.ofColumn "status" true) ∧
      after.hasCriterion "id" = false ∧ after.hasOrder "age" = false ∧
      after.withLifecycle {} = after := by
  intro after
  obtain ⟨criteria, orders, -, -, noOther, noOtherOrder, -, including, excluding, again⟩ :=
    withLifecycle_conservative agingHandlers {}
  refine ⟨criteria "Age" _ rfl, orders "status" _ rfl, including rfl, excluding (by decide) rfl,
    ?_, ?_, again⟩
  · rw [Bool.eq_false_iff]
    intro registered
    obtain own | status | excluded := noOther "id" registered
    · exact absurd own (by decide)
    · exact absurd status (by decide)
    · exact absurd excluded (by decide)
  · rw [Bool.eq_false_iff]
    intro registered
    obtain own | status := noOtherOrder "age" registered
    · exact absurd own (by decide)
    · exact absurd status (by decide)

end Handlers

end CriteriaQuery
