import CriteriaQuery.Proofs.Lifecycle

/-!
# The filter that hides deleted rows

Hiding deleted rows changes at most one entry of the filters of a request, that of the excluded
statuses.  The entry keeps its place, or comes last if it is new, and the deleted status is added
behind the items it stood for.

The repository that adds the entry also has a handler for it: both look at the same column and
use the same name, so what is added never lacks a handler.
-/

namespace CriteriaQuery

/-- The items that an entry stands for where a list is wanted.  Nothing and null stand for no
item, a list for its own, and any other value for itself. -/
inductive Value.StandsFor : Option Value → List Value → Prop where
  | missing : StandsFor none []
  | null : StandsFor (some .null) []
  | list (items : List Value) : StandsFor (some (.list items)) items
  | single {value : Value} (notNull : value ≠ .null) (notList : ∀ items, value ≠ .list items) :
      StandsFor (some value) [value]

theorem Value.standsFor_iff {entry : Option Value} {items : List Value} :
    StandsFor entry items ↔ items = (entry.getD .null).toItems := by
  constructor
  · intro stands
    cases stands with
    | missing => rfl
    | null => rfl
    | list => rfl
    | @single value notNull notList =>
        cases value with
        | null => exact absurd rfl notNull
        | list items => exact absurd rfl (notList items)
        | text | bool | int | float | uuid | timestamp | json => rfl
  · intro same
    rw [same]
    cases entry with
    | none => exact .missing
    | some value =>
        cases value with
        | null => exact .null
        | list items => exact .list items
        | text | bool | int | float | uuid | timestamp | json =>
            exact .single (by simp) (by simp)

namespace Settings

variable {settings : Settings} {criteria : Criteria}

/-- Nothing is added if the request mentions the status or there is none. -/
theorem excludeDeleted_eq_self {hasStatus : Bool}
    (kept : criteria.contains settings.statusField = true ∨ hasStatus = false) :
    settings.excludeDeleted hasStatus criteria = criteria := by
  rw [excludeDeleted, if_pos]
  simpa using kept

theorem excludeDeleted_eq_insert (unmentioned : criteria.contains settings.statusField = false) :
    settings.excludeDeleted true criteria =
      criteria.insert settings.excludedStatusKey (settings.excludedStatuses criteria) := by
  rw [excludeDeleted, if_neg]
  simp [unmentioned]

end Settings

namespace Handlers

variable {handlers : Handlers}

/-- A field that has a handler never lacks one. -/
theorem exists_requireCriterion {field : String} (registered : handlers.hasCriterion field = true) :
    ∃ handler, handlers.requireCriterion field = .ok handler := by
  obtain ⟨handler, found⟩ := Option.isSome_iff_exists.1 registered
  exact ⟨handler, requireCriterion_eq_ok_iff.2 found⟩

end Handlers

namespace Repository

variable {α : Type}

section Created

variable {entity : Entity} {handlers : Handlers} {declares : String → String → Bool}
  {settings : Settings} {decode : Row → Except QueryError α} {criteria : Criteria}

theorem augment_eq_self
    (kept : criteria.contains settings.statusField = true ∨
      declares entity.table settings.statusField = false) :
    (create entity handlers declares settings decode).augment criteria = criteria :=
  Settings.excludeDeleted_eq_self kept

theorem augment_eq_insert (unmentioned : criteria.contains settings.statusField = false)
    (declared : declares entity.table settings.statusField = true) :
    (create entity handlers declares settings decode).augment criteria =
      criteria.insert settings.excludedStatusKey (settings.excludedStatuses criteria) := by
  have hasStatus : (create entity handlers declares settings decode).hasStatus = true := declared
  rw [augment, hasStatus]
  exact Settings.excludeDeleted_eq_insert unmentioned

/-- The handler is there in the same case in which the entry is added. -/
theorem hasCriterion_excludedStatusKey
    (declared : declares entity.table settings.statusField = true) :
    (create entity handlers declares settings decode).handlers.hasCriterion
      settings.excludedStatusKey = true := by
  have withLifecycle : (create entity handlers declares settings decode).handlers =
      handlers.withLifecycle settings := if_pos declared
  rw [withLifecycle, Handlers.hasCriterion_withLifecycle]
  exact .inr (.inr rfl)

/-- A field that is not one of the request's own has a handler. -/
theorem hasCriterion_of_mem_keys_augment {field : String}
    (inside : field ∈
      ((create entity handlers declares settings decode).augment criteria).keys) :
    field ∈ criteria.keys ∨
      (create entity handlers declares settings decode).handlers.hasCriterion field = true := by
  by_cases kept : criteria.contains settings.statusField = true ∨
      declares entity.table settings.statusField = false
  · rw [augment_eq_self kept] at inside
    exact .inl inside
  · simp only [not_or, Bool.not_eq_true, Bool.not_eq_false] at kept
    obtain ⟨unmentioned, declared⟩ := kept
    rw [augment_eq_insert unmentioned declared, OrderedMap.keys_insert] at inside
    split at inside
    · exact .inl inside
    · cases List.mem_append.1 inside with
      | inl old => exact .inl old
      | inr new =>
          rw [List.mem_singleton.1 new]
          exact .inr (hasCriterion_excludedStatusKey declared)

end Created

/-- What hiding deleted rows does to the filters of a request, for a repository that is made from
any handlers, settings and tables.

A request that mentions the status, or one for an entity that has none, keeps its filters.  Any
other keeps all entries but one: that of the excluded statuses becomes the list of the items it
stood for and the deleted status behind them.  It stands where it stood, or last if it was not
there, and it has a handler.

If every field of the request has a handler, so has every field afterwards. -/
theorem augment_exact (entity : Entity) (handlers : Handlers)
    (declares : String → String → Bool) (settings : Settings)
    (decode : Row → Except QueryError α) (criteria : Criteria) :
    let repository := create entity handlers declares settings decode
    let key := settings.excludedStatusKey
    (criteria.contains settings.statusField = true ∨
        declares entity.table settings.statusField = false →
      repository.augment criteria = criteria) ∧
    (criteria.contains settings.statusField = false →
      declares entity.table settings.statusField = true →
      ∃ items, Value.StandsFor (criteria.get? key) items ∧
        let excluded := Value.list (items ++ [settings.deletedStatus])
        (∀ before former after, criteria.entries = before ++ (key, former) :: after →
          (repository.augment criteria).entries = before ++ (key, excluded) :: after) ∧
        (key ∉ criteria.keys →
          (repository.augment criteria).entries = criteria.entries ++ [(key, excluded)]) ∧
        ∃ handler, repository.handlers.requireCriterion key = .ok handler) ∧
    ((∀ field ∈ criteria.keys, field ≠ "" → repository.handlers.hasCriterion field = true) →
      ∀ field ∈ (repository.augment criteria).keys, field ≠ "" →
        repository.handlers.hasCriterion field = true) := by
  intro repository key
  refine ⟨augment_eq_self, ?_, ?_⟩
  · intro unmentioned declared
    rw [augment_eq_insert unmentioned declared]
    refine ⟨_, Value.standsFor_iff.2 rfl, ?_, ?_, ?_⟩
    · intro before former after split
      exact OrderedMap.entries_insert_of_split split _
    · intro absent
      exact criteria.entries_insert_of_not_mem absent _
    · exact Handlers.exists_requireCriterion (hasCriterion_excludedStatusKey declared)
  · intro covered field inside named
    cases hasCriterion_of_mem_keys_augment inside with
    | inl own => exact covered field own named
    | inr registered => exact registered

/-- A request that excludes a status in front of its other filters. -/
def bannedExcluded : Criteria :=
  .ofList [("excludedStatus", .text "banned"), ("age", .int 30)]

theorem augment_exact_bannedExcluded :
    ((userRepository .empty).augment bannedExcluded).entries =
        [("excludedStatus", .list [.text "banned", .text "deleted"]), ("age", .int 30)] ∧
      ∃ handler,
        (userRepository .empty).handlers.requireCriterion "excludedStatus" = .ok handler := by
  obtain ⟨-, added, -⟩ := augment_exact (userRepository .empty).entity .empty
    (userRepository .empty).declares {} (userRepository .empty).decode bannedExcluded
  obtain ⟨items, stands, replaced, -, registered⟩ := added rfl rfl
  have former : items = [.text "banned"] := Value.standsFor_iff.1 stands
  subst former
  exact ⟨replaced [] (.text "banned") [("age", .int 30)] rfl, registered⟩

end Repository

end CriteriaQuery
