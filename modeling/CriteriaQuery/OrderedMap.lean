/-!
# Insertion-ordered maps

An ordered map lists its entries in the order in which their keys were first
inserted. Inserting a key again replaces its value and leaves its position
alone, so the entries never hold one key twice; the map carries that fact.

Filters, orderings and named parameters are such maps: the order of their
entries is the order of the clauses that a query is composed of.
-/

namespace CriteriaQuery

universe u v

/-- Entries with pairwise different keys, in order of first insertion. -/
structure OrderedMap (α : Type u) (β : Type v) where
  entries : List (α × β)
  nodup_keys : (entries.map Prod.fst).Nodup

namespace OrderedMap

variable {α : Type u} {β : Type v}

theorem eq_of_entries {left right : OrderedMap α β} (same : left.entries = right.entries) :
    left = right := by
  cases left
  cases right
  cases same
  rfl

/-- The map without entries. -/
def empty : OrderedMap α β where
  entries := []
  nodup_keys := List.nodup_nil

instance : Inhabited (OrderedMap α β) := ⟨empty⟩

/-- The keys in order of first insertion. -/
def keys (map : OrderedMap α β) : List α :=
  map.entries.map Prod.fst

/-- The values in the order of their keys. -/
def values (map : OrderedMap α β) : List β :=
  map.entries.map Prod.snd

/-- The number of entries. -/
def size (map : OrderedMap α β) : Nat :=
  map.entries.length

/-- The weights of the values, added up. -/
def total (map : OrderedMap α β) (weight : β → Nat) : Nat :=
  map.values.foldr (fun value rest => weight value + rest) 0

theorem total_eq_zero_iff {map : OrderedMap α β} {weight : β → Nat} :
    map.total weight = 0 ↔ ∀ value ∈ map.values, weight value = 0 := by
  unfold total
  induction map.values with
  | nil => simp
  | cons value rest ih => simp [ih]

/-- Whether there is no entry. -/
def isEmpty (map : OrderedMap α β) : Bool :=
  map.entries.isEmpty

variable [DecidableEq α]

/-- The value stored under a key in a list of entries. -/
def find? (key : α) : List (α × β) → Option β
  | [] => none
  | (other, value) :: rest => if other = key then some value else find? key rest

/-- Replace the value of a key where it stands, or add the entry at the end. -/
def put (key : α) (value : β) : List (α × β) → List (α × β)
  | [] => [(key, value)]
  | (other, old) :: rest =>
      if other = key then (key, value) :: rest else (other, old) :: put key value rest

/-- Putting an entry adds its key at the end unless the key is already there. -/
theorem map_fst_put (key : α) (value : β) (entries : List (α × β)) :
    (put key value entries).map Prod.fst =
      if key ∈ entries.map Prod.fst then entries.map Prod.fst
      else entries.map Prod.fst ++ [key] := by
  induction entries with
  | nil => simp [put]
  | cons entry rest ih =>
      obtain ⟨other, old⟩ := entry
      by_cases same : other = key
      · simp [put, same]
      · have different : ¬key = other := fun equal => same equal.symm
        simp only [put, same, if_false, List.map_cons, ih, List.mem_cons, different, false_or]
        split <;> simp

/-- Putting an entry keeps the keys pairwise different. -/
theorem nodup_put (key : α) (value : β) {entries : List (α × β)}
    (distinct : (entries.map Prod.fst).Nodup) :
    ((put key value entries).map Prod.fst).Nodup := by
  rw [map_fst_put]
  split
  · exact distinct
  · next absent =>
      rw [List.nodup_append]
      refine ⟨distinct, by simp, fun first inside second here => ?_⟩
      rw [List.mem_singleton] at here
      subst here
      exact fun equal => absent (equal ▸ inside)

/-- An entry is put behind entries with other keys. -/
theorem put_append_of_not_mem {key : α} {before : List (α × β)}
    (absent : key ∉ before.map Prod.fst) (value : β) (entries : List (α × β)) :
    put key value (before ++ entries) = before ++ put key value entries := by
  induction before with
  | nil => rfl
  | cons entry rest ih =>
      rw [List.map_cons, List.mem_cons, not_or] at absent
      rw [List.cons_append, put, if_neg (Ne.symm absent.1), ih absent.2, List.cons_append]

/-- An entry with a new key is put at the end. -/
theorem put_of_not_mem {key : α} {entries : List (α × β)} (absent : key ∉ entries.map Prod.fst)
    (value : β) : put key value entries = entries ++ [(key, value)] := by
  have appended := put_append_of_not_mem absent value []
  rwa [List.append_nil] at appended

/-- The value stored under a key. -/
def get? (map : OrderedMap α β) (key : α) : Option β :=
  find? key map.entries

/-- Whether a key has an entry. -/
def contains (map : OrderedMap α β) (key : α) : Bool :=
  (map.get? key).isSome

/-- Insert an entry; a key that is already present keeps its position. -/
def insert (map : OrderedMap α β) (key : α) (value : β) : OrderedMap α β where
  entries := put key value map.entries
  nodup_keys := nodup_put key value map.nodup_keys

/-- Insert entries one after the other. -/
def insertAll (map : OrderedMap α β) (entries : List (α × β)) : OrderedMap α β :=
  entries.foldl (fun current entry => current.insert entry.1 entry.2) map

/-- The map that inserting the given entries one after the other builds. -/
def ofList (entries : List (α × β)) : OrderedMap α β :=
  empty.insertAll entries

/-- Inserting entries with new and pairwise different keys adds them in their order. -/
theorem entries_insertAll {map : OrderedMap α β} {entries : List (α × β)}
    (distinct : ((map.entries ++ entries).map Prod.fst).Nodup) :
    (map.insertAll entries).entries = map.entries ++ entries := by
  induction entries generalizing map with
  | nil => simp [insertAll]
  | cons entry rest ih =>
      have absent : entry.1 ∉ map.entries.map Prod.fst := by
        rw [List.map_append, List.nodup_append] at distinct
        exact fun inside => distinct.2.2 entry.1 inside entry.1 (by simp) rfl
      have added : (map.insert entry.1 entry.2).entries = map.entries ++ [entry] :=
        put_of_not_mem absent entry.2
      rw [List.append_cons, ← added] at distinct ⊢
      exact ih distinct

/-- The entries of a map build the map. -/
theorem ofList_entries (map : OrderedMap α β) : ofList map.entries = map :=
  eq_of_entries (entries_insertAll map.nodup_keys)

/-- Drop the entry of a key; the others keep their order. -/
def erase (map : OrderedMap α β) (key : α) : OrderedMap α β where
  entries := map.entries.filter fun entry => decide (entry.1 ≠ key)
  nodup_keys := map.nodup_keys.sublist (List.filter_sublist.map Prod.fst)

theorem find?_put_self (key : α) (value : β) (entries : List (α × β)) :
    find? key (put key value entries) = some value := by
  induction entries with
  | nil => simp [put, find?]
  | cons entry rest ih =>
      obtain ⟨other, old⟩ := entry
      by_cases same : other = key <;> simp [put, find?, same, ih]

theorem find?_put_of_ne {key other : α} (different : other ≠ key) (value : β)
    (entries : List (α × β)) :
    find? other (put key value entries) = find? other entries := by
  induction entries with
  | nil => simp [put, find?, different.symm]
  | cons entry rest ih =>
      obtain ⟨first, old⟩ := entry
      by_cases same : first = key
      · subst same
        simp [put, find?, different.symm]
      · simp only [put, if_neg same, find?, ih]

/-- An inserted value is found under its key. -/
@[simp] theorem get?_insert_self (map : OrderedMap α β) (key : α) (value : β) :
    (map.insert key value).get? key = some value :=
  find?_put_self key value map.entries

/-- An insertion leaves the values of the other keys alone. -/
theorem get?_insert_of_ne (map : OrderedMap α β) {key other : α} (different : other ≠ key)
    (value : β) : (map.insert key value).get? other = map.get? other :=
  find?_put_of_ne different value map.entries

/-- An insertion adds its key at the end unless the key is already there. -/
theorem keys_insert (map : OrderedMap α β) (key : α) (value : β) :
    (map.insert key value).keys = if key ∈ map.keys then map.keys else map.keys ++ [key] :=
  map_fst_put key value map.entries

/-- A key has the value of its entry. -/
theorem get?_eq_some_iff (map : OrderedMap α β) {key : α} {value : β} :
    map.get? key = some value ↔ (key, value) ∈ map.entries := by
  obtain ⟨entries, distinct⟩ := map
  simp only [get?]
  induction entries with
  | nil => simp [find?]
  | cons entry rest ih =>
      obtain ⟨other, old⟩ := entry
      rw [List.map_cons, List.nodup_cons] at distinct
      by_cases same : other = key
      · subst same
        have absent : (other, value) ∉ rest :=
          fun inside => distinct.1 (List.mem_map.2 ⟨_, inside, rfl⟩)
        simp [find?, absent, eq_comm]
      · simp [find?, same, Ne.symm same, ih distinct.2]

/-- A key has a value exactly if it is one of the keys. -/
theorem isSome_get?_iff {map : OrderedMap α β} {key : α} :
    (map.get? key).isSome ↔ key ∈ map.keys := by
  simp only [Option.isSome_iff_exists, get?_eq_some_iff, keys, List.mem_map, Prod.exists,
    exists_and_right, exists_eq_right]

/-- An insertion replaces the value of its key where the key stands. -/
theorem entries_insert_of_split {map : OrderedMap α β} {key : α} {old : β}
    {before after : List (α × β)} (split : map.entries = before ++ (key, old) :: after)
    (value : β) : (map.insert key value).entries = before ++ (key, value) :: after := by
  have absent : key ∉ before.map Prod.fst := by
    have distinct := map.nodup_keys
    rw [split, List.map_append, List.nodup_append] at distinct
    exact fun inside => distinct.2.2 key inside key List.mem_cons_self rfl
  change put key value map.entries = _
  rw [split, put_append_of_not_mem absent, put, if_pos rfl]

/-- An insertion of a new key adds its entry at the end. -/
theorem entries_insert_of_not_mem (map : OrderedMap α β) {key : α} (absent : key ∉ map.keys)
    (value : β) : (map.insert key value).entries = map.entries ++ [(key, value)] :=
  put_of_not_mem absent value

theorem find?_filter_of_ne {key other : α} (different : other ≠ key) (entries : List (α × β)) :
    find? other (entries.filter fun entry => decide (entry.1 ≠ key)) = find? other entries := by
  induction entries with
  | nil => rfl
  | cons entry rest ih =>
      obtain ⟨first, value⟩ := entry
      by_cases dropped : first = key
      · rw [List.filter_cons_of_neg (by simpa using dropped), ih, find?,
          if_neg (dropped ▸ different.symm)]
      · rw [List.filter_cons_of_pos (by simpa using dropped), find?, find?, ih]

theorem put_filter_of_ne {key other : α} (different : other ≠ key) (value : β)
    (entries : List (α × β)) :
    put other value (entries.filter fun entry => decide (entry.1 ≠ key)) =
      (put other value entries).filter fun entry => decide (entry.1 ≠ key) := by
  induction entries with
  | nil => simp [put, different]
  | cons entry rest ih =>
      obtain ⟨first, old⟩ := entry
      by_cases dropped : first = key
      · rw [List.filter_cons_of_neg (by simpa using dropped), ih, put,
          if_neg (dropped ▸ different.symm), List.filter_cons_of_neg (by simpa using dropped)]
      · rw [List.filter_cons_of_pos (by simpa using dropped), put, put]
        split
        · rw [List.filter_cons_of_pos (by simpa using different)]
        · rw [List.filter_cons_of_pos (by simpa using dropped), ih]

/-- The other keys keep their values when an entry is dropped. -/
theorem get?_erase_of_ne (map : OrderedMap α β) {key other : α} (different : other ≠ key) :
    (map.erase key).get? other = map.get? other :=
  find?_filter_of_ne different map.entries

/-- An entry can be dropped before or after another one is inserted. -/
theorem erase_insert_of_ne (map : OrderedMap α β) {key other : α} (different : other ≠ key)
    (value : β) : (map.erase key).insert other value = (map.insert other value).erase key :=
  eq_of_entries (put_filter_of_ne different value map.entries)

end OrderedMap

end CriteriaQuery
