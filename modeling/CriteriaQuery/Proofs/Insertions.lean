import Mathlib.Data.List.Induction
import CriteriaQuery.OrderedMap

/-!
# Inserting entries one after the other

A map that is built by insertions has the keys of all inserted entries, each once, and under each
of them the value that was inserted last.

One insertion changes the number of entries, and any sum over them, by the entry of its key alone.
A search through the values does not depend on their order as long as one key can end it.
-/

namespace CriteriaQuery.OrderedMap

variable {α β : Type} [DecidableEq α]

/-- Of inserted entries the last with a key is found; without one the value that was there. -/
theorem get?_insertAll (map : OrderedMap α β) (entries : List (α × β)) (key : α) :
    (map.insertAll entries).get? key =
      ((entries.filter (·.1 == key)).getLast?.map Prod.snd).or (map.get? key) := by
  induction entries using List.reverseRecOn with
  | nil => rfl
  | append_singleton entries last ih =>
      have step : map.insertAll (entries ++ [last]) =
          (map.insertAll entries).insert last.1 last.2 := List.foldl_append
      rw [step, List.filter_append]
      by_cases same : last.1 = key
      · rw [same, get?_insert_self]
        simp [same]
      · rw [get?_insert_of_ne _ (Ne.symm same), ih]
        simp [same]

/-- Insertions add their keys and no others. -/
theorem mem_keys_insertAll {map : OrderedMap α β} {entries : List (α × β)} {key : α} :
    key ∈ (map.insertAll entries).keys ↔ key ∈ map.keys ∨ key ∈ entries.map Prod.fst := by
  induction entries generalizing map with
  | nil => simp [insertAll]
  | cons entry rest ih =>
      apply ih.trans
      rw [keys_insert, List.map_cons, List.mem_cons]
      split
      · next present => grind
      · grind

/-- The keys of a map of entries are those of the entries. -/
theorem mem_keys_ofList {entries : List (α × β)} {key : α} :
    key ∈ (ofList entries).keys ↔ key ∈ entries.map Prod.fst := by
  rw [ofList, mem_keys_insertAll]
  exact or_iff_right (List.not_mem_nil)

/-- An insertion adds an entry unless its key is there. -/
theorem size_insert (map : OrderedMap α β) (key : α) (value : β) :
    (map.insert key value).size =
      if (map.get? key).isSome then map.size else map.size + 1 := by
  have lengths := congrArg List.length (map.keys_insert key value)
  rw [keys, List.length_map] at lengths
  by_cases present : key ∈ map.keys
  · rw [if_pos present, keys, List.length_map] at lengths
    rw [if_pos (isSome_get?_iff.2 present)]
    exact lengths
  · rw [if_neg present, List.length_append, keys, List.length_map] at lengths
    rw [if_neg (mt isSome_get?_iff.1 present)]
    exact lengths

/-- An insertion exchanges the weight of the value that was under its key for that of the new
one. -/
theorem total_insert (map : OrderedMap α β) (key : α) (value : β) (weight : β → Nat) :
    (map.insert key value).total weight + ((map.get? key).map weight).getD 0 =
      map.total weight + weight value := by
  obtain ⟨entries, distinct⟩ := map
  simp only [total, values, insert, get?]
  clear distinct
  induction entries with
  | nil => simp [put, find?]
  | cons entry rest ih =>
      obtain ⟨other, old⟩ := entry
      by_cases same : other = key
      · simp [put, find?, same]
        omega
      · simp [put, find?, same]
        omega

/-- A search that only the value of one key can end gives what this value gives, whatever the
order in which the entries are searched. -/
theorem findSome?_of_lone {γ : Type} {map : OrderedMap α β} {order : List (α × β)}
    (permuted : order.Perm map.entries) {key : α} {search : β → Option γ}
    (lone : ∀ other value, map.get? other = some value → (search value).isSome → other = key) :
    order.findSome? (fun entry => search entry.2) = (map.get? key).bind search := by
  cases searched : order.findSome? fun entry => search entry.2 with
  | none =>
      cases found : map.get? key with
      | none => rfl
      | some value =>
          have inside := permuted.mem_iff.2 ((get?_eq_some_iff map).1 found)
          exact (List.findSome?_eq_none_iff.1 searched _ inside).symm
  | some result =>
      obtain ⟨⟨other, value⟩, inside, result_eq⟩ := List.exists_of_findSome?_eq_some searched
      have found := (get?_eq_some_iff map).2 (permuted.mem_iff.1 inside)
      have same := lone other value found (Option.isSome_of_eq_some result_eq)
      subst same
      rw [found, Option.bind_some, result_eq]

end CriteriaQuery.OrderedMap
