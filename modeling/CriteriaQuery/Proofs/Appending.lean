import CriteriaQuery.Proofs.Additive

/-!
# Appended fragments, part by part

Appending fragments is appending to each part of the query what belongs to it.  Fragments
of different parts can therefore be appended in any order, and fragments that only select
and join leave everything else as it is.

The groups of joins keep the order of their first joins.  The group at the head stays at
the head, and of the joins that are appended it gets those under its own root.
-/

namespace CriteriaQuery

namespace Fragment

/-- The text of a selection. -/
def selection? : Fragment → Option String
  | .selection text => some text
  | _ => none

/-- A join with the root that it hangs under. -/
def join? : Fragment → Option (String × Join)
  | .join root joined => some (root, joined)
  | _ => none

/-- The text of a condition. -/
def condition? : Fragment → Option String
  | .condition text => some text
  | _ => none

/-- A sort key. -/
def ordering? : Fragment → Option SortKey
  | .ordering key => some key
  | _ => none

end Fragment

namespace Query

/-- Append joins, each to the group of its root. -/
def appendJoins (joins : OrderedMap String (List Join)) (more : List (String × Join)) :
    OrderedMap String (List Join) :=
  more.foldl (fun current join => appendJoin current join.1 join.2) joins

/-- Every part gets the fragments that belong to it, in order. -/
theorem addAll_eq (query : Query) (fragments : List Fragment) :
    query.addAll fragments =
      { query with
        selections := query.selections ++ fragments.filterMap Fragment.selection?
        joins := appendJoins query.joins (fragments.filterMap Fragment.join?)
        conditions := query.conditions ++ fragments.filterMap Fragment.condition?
        orderings := query.orderings ++ fragments.filterMap Fragment.ordering? } := by
  induction fragments generalizing query with
  | nil => simp [addAll, appendJoins]
  | cons fragment rest ih =>
      have step : query.addAll (fragment :: rest) = (query.add fragment).addAll rest := rfl
      rw [step, ih]
      cases fragment with
      | selection text => simp [add, List.filterMap_cons, Fragment.selection?, Fragment.join?,
          Fragment.condition?, Fragment.ordering?]
      | join root join => simp [add, List.filterMap_cons, Fragment.selection?, Fragment.join?,
          Fragment.condition?, Fragment.ordering?, appendJoins]
      | condition text => simp [add, List.filterMap_cons, Fragment.selection?, Fragment.join?,
          Fragment.condition?, Fragment.ordering?]
      | ordering key => simp [add, List.filterMap_cons, Fragment.selection?, Fragment.join?,
          Fragment.condition?, Fragment.ordering?]

theorem addAll_append (query : Query) (first second : List Fragment) :
    query.addAll (first ++ second) = (query.addAll first).addAll second :=
  List.foldl_append

/-- Fragments that items expand to are appended item by item. -/
theorem addAll_flatMap {α : Type} (query : Query) (image : α → List Fragment) (items : List α) :
    query.addAll (items.flatMap image) =
      items.foldl (fun current item => current.addAll (image item)) query :=
  List.foldl_flatMap

/-- Selections and joins leave everything else as it is. -/
theorem addAll_sources (query : Query) {fragments : List Fragment}
    (sources : ∀ fragment ∈ fragments, fragment.part ∈ [QueryPart.selections, .joins]) :
    query.addAll fragments =
      { query with
        selections := query.selections ++ fragments.filterMap Fragment.selection?
        joins := appendJoins query.joins (fragments.filterMap Fragment.join?) } := by
  have conditions : fragments.filterMap Fragment.condition? = [] := by
    apply List.filterMap_eq_nil_iff.2
    intro fragment inside
    have part := sources fragment inside
    cases fragment with
    | condition text => simp [Fragment.part] at part
    | selection | join | ordering => rfl
  have orderings : fragments.filterMap Fragment.ordering? = [] := by
    apply List.filterMap_eq_nil_iff.2
    intro fragment inside
    have part := sources fragment inside
    cases fragment with
    | ordering key => simp [Fragment.part] at part
    | selection | join | condition => rfl
  rw [addAll_eq, conditions, orderings, List.append_nil, List.append_nil]

/-- Fragments of different parts can change places. -/
theorem add_comm (query : Query) {first second : Fragment} (different : first.part ≠ second.part) :
    (query.add first).add second = (query.add second).add first := by
  cases first with
  | selection text =>
      cases second with
      | selection other => exact absurd rfl different
      | join | condition | ordering => rfl
  | join root join =>
      cases second with
      | join otherRoot other => exact absurd rfl different
      | selection | condition | ordering => rfl
  | condition text =>
      cases second with
      | condition other => exact absurd rfl different
      | selection | join | ordering => rfl
  | ordering key =>
      cases second with
      | ordering other => exact absurd rfl different
      | selection | join | condition => rfl

theorem addAll_add (query : Query) {fragment : Fragment} {fragments : List Fragment}
    (different : ∀ other ∈ fragments, other.part ≠ fragment.part) :
    (query.addAll fragments).add fragment = (query.add fragment).addAll fragments := by
  induction fragments generalizing query with
  | nil => rfl
  | cons other rest ih =>
      have swap := query.add_comm (different other List.mem_cons_self)
      have behind := ih (query.add other) fun later inside =>
        different later (List.mem_cons_of_mem _ inside)
      exact behind.trans (congrArg (addAll · rest) swap)

/-- Lists of fragments of different parts can change places. -/
theorem addAll_comm (query : Query) {first second : List Fragment}
    (different : ∀ left ∈ first, ∀ right ∈ second, left.part ≠ right.part) :
    (query.addAll first).addAll second = (query.addAll second).addAll first := by
  induction second generalizing query with
  | nil => rfl
  | cons fragment rest ih =>
      have swap : (query.addAll first).add fragment = (query.add fragment).addAll first := by
        apply query.addAll_add
        intro left inside
        exact different left inside fragment List.mem_cons_self
      have behind := ih (query.add fragment) fun left inside right later =>
        different left inside right (List.mem_cons_of_mem _ later)
      exact (congrArg (addAll · rest) swap).trans behind

/-- The joins of a query with appended fragments are its own and the appended ones. -/
theorem mem_allJoins_addAll {query : Query} {fragments : List Fragment} {join : Join} :
    join ∈ (query.addAll fragments).allJoins ↔
      join ∈ query.allJoins ∨ ∃ root, Fragment.join root join ∈ fragments := by
  have appended (root : String) (added : Join) (entries : List (String × List Join)) :
      join ∈ ((OrderedMap.put root ((OrderedMap.find? root entries).getD [] ++ [added])
          entries).map Prod.snd).flatten ↔
        join ∈ (entries.map Prod.snd).flatten ∨ join = added := by
    induction entries with
    | nil => simp [OrderedMap.put, OrderedMap.find?]
    | cons entry rest ih =>
        by_cases same : entry.1 = root
        · simp only [OrderedMap.put, OrderedMap.find?, if_pos same, Option.getD_some,
            List.map_cons, List.flatten_cons, List.mem_append, List.mem_singleton]
          exact or_right_comm
        · simp only [OrderedMap.put, OrderedMap.find?, if_neg same, List.map_cons,
            List.flatten_cons, List.mem_append, ih, or_assoc]
  have step (query : Query) (fragment : Fragment) :
      join ∈ (query.add fragment).allJoins ↔
        join ∈ query.allJoins ∨ ∃ root, fragment = .join root join := by
    cases fragment with
    | selection | condition | ordering => simp [add, allJoins]
    | join root added =>
        apply (appended root added query.joins.entries).trans
        apply or_congr Iff.rfl
        constructor
        · rintro rfl
          exact ⟨root, rfl⟩
        · rintro ⟨_, same⟩
          cases same
          rfl
  induction fragments generalizing query with
  | nil => simp [addAll]
  | cons fragment rest ih =>
      apply ih.trans
      rw [step, or_assoc, ← exists_or]
      simp only [List.mem_cons, eq_comm]

/-- The joins under a root. -/
def joinsUnder (root : String) (joins : List (String × Join)) : List Join :=
  joins.filterMap fun join => if join.1 = root then some join.2 else none

/-- The group at the head of a map stays there, and a join under its root is added to it. -/
theorem head?_appendJoin {joins : OrderedMap String (List Join)} {first : String}
    {group : List Join} (head : joins.entries.head? = some (first, group)) (root : String)
    (join : Join) :
    (appendJoin joins root join).entries.head? =
      some (first, group ++ joinsUnder first [(root, join)]) := by
  rcases joins with ⟨_ | ⟨entry, rest⟩, distinct⟩
  · cases head
  · cases head
    by_cases same : first = root
    · simp [appendJoin, OrderedMap.insert, OrderedMap.get?, OrderedMap.put, OrderedMap.find?,
        joinsUnder, same]
    · have other : root ≠ first := fun equal => same equal.symm
      simp [appendJoin, OrderedMap.insert, OrderedMap.put, joinsUnder, same, other]

theorem head?_appendJoins {joins : OrderedMap String (List Join)} {first : String}
    {group : List Join} (head : joins.entries.head? = some (first, group))
    (more : List (String × Join)) :
    (appendJoins joins more).entries.head? = some (first, group ++ joinsUnder first more) := by
  induction more generalizing joins group with
  | nil => simpa [appendJoins, joinsUnder] using head
  | cons join rest ih =>
      have split : joinsUnder first (join :: rest) =
          joinsUnder first [join] ++ joinsUnder first rest :=
        List.filterMap_append (l := [join])
      rw [split, ← List.append_assoc]
      exact ih (head?_appendJoin head join.1 join.2)

/-- Without groups the first join that is appended decides which group is at the head. -/
theorem head?_appendJoins_of_none {joins : OrderedMap String (List Join)}
    (empty : joins.entries.head? = none) (more : List (String × Join)) :
    (appendJoins joins more).entries.head? =
      more.head?.map fun join => (join.1, joinsUnder join.1 more) := by
  cases more with
  | nil => exact empty
  | cons join rest =>
      have started : (appendJoin joins join.1 join.2).entries.head? =
          some (join.1, [join.2]) := by
        have none : joins.entries = [] := List.head?_eq_none_iff.1 empty
        simp [appendJoin, OrderedMap.insert, OrderedMap.get?, OrderedMap.put, OrderedMap.find?,
          none]
      have grown := head?_appendJoins started rest
      apply grown.trans
      simp [joinsUnder]

end Query

end CriteriaQuery
