import Mathlib.Data.List.Induction
import CriteriaQuery.Proofs.JoinAliases
import CriteriaQuery.Query.Rendering

/-!
# What is left without duplicates

Of the selections of a query those are left whose text occurs for the first time.  Of its
joins the first group is left, and in it those joins whose alias occurs for the first time.
Which items are the first with their keys is said here place by place, without going through
the items one after the other.

What is dropped is counted, and nothing but selections and joins changes.  Where all joins
hang under one root and have names as targets and aliases, no alias is lost, so the
selections that are left mean what they meant before.
-/

namespace CriteriaQuery

section FirstOccurrences

variable {α κ : Type} [DecidableEq κ] (key : α → κ)

/-- The items at the places before which no item has the same key. -/
def firstOccurrences (items : List α) : List α :=
  (items.zipIdx.filter fun place => key place.1 ∉ (items.take place.2).map key).map Prod.fst

theorem firstOccurrences_append_singleton (items : List α) (last : α) :
    firstOccurrences key (items ++ [last]) =
      firstOccurrences key items ++ if key last ∈ items.map key then [] else [last] := by
  have same : (items.zipIdx.filter fun place =>
        key place.1 ∉ ((items ++ [last]).take place.2).map key) =
      items.zipIdx.filter fun place => key place.1 ∉ (items.take place.2).map key := by
    apply List.filter_congr
    intro place inside
    have within : place.2 ≤ items.length := by
      have bound := List.snd_lt_of_mem_zipIdx inside
      omega
    rw [List.take_append_of_le_length within]
  rw [firstOccurrences, List.zipIdx_append, List.filter_append, same, List.map_append,
    firstOccurrences]
  congr 1
  by_cases repeated : key last ∈ items.map key
  · simp [repeated]
  · simp [repeated]

/-- Dropping repeats from left to right leaves the first occurrences. -/
theorem distinctBy_eq_firstOccurrences (items : List α) :
    distinctBy key [] items = firstOccurrences key items := by
  induction items using List.reverseRecOn with
  | nil => rfl
  | append_singleton items last ih =>
      rw [distinctBy_append, firstOccurrences_append_singleton, ih, List.append_nil]
      rfl

/-- A key that was not seen is left on the item that had it first. -/
theorem find?_distinctBy {seen : List κ} {known : κ} (fresh : known ∉ seen) (items : List α) :
    (distinctBy key seen items).find? (key · == known) = items.find? (key · == known) := by
  induction items generalizing seen with
  | nil => rfl
  | cons item rest ih =>
      rw [distinctBy]
      split
      · next isSeen =>
          have other : key item ≠ known := fun same => fresh (same ▸ isSeen)
          rw [ih fresh, List.find?_cons_of_neg (by simpa using other)]
      · by_cases same : key item = known
        · rw [List.find?_cons_of_pos (by simpa using same),
            List.find?_cons_of_pos (by simpa using same)]
        · have freshToo : known ∉ key item :: seen := by
            intro inside
            exact (List.mem_cons.1 inside).elim (fun equal => same equal.symm) fresh
          rw [List.find?_cons_of_neg (by simpa using same), ih freshToo,
            List.find?_cons_of_neg (by simpa using same)]

end FirstOccurrences

theorem Join.IsReadable.key_eq {join : Join} (readable : join.IsReadable) :
    join.key = .ok join.readAlias := by
  obtain ⟨keyed, read⟩ := Join.isReadable_iff.1 readable
  obtain ⟨key, found, same⟩ := Except.map_eq_ok read
  rw [Join.keyed_eq_ok read] at same
  rw [found, (Prod.mk.inj same).1]

/-- A join with names as target and alias is recognised by its alias. -/
theorem Join.readAlias_eq_joinAlias {join : Join} (isTarget : IsName join.target.toList)
    (isAlias : IsName join.joinAlias.toList) : join.readAlias = join.joinAlias := by
  have key := join.key_eq_joinAlias isTarget isAlias
  have read := IsReadable.key_eq ⟨_, key⟩
  rw [key] at read
  exact (Except.ok.inj read).symm

namespace Query

/-- What is left of a query when its duplicates are dropped. -/
structure LeavesFirst (query last : Query) : Prop where
  selections : last.selections = firstOccurrences id query.selections
  noGroup : query.joins.entries = [] → last.joins.entries = []
  firstGroup : ∀ root joins others, query.joins.entries = (root, joins) :: others →
    last.joins.entries = [(root, firstOccurrences Join.readAlias joins)]
  /-- Every alias of the first group is left once, on the join that had it first. -/
  aliases : ∀ root joins others, query.joins.entries = (root, joins) :: others →
    ∃ kept, last.joins.entries = [(root, kept)] ∧ kept.Sublist joins ∧
      (kept.map Join.readAlias).Nodup ∧
      ∀ name, kept.find? (·.readAlias == name) = joins.find? (·.readAlias == name)
  /-- Nothing but selections and joins changes. -/
  frame : last = { query with selections := last.selections, joins := last.joins }

/-- The group that is left of groups with joins. -/
theorem entries_distinct {query : Query} (nonempty : GroupsNonempty query.joins) {root : String}
    {joins : List Join} {others : List (String × List Join)}
    (groups : query.joins.entries = (root, joins) :: others) :
    query.distinct.joins.entries = [(root, distinctBy Join.readAlias [] joins)] := by
  have inFirst : joins ≠ [] := nonempty (root, joins) (by rw [groups]; exact List.mem_cons_self)
  simp only [distinct, groups, List.head?_cons]
  cases joins with
  | nil => exact absurd rfl inFirst
  | cons first rest => rfl

theorem leavesFirst_distinct {query : Query} (nonempty : GroupsNonempty query.joins) :
    query.LeavesFirst query.distinct where
  selections := distinctBy_eq_firstOccurrences id query.selections
  noGroup none := by
    simp only [distinct, none]
    rfl
  firstGroup root joins others groups := by
    rw [entries_distinct nonempty groups, distinctBy_eq_firstOccurrences]
  aliases root joins others groups :=
    ⟨_, entries_distinct nonempty groups, distinctBy_sublist _ _ _, nodup_distinctBy _ _ _,
      fun _ => find?_distinctBy _ List.not_mem_nil joins⟩
  frame := rfl

/-- The joins of the first group. -/
def firstJoins (query : Query) : List Join :=
  (query.joins.entries.head?.map Prod.snd).getD []

theorem firstJoins_sublist (query : Query) : query.firstJoins.Sublist query.allJoins := by
  rw [firstJoins, allJoins, OrderedMap.values]
  cases query.joins.entries with
  | nil => exact List.Sublist.slnil
  | cons group others => exact List.sublist_append_left group.2 _

/-- Under a single root the first group has all joins. -/
theorem firstJoins_eq_allJoins {query : Query} (oneRoot : query.joins.entries.length ≤ 1) :
    query.firstJoins = query.allJoins := by
  rw [firstJoins, allJoins, OrderedMap.values]
  cases entries : query.joins.entries with
  | nil => rfl
  | cons group others =>
      rw [entries, List.length_cons] at oneRoot
      have alone : others = [] := List.length_eq_zero_iff.1 (by omega)
      rw [alone]
      exact (List.append_nil group.2).symm

/-- The joins that are left are those of the first group without repeated aliases. -/
theorem allJoins_distinct (query : Query) :
    query.distinct.allJoins = distinctBy Join.readAlias [] query.firstJoins := by
  simp only [allJoins, OrderedMap.values, distinct, firstJoins]
  cases query.joins.entries.head? with
  | none => rfl
  | some group =>
      obtain ⟨root, joins⟩ := group
      simp only [keptGroup, Option.map_some, Option.getD_some]
      split
      · next none => exact none.symm
      · next first rest some => exact (List.append_nil _).trans some.symm

/-- The joins that are left are a part of the joins of a query, in their order. -/
theorem allJoins_distinct_sublist (query : Query) :
    query.distinct.allJoins.Sublist query.allJoins := by
  rw [allJoins_distinct]
  exact (distinctBy_sublist _ _ _).trans query.firstJoins_sublist

/-- What is left and what is dropped add up, and what is dropped is reported. -/
theorem events_dropDuplicates {query last : Query}
    (dropped : (dropDuplicates query).result = .ok last) :
    ∃ joins selections, query.count .joins = last.count .joins + joins ∧
      query.count .selections = last.count .selections + selections ∧
      (dropDuplicates query).events =
        if 0 < joins ∨ 0 < selections then [.duplicatesRemoved joins selections] else [] := by
  rw [result_dropDuplicates] at dropped
  have joinsLeft : last.count .joins ≤ query.count .joins := by
    rw [(deduplicated_eq_ok_iff.1 dropped).2]
    exact (allJoins_distinct_sublist query).length_le
  have selectionsLeft : last.count .selections ≤ query.count .selections := by
    rw [(deduplicated_eq_ok_iff.1 dropped).2]
    exact (distinctBy_sublist id [] query.selections).length_le
  refine ⟨query.count .joins - last.count .joins, query.count .selections - last.count .selections,
    by omega, by omega, ?_⟩
  simp only [dropDuplicates, dropped, duplicateEvents]

section OneRoot

variable {query : Query} (oneRoot : query.joins.entries.length ≤ 1)
  (named : ∀ join ∈ query.allJoins,
    Join.IsName join.target.toList ∧ Join.IsName join.joinAlias.toList)

include oneRoot named

/-- Under a single root no alias is lost. -/
theorem mem_aliases_distinct {name : String} :
    name ∈ query.distinct.aliases ↔ name ∈ query.aliases := by
  have read : ∀ join ∈ query.allJoins, join.joinAlias = join.readAlias := by
    intro join member
    obtain ⟨isTarget, isAlias⟩ := named join member
    exact (Join.readAlias_eq_joinAlias isTarget isAlias).symm
  have left : query.distinct.allJoins.map Join.joinAlias =
      query.distinct.allJoins.map Join.readAlias :=
    List.map_congr_left fun join kept => read join (query.allJoins_distinct_sublist.mem kept)
  rw [aliases, aliases, left, List.map_congr_left read, List.mem_cons, List.mem_cons,
    allJoins_distinct, mem_map_distinctBy, firstJoins_eq_allJoins oneRoot]
  simp [distinct]

/-- Under a single root the selections mean what they meant before. -/
theorem selectionSymbols_distinct (text : String) :
    selectionSymbols query.distinct.aliases text = selectionSymbols query.aliases text := by
  simp only [selectionSymbols, mem_aliases_distinct oneRoot named]

end OneRoot

/-- What dropping the duplicates of a query leaves, whenever it succeeds.

All joins could be read, by the aliases that their texts give.  The selections that are left
are the first with their texts, the joins that are left are those of the first group that are
the first with their aliases, and nothing else has changed.  What is left and what is dropped
add up, and what is dropped is reported.

Where all joins hang under one root and have names as targets and aliases, the query knows
the aliases that it knew before, so each selection that is left stands for the columns of an
alias, or does not, as it did before. -/
theorem dropDuplicates_leaves_first {query last : Query} (constructed : query.Constructed)
    (dropped : (dropDuplicates query).result = .ok last) :
    (∀ join ∈ query.allJoins, join.key = .ok join.readAlias) ∧
    query.LeavesFirst last ∧
    (∃ joins selections, query.count .joins = last.count .joins + joins ∧
      query.count .selections = last.count .selections + selections ∧
      (dropDuplicates query).events =
        if 0 < joins ∨ 0 < selections then [.duplicatesRemoved joins selections] else []) ∧
    (query.joins.entries.length ≤ 1 →
      (∀ join ∈ query.allJoins,
        Join.IsName join.target.toList ∧ Join.IsName join.joinAlias.toList) →
      (∀ name, name ∈ last.aliases ↔ name ∈ query.aliases) ∧
        ∀ text ∈ last.selections,
          selectionSymbols last.aliases text = selectionSymbols query.aliases text) := by
  have nonempty := constructed.groupsNonempty
  have counted := events_dropDuplicates dropped
  rw [result_dropDuplicates] at dropped
  obtain ⟨readable, rfl⟩ := deduplicated_eq_ok_iff.1 dropped
  refine ⟨?_, leavesFirst_distinct nonempty, counted, ?_⟩
  · intro join member
    exact (readable join member).key_eq
  · intro oneRoot named
    constructor
    · intro name
      exact mem_aliases_distinct oneRoot named
    · intro text left
      exact selectionSymbols_distinct oneRoot named text

/-- Users with their teams, which are joined and selected twice, and their profiles. -/
def teamsAndProfiles : Query :=
  (ofTable "users" "u").addAll [
    .join "u" (leftJoin "teams" "t" "t.id = u.team"), .selection "t",
    .join "u" (leftJoin "teams" "t" "t.id = u.second_team"), .selection "t",
    .join "u" (leftJoin "profiles" "p" "p.user_id = u.id"), .condition "t.id > 0"]

theorem dropDuplicates_leaves_first_teamsAndProfiles :
    ∃ last, teamsAndProfiles.Constructed ∧
      (dropDuplicates teamsAndProfiles).result = .ok last ∧
      teamsAndProfiles.LeavesFirst last ∧
      last.selections = ["u", "t"] ∧
      last.joins.entries =
        [("u", [leftJoin "teams" "t" "t.id = u.team",
          leftJoin "profiles" "p" "p.user_id = u.id"])] ∧
      (dropDuplicates teamsAndProfiles).events = [.duplicatesRemoved 1 1] ∧
      (∀ name, name ∈ last.aliases ↔ name ∈ teamsAndProfiles.aliases) ∧
      selectionSymbols last.aliases "t" = selectionSymbols teamsAndProfiles.aliases "t" := by
  have constructed : teamsAndProfiles.Constructed := (Constructed.ofTable "users" "u").addAll _
  have dropped : (dropDuplicates teamsAndProfiles).result = .ok teamsAndProfiles.distinct := by
    rfl
  have oneRoot : teamsAndProfiles.joins.entries.length ≤ 1 := by decide
  have joins : teamsAndProfiles.allJoins =
      [leftJoin "teams" "t" "t.id = u.team", leftJoin "teams" "t" "t.id = u.second_team",
        leftJoin "profiles" "p" "p.user_id = u.id"] := rfl
  have named : ∀ join ∈ teamsAndProfiles.allJoins,
      Join.IsName join.target.toList ∧ Join.IsName join.joinAlias.toList := by
    rw [joins]
    decide
  obtain ⟨-, leaves, -, known⟩ := dropDuplicates_leaves_first constructed dropped
  obtain ⟨aliases, meant⟩ := known oneRoot named
  have selections : teamsAndProfiles.distinct.selections = ["u", "t"] := rfl
  have selected : "t" ∈ teamsAndProfiles.distinct.selections := by simp [selections]
  exact ⟨_, constructed, dropped, leaves, selections, rfl, rfl, aliases, meant "t" selected⟩

end Query

end CriteriaQuery
