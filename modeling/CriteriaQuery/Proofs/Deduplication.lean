import CriteriaQuery.Proofs.Appending
import CriteriaQuery.Proofs.Repeats

/-!
# Dropping duplicates early or late

Duplicates can be dropped whenever the text of every join can be read.  What is left is
then given outright: the selections without repeated texts, and of the group of joins at
the head those without repeated aliases.

A query that is built by its operations has no group without joins, so its first group is
still the first one when the duplicates have been dropped.  Whatever is appended later is
therefore kept or dropped as if nothing had been dropped before.
-/

namespace CriteriaQuery

namespace Join

/-- Whether the alias of a join can be read back from its text. -/
def IsReadable (join : Join) : Prop :=
  ∃ key, join.key = .ok key

/-- The alias that is read back from the text of a join. -/
def readAlias (join : Join) : String :=
  ((aliasIn? join.text.toList).map String.ofList).getD ""

theorem keyed_eq_ok {join : Join} {keyed : String × Join} (read : join.keyed = .ok keyed) :
    keyed = (join.readAlias, join) := by
  rcases Except.map_eq_ok read with ⟨key, found, rfl⟩
  simp only [Join.key] at found
  cases word : aliasIn? join.text.toList with
  | none => simp [word] at found
  | some letters =>
      simp only [word, Except.ok.injEq] at found
      simp [readAlias, word, found]

theorem isReadable_iff {join : Join} : join.IsReadable ↔ ∃ keyed, join.keyed = .ok keyed := by
  constructor
  · rintro ⟨key, read⟩
    exact ⟨(key, join), congrArg (Except.map fun key => (key, join)) read⟩
  · rintro ⟨keyed, read⟩
    rcases Except.map_eq_ok read with ⟨key, found, -⟩
    exact ⟨key, found⟩

end Join

namespace Query

/-- Whether the aliases of all joins can be read back from their texts. -/
def IsReadable (query : Query) : Prop :=
  ∀ join ∈ query.allJoins, join.IsReadable

/-- What is kept of the group at the head.  A group without joins is no group. -/
def keptGroup : Option (String × List Join) → OrderedMap String (List Join)
  | none => .empty
  | some (root, joins) =>
      match distinctBy Join.readAlias [] joins with
      | [] => .empty
      | first :: rest => OrderedMap.empty.insert root (first :: rest)

/-- What is left of a query when its duplicates are dropped. -/
def distinct (query : Query) : Query :=
  { query with
    joins := keptGroup query.joins.entries.head?
    selections := distinctBy id [] query.selections }

theorem mem_allJoins {query : Query} {join : Join} :
    join ∈ query.allJoins ↔ ∃ group ∈ query.joins.entries, join ∈ group.2 := by
  simp only [allJoins, OrderedMap.values, List.mem_flatten, List.mem_map]
  constructor
  · rintro ⟨_, ⟨group, inside, rfl⟩, member⟩
    exact ⟨group, inside, member⟩
  · rintro ⟨group, inside, member⟩
    exact ⟨group.2, ⟨group, inside, rfl⟩, member⟩

/-- The first of some groups, with the aliases of all joins read back. -/
theorem firstGroup_map (groups : List (String × List Join)) :
    firstGroup (groups.map fun group =>
        (group.1, group.2.map fun join => (join.readAlias, join))) =
      keptGroup groups.head? := by
  cases groups with
  | nil => rfl
  | cons group others =>
      rcases group with ⟨root, joins⟩
      cases joins with
      | nil => rfl
      | cons first rest =>
          have kept := map_distinctBy_keyed Join.readAlias [] (first :: rest)
          change OrderedMap.empty.insert root ((distinctBy Prod.fst []
            ((first :: rest).map fun join => (join.readAlias, join))).map Prod.snd) = _
          rw [kept]
          rfl

/-- Where duplicates could be dropped every join can be read, and what is left is the
distinct query. -/
theorem eq_distinct_of_deduplicated {query last : Query}
    (dropped : query.deduplicated = .ok last) : query.IsReadable ∧ last = query.distinct := by
  rcases Except.bind_eq_ok dropped with ⟨groups, read, rest⟩
  cases rest
  constructor
  · intro join inside
    rcases mem_allJoins.1 inside with ⟨group, member, inGroup⟩
    rcases eq_ok_of_mapM read member with ⟨_, groupRead⟩
    rcases Except.map_eq_ok groupRead with ⟨_, joinsRead, -⟩
    exact Join.isReadable_iff.2 (eq_ok_of_mapM joinsRead inGroup)
  · have given : groups = query.joins.entries.map fun group =>
        (group.1, group.2.map fun join => (join.readAlias, join)) := by
      refine mapM_eq_ok (fun group result groupRead => ?_) read
      rcases Except.map_eq_ok groupRead with ⟨joins, joinsRead, rfl⟩
      rw [mapM_eq_ok (fun _ _ => Join.keyed_eq_ok) joinsRead]
    rw [given, firstGroup_map, distinct]

/-- Where every join can be read duplicates can be dropped. -/
theorem deduplicated_of_isReadable {query : Query} (readable : query.IsReadable) :
    ∃ last, query.deduplicated = .ok last := by
  have groupsRead : ∃ groups, (query.joins.entries.mapM fun group =>
      (group.2.mapM Join.keyed).map fun joins => (group.1, joins)) = .ok groups := by
    apply mapM_of_forall
    intro group member
    have joinsRead : ∃ joins, group.2.mapM Join.keyed = .ok joins := by
      apply mapM_of_forall
      intro join inGroup
      exact Join.isReadable_iff.1 (readable join (mem_allJoins.2 ⟨group, member, inGroup⟩))
    rcases joinsRead with ⟨joins, read⟩
    rw [read]
    exact ⟨_, rfl⟩
  rcases groupsRead with ⟨groups, read⟩
  simp only [deduplicated]
  rw [read]
  exact ⟨_, rfl⟩

/-- Duplicates can be dropped exactly if every join can be read. -/
theorem deduplicated_eq_ok_iff {query last : Query} :
    query.deduplicated = .ok last ↔ query.IsReadable ∧ last = query.distinct := by
  constructor
  · exact eq_distinct_of_deduplicated
  · rintro ⟨readable, rfl⟩
    rcases deduplicated_of_isReadable readable with ⟨last, dropped⟩
    rw [dropped, (eq_distinct_of_deduplicated dropped).2]

/-- A query that can be built by the operations of a query.  All operations are put together
from these. -/
inductive Constructed : Query → Prop where
  | ofTable (table rootAlias : String) : Constructed (.ofTable table rootAlias)
  | add {query : Query} (built : Constructed query) (fragment : Fragment) :
      Constructed (query.add fragment)
  | reset {query : Query} (built : Constructed query) (part : QueryPart) :
      Constructed (query.reset part)
  | setParameter {query : Query} (built : Constructed query) (name : String) (value : Value) :
      Constructed (query.setParameter name value)
  | setLimit {query : Query} (built : Constructed query) (limit : Option Int64) :
      Constructed (query.setLimit limit)
  | setOffset {query : Query} (built : Constructed query) (offset : Option Int64) :
      Constructed (query.setOffset offset)
  | dropDuplicates {query last : Query} (built : Constructed query)
      (dropped : (dropDuplicates query).result = .ok last) : Constructed last

theorem Constructed.addAll {query : Query} (constructed : query.Constructed)
    (fragments : List Fragment) : (query.addAll fragments).Constructed := by
  induction fragments generalizing query with
  | nil => exact constructed
  | cons fragment rest ih => exact ih (constructed.add fragment)

/-- Every group of joins has a join. -/
def GroupsNonempty (joins : OrderedMap String (List Join)) : Prop :=
  ∀ group ∈ joins.entries, group.2 ≠ []

theorem groupsNonempty_appendJoin {joins : OrderedMap String (List Join)}
    (nonempty : GroupsNonempty joins) (root : String) (join : Join) :
    GroupsNonempty (appendJoin joins root join) := by
  have put (group : List Join) (entries : List (String × List Join)) :
      ∀ entry ∈ OrderedMap.put root (group ++ [join]) entries,
        entry ∈ entries ∨ entry = (root, group ++ [join]) := by
    induction entries with
    | nil => simp [OrderedMap.put]
    | cons first rest ih =>
        intro entry inside
        simp only [OrderedMap.put] at inside
        split at inside <;> grind
  intro entry inside
  rcases put _ _ entry inside with old | rfl
  · exact nonempty entry old
  · simp

theorem groupsNonempty_keptGroup (head : Option (String × List Join)) :
    GroupsNonempty (keptGroup head) := by
  intro group inside
  rcases head with _ | ⟨root, joins⟩
  · cases inside
  · simp only [keptGroup] at inside
    split at inside
    · cases inside
    · rcases List.mem_singleton.1 inside with rfl
      simp

theorem Constructed.groupsNonempty {query : Query} (constructed : query.Constructed) :
    GroupsNonempty query.joins := by
  induction constructed with
  | ofTable table rootAlias =>
      intro group inside
      cases inside
  | add built fragment nonempty =>
      cases fragment with
      | join root join => exact groupsNonempty_appendJoin nonempty root join
      | selection | condition | ordering => exact nonempty
  | reset built part nonempty =>
      cases part with
      | joins =>
          intro group inside
          cases inside
      | selections | conditions | orderings => exact nonempty
  | setParameter built name value nonempty => exact nonempty
  | setLimit built limit nonempty => exact nonempty
  | setOffset built offset nonempty => exact nonempty
  | dropDuplicates built dropped nonempty =>
      rw [result_dropDuplicates] at dropped
      rcases deduplicated_eq_ok_iff.1 dropped with ⟨-, rfl⟩
      exact groupsNonempty_keptGroup _

/-- A group with joins stays the one at the head. -/
theorem head?_keptGroup (root : String) {joins : List Join} (nonempty : joins ≠ []) :
    (keptGroup (some (root, joins))).entries.head? =
      some (root, distinctBy Join.readAlias [] joins) := by
  cases joins with
  | nil => exact absurd rfl nonempty
  | cons first rest => rfl

/-- Appended fragments lead to the same distinct query whether or not the duplicates have
been dropped before. -/
theorem distinct_addAll_distinct {query : Query} (nonempty : GroupsNonempty query.joins)
    (fragments : List Fragment) :
    (query.distinct.addAll fragments).distinct = (query.addAll fragments).distinct := by
  have selections : distinctBy id [] (query.distinct.selections ++
        fragments.filterMap Fragment.selection?) =
      distinctBy id [] (query.selections ++ fragments.filterMap Fragment.selection?) :=
    distinctBy_distinctBy_append id _ _
  have joins (more : List (String × Join)) :
      keptGroup (appendJoins query.distinct.joins more).entries.head? =
        keptGroup (appendJoins query.joins more).entries.head? := by
    cases head : query.joins.entries.head? with
    | none =>
        have left : query.distinct.joins.entries.head? = none := by
          simp only [distinct, head]
          rfl
        rw [head?_appendJoins_of_none left, head?_appendJoins_of_none head]
    | some group =>
        rcases group with ⟨root, joins⟩
        have left : query.distinct.joins.entries.head? =
            some (root, distinctBy Join.readAlias [] joins) := by
          simp only [distinct, head]
          exact head?_keptGroup root (nonempty _ (List.mem_of_mem_head? head))
        rw [head?_appendJoins left, head?_appendJoins head]
        simp only [keptGroup, distinctBy_distinctBy_append]
  rw [addAll_eq, addAll_eq]
  simp only [distinct] at selections joins ⊢
  rw [selections, joins]

theorem isReadable_addAll {query : Query} {fragments : List Fragment} :
    (query.addAll fragments).IsReadable ↔
      query.IsReadable ∧ ∀ root join, Fragment.join root join ∈ fragments → join.IsReadable := by
  constructor
  · intro readable
    constructor
    · intro join inside
      exact readable join (mem_allJoins_addAll.2 (.inl inside))
    · intro root join inside
      exact readable join (mem_allJoins_addAll.2 (.inr ⟨root, inside⟩))
  · rintro ⟨before, appended⟩ join inside
    rcases mem_allJoins_addAll.1 inside with old | ⟨root, new⟩
    · exact before join old
    · exact appended root join new

/-- The joins that are kept are joins of the query. -/
theorem mem_allJoins_of_distinct {query : Query} {join : Join}
    (kept : join ∈ query.distinct.allJoins) : join ∈ query.allJoins := by
  rcases mem_allJoins.1 kept with ⟨group, member, inGroup⟩
  apply mem_allJoins.2
  simp only [distinct] at member
  cases head : query.joins.entries.head? with
  | none =>
      rw [head] at member
      cases member
  | some first =>
      rcases first with ⟨root, joins⟩
      rw [head] at member
      simp only [keptGroup] at member
      split at member
      · cases member
      · next found =>
          rcases List.mem_singleton.1 member with rfl
          rw [← found] at inGroup
          exact ⟨(root, joins), List.mem_of_mem_head? head,
            (distinctBy_sublist Join.readAlias [] joins).mem inGroup⟩

/-- To drop duplicates, append fragments and drop duplicates again is to append the
fragments and drop duplicates once: one succeeds exactly if the other does, and then with
the same query. -/
theorem dropDuplicates_incremental {query clean : Query} (constructed : query.Constructed)
    (dropped : (dropDuplicates query).result = .ok clean) (fragments : List Fragment)
    (last : Query) :
    (dropDuplicates (clean.addAll fragments)).result = .ok last ↔
      (dropDuplicates (query.addAll fragments)).result = .ok last := by
  rw [result_dropDuplicates] at dropped
  rcases deduplicated_eq_ok_iff.1 dropped with ⟨readable, rfl⟩
  have readableToo : query.distinct.IsReadable := by
    intro join kept
    exact readable join (mem_allJoins_of_distinct kept)
  rw [result_dropDuplicates, result_dropDuplicates, deduplicated_eq_ok_iff,
    deduplicated_eq_ok_iff, isReadable_addAll, isReadable_addAll,
    distinct_addAll_distinct constructed.groupsNonempty]
  constructor
  · rintro ⟨⟨-, appended⟩, same⟩
    exact ⟨⟨readable, appended⟩, same⟩
  · rintro ⟨⟨-, appended⟩, same⟩
    exact ⟨⟨readableToo, appended⟩, same⟩

/-- A join of a table under an alias. -/
def leftJoin (target joinAlias condition : String) : Join where
  kind := .left
  target
  joinAlias
  condition := some condition

/-- Users with their teams, which are joined twice, and the clubs of those teams. -/
def teamsAndClubs : Query :=
  (ofTable "users" "u").addAll [
    .join "u" (leftJoin "teams" "t" "t.id = u.team"),
    .join "t" (leftJoin "clubs" "c" "c.id = t.club"),
    .join "u" (leftJoin "teams" "t" "t.id = u.second_team"),
    .selection "u"]

/-- Fragments of which some repeat what is there and one hangs under a root that is gone. -/
def laterFragments : List Fragment :=
  [.join "t" (leftJoin "clubs" "k" "k.id = t.club"), .selection "t", .selection "u",
    .join "u" (leftJoin "profiles" "p" "p.user_id = u.id"),
    .join "u" (leftJoin "teams" "t" "t.id = u.team"), .condition "u.age > 30"]

theorem dropDuplicates_incremental_teamsAndClubs :
    ∃ clean last, teamsAndClubs.Constructed ∧
      (dropDuplicates teamsAndClubs).result = .ok clean ∧
      (dropDuplicates (clean.addAll laterFragments)).result = .ok last ∧
      (dropDuplicates (teamsAndClubs.addAll laterFragments)).result = .ok last ∧
      last.selections = ["u", "t"] ∧
      last.joins.entries =
        [("u", [leftJoin "teams" "t" "t.id = u.team",
          leftJoin "profiles" "p" "p.user_id = u.id"])] := by
  have constructed : teamsAndClubs.Constructed := (Constructed.ofTable "users" "u").addAll _
  have dropped : (dropDuplicates teamsAndClubs).result = .ok teamsAndClubs.distinct := by rfl
  have atOnce : (dropDuplicates (teamsAndClubs.addAll laterFragments)).result =
      .ok (teamsAndClubs.addAll laterFragments).distinct := by rfl
  have inSteps := (dropDuplicates_incremental constructed dropped laterFragments _).2 atOnce
  exact ⟨_, _, constructed, dropped, inSteps, atOnce, rfl, rfl⟩

end Query

end CriteriaQuery
