import Mathlib.Data.List.TakeWhile
import CriteriaQuery.Proofs.Deduplication
import CriteriaQuery.Proofs.Runs

/-!
# Aliases of joins

The alias of a join is read back from its text.  Behind the keywords that text begins with
the target, and a join can be read exactly if a name stands there, then a single space, and
then something that is no space.  What goes on from there up to the next space is the alias,
whatever was given as target, alias and condition.

Dropping duplicates stops at the first join that cannot be read, in whatever group it is,
and then the query is left as it was.
-/

namespace CriteriaQuery

namespace Join

/-- A text of at least one character without a space. -/
structure IsName (text : List Char) : Prop where
  nonempty : text ≠ []
  spaceFree : ' ' ∉ text

theorem isName_iff {text : List Char} : IsName text ↔ text ≠ [] ∧ ' ' ∉ text :=
  ⟨fun isName => ⟨isName.nonempty, isName.spaceFree⟩, fun name => ⟨name.1, name.2⟩⟩

instance (text : List Char) : Decidable (IsName text) :=
  decidable_of_iff _ isName_iff.symm

/-- Whether a text begins with a name, one space, and a name that goes on up to the next space
or the end. -/
def GivesAlias (text word : List Char) : Prop :=
  ∃ target rest, text = target ++ ' ' :: (word ++ rest) ∧ IsName target ∧ IsName word ∧
    Text.EndsRun staysInWord rest

/-- The text of a condition, if there is one. -/
def conditionText : Option String → String
  | some condition => " ON " ++ condition
  | none => ""

/-- The text of a join behind its keywords. -/
def declaration (join : Join) : String :=
  join.target ++ " " ++ join.joinAlias ++ conditionText join.condition

theorem text_eq_declaration (join : Join) :
    join.text = join.kind.keyword ++ " JOIN " ++ join.declaration := by
  obtain ⟨kind, target, joinAlias, condition⟩ := join
  cases condition <;> simp [text, declaration, conditionText, String.append_assoc]

/-- A space ends a word. -/
theorem endsRun_space (rest : List Char) : Text.EndsRun staysInWord (' ' :: rest) :=
  Text.endsRun_cons.2 (by decide)

/-- A condition is written behind a space. -/
theorem endsRun_conditionText (condition : Option String) :
    Text.EndsRun staysInWord (conditionText condition).toList := by
  cases condition with
  | none => exact Text.endsRun_nil
  | some condition =>
      rw [conditionText, String.toList_append]
      exact endsRun_space _

theorem IsName.staysInWord {name : List Char} (isName : IsName name) :
    ∀ char ∈ name, Join.staysInWord char = true := by
  intro char inside
  have other : char ≠ ' ' := fun same => isName.spaceFree (same ▸ inside)
  simpa [Join.staysInWord] using other

theorem isName_keyword (kind : JoinKind) : IsName kind.keyword.toList := by
  cases kind <;> decide

/-- A word is taken exactly if a text begins with it and it ends there. -/
theorem takeWord?_eq_some_iff {text word rest : List Char} :
    takeWord? text = some (word, rest) ↔
      text = word ++ rest ∧ IsName word ∧ Text.EndsRun staysInWord rest := by
  constructor
  · intro taken
    simp only [takeWord?] at taken
    split at taken
    · cases taken
    · next nonempty =>
        cases taken
        refine ⟨List.takeWhile_append_dropWhile.symm, ⟨nonempty, ?_⟩, Text.endsRun_dropWhile text⟩
        intro inside
        exact absurd (List.mem_takeWhile_imp inside) (by decide)
  · intro begins
    obtain ⟨same, isName, ends⟩ := begins
    have taken := Text.takeWhile_run isName.staysInWord ends
    have left := Text.dropWhile_run isName.staysInWord ends
    rw [takeWord?, same, taken, left]
    cases word with
    | nil => exact absurd rfl isName.nonempty
    | cons first more => rfl

/-- A beginning is dropped exactly if a text begins with it. -/
theorem dropExactly?_eq_some_iff {expected text rest : List Char} :
    dropExactly? expected text = some rest ↔ text = expected ++ rest := by
  induction expected generalizing text with
  | nil => simp [dropExactly?]
  | cons char more ih =>
      cases text with
      | nil => simp [dropExactly?]
      | cons first others =>
          by_cases same : char = first
          · simp [dropExactly?, same, ih]
          · simp [dropExactly?, same, Ne.symm same]

/-- The keywords of a join are read, and then its alias. -/
theorem aliasIn?_text_eq_some_iff (join : Join) {word : List Char} :
    aliasIn? join.text.toList = some word ↔ GivesAlias join.declaration.toList word := by
  have keyword : takeWord? join.text.toList =
      some (join.kind.keyword.toList, " JOIN ".toList ++ join.declaration.toList) := by
    apply takeWord?_eq_some_iff.2
    refine ⟨?_, isName_keyword join.kind, endsRun_space _⟩
    rw [text_eq_declaration, String.toList_append, String.toList_append, List.append_assoc]
  have behind : dropExactly? " JOIN ".toList (" JOIN ".toList ++ join.declaration.toList) =
      some join.declaration.toList := dropExactly?_eq_some_iff.2 rfl
  simp only [aliasIn?, keyword, behind, Option.bind_eq_bind, Option.bind_some]
  constructor
  · intro read
    obtain ⟨⟨target, afterTarget⟩, targetRead, read⟩ := Option.bind_eq_some_iff.1 read
    obtain ⟨aliasText, spaceRead, read⟩ := Option.bind_eq_some_iff.1 read
    obtain ⟨⟨found, rest⟩, wordRead, last⟩ := Option.bind_eq_some_iff.1 read
    cases last
    obtain ⟨whole, isTarget, -⟩ := takeWord?_eq_some_iff.1 targetRead
    obtain ⟨behindWord, isWord, ends⟩ := takeWord?_eq_some_iff.1 wordRead
    have space : afterTarget = ' ' :: aliasText := dropExactly?_eq_some_iff.1 spaceRead
    refine ⟨target, rest, ?_, isTarget, isWord, ends⟩
    rw [whole, space, behindWord]
  · intro gives
    obtain ⟨target, rest, whole, isTarget, isWord, ends⟩ := gives
    have targetRead := takeWord?_eq_some_iff.2 ⟨whole, isTarget, endsRun_space (word ++ rest)⟩
    have spaceRead : dropExactly? [' '] (' ' :: (word ++ rest)) = some (word ++ rest) :=
      dropExactly?_eq_some_iff.2 rfl
    have wordRead := takeWord?_eq_some_iff.2 ⟨rfl, isWord, ends⟩
    simp only [targetRead, spaceRead, wordRead, Option.bind_some, Option.pure_def]

/-- The key of a join is the alias that its text gives. -/
theorem key_eq_ok_iff {join : Join} {key : String} :
    join.key = .ok key ↔ GivesAlias join.declaration.toList key.toList := by
  rw [← aliasIn?_text_eq_some_iff, Join.key]
  cases aliasIn? join.text.toList with
  | none => simp
  | some word =>
      rw [Option.some.injEq, Except.ok.injEq, ← String.toList_inj, String.toList_ofList]

/-- A join can be read exactly if a name stands behind its keywords, then one space and then
something else. -/
theorem isReadable_iff_declaration {join : Join} :
    join.IsReadable ↔
      ∃ target first rest, join.declaration.toList = target ++ ' ' :: first :: rest ∧
        IsName target ∧ first ≠ ' ' := by
  constructor
  · intro readable
    obtain ⟨key, read⟩ := readable
    obtain ⟨target, rest, whole, isTarget, isWord, -⟩ := key_eq_ok_iff.1 read
    cases letters : key.toList with
    | nil => exact absurd letters isWord.nonempty
    | cons first more =>
        refine ⟨target, first, more ++ rest, by rw [whole, letters, List.cons_append],
          isTarget, ?_⟩
        intro space
        apply isWord.spaceFree
        rw [letters, space]
        exact List.mem_cons_self
  · intro begins
    obtain ⟨target, first, rest, whole, isTarget, notSpace⟩ := begins
    have stays : staysInWord first = true := by simpa [staysInWord] using notSpace
    refine ⟨String.ofList ((first :: rest).takeWhile staysInWord), key_eq_ok_iff.2
      ⟨target, (first :: rest).dropWhile staysInWord, ?_, isTarget, ⟨?_, ?_⟩,
        Text.endsRun_dropWhile _⟩⟩
    · rw [whole, String.toList_ofList, List.takeWhile_append_dropWhile]
    · simp [stays]
    · rw [String.toList_ofList]
      intro inside
      exact absurd (List.mem_takeWhile_imp inside) (by decide)

section NamedTarget

variable {join : Join} (isTarget : IsName join.target.toList)

include isTarget

/-- With a name as its target, a join can be read exactly if its alias begins, and not with a
space. -/
theorem isReadable_iff_of_target :
    join.IsReadable ↔ join.joinAlias ≠ "" ∧ join.joinAlias.toList.head? ≠ some ' ' := by
  have written : join.declaration.toList = join.target.toList ++
      ' ' :: (join.joinAlias.toList ++ (conditionText join.condition).toList) := by
    simp [declaration]
  have ends := endsRun_conditionText join.condition
  rw [isReadable_iff_declaration, written]
  constructor
  · intro begins
    obtain ⟨target, first, rest, same, isOther, notSpace⟩ := begins
    obtain ⟨-, behind⟩ := Text.run_inj isTarget.staysInWord (endsRun_space _)
      isOther.staysInWord (endsRun_space _) same
    have behind := (List.cons.inj behind).2
    cases letters : join.joinAlias.toList with
    | nil =>
        -- the condition would have to begin the alias, and it begins with a space
        rw [letters, List.nil_append] at behind
        have stops := ends first rest behind
        exact absurd (by simpa [staysInWord] using stops) notSpace
    | cons char more =>
        rw [letters, List.cons_append] at behind
        constructor
        · intro empty
          rw [empty] at letters
          cases letters
        · intro space
          rw [List.head?_cons, (List.cons.inj behind).1] at space
          exact notSpace (Option.some.inj space)
  · intro begins
    obtain ⟨nonempty, noSpace⟩ := begins
    cases letters : join.joinAlias.toList with
    | nil => exact absurd (String.toList_eq_nil_iff.1 letters) nonempty
    | cons first more =>
        refine ⟨join.target.toList, first, more ++ (conditionText join.condition).toList,
          by rw [List.cons_append], isTarget, ?_⟩
        intro space
        rw [letters, space] at noSpace
        exact noSpace rfl

/-- With names as target and alias, the key of a join is its alias. -/
theorem key_eq_joinAlias (isAlias : IsName join.joinAlias.toList) :
    join.key = .ok join.joinAlias := by
  apply key_eq_ok_iff.2
  refine ⟨join.target.toList, (conditionText join.condition).toList, ?_, isTarget, isAlias,
    endsRun_conditionText join.condition⟩
  simp [declaration]

end NamedTarget

/-- A join that cannot be read is reported with its text. -/
theorem keyed_eq_error_iff {join : Join} {error : QueryError} :
    join.keyed = .error error ↔
      ¬join.IsReadable ∧ error = .configuration (.unreadableJoin join.text) := by
  rw [keyed, Except.map_eq_error_iff, IsReadable, Join.key]
  cases aliasIn? join.text.toList with
  | none => simp [eq_comm]
  | some word => simp

end Join

namespace Query

/-- Reading the joins group by group fails as reading them one after the other does. -/
theorem mapM_groups_eq_error_iff {groups : List (String × List Join)} {error : QueryError} :
    (groups.mapM fun group => (group.2.mapM Join.keyed).map fun joins => (group.1, joins)) =
        .error error ↔
      (groups.map Prod.snd).flatten.mapM Join.keyed = .error error := by
  induction groups with
  | nil => exact ⟨nofun, nofun⟩
  | cons group others ih =>
      rw [List.mapM_cons, List.map_cons, List.flatten_cons, List.mapM_append]
      cases group.2.mapM Join.keyed with
      | error other =>
          constructor
          · intro failed
            cases failed
            rfl
          · intro failed
            cases failed
            rfl
      | ok joins =>
          exact Except.bind_ok_eq_error_iff.trans (ih.trans Except.bind_ok_eq_error_iff.symm)

/-- Dropping duplicates fails exactly if a join cannot be read, and the first such join
decides the error. -/
theorem deduplicated_eq_error_iff {query : Query} {error : QueryError} :
    query.deduplicated = .error error ↔
      ∃ before join after, query.allJoins = before ++ join :: after ∧
        (∀ earlier ∈ before, earlier.IsReadable) ∧ ¬join.IsReadable ∧
        error = .configuration (.unreadableJoin join.text) := by
  have stops : query.deduplicated = .error error ↔
      query.allJoins.mapM Join.keyed = .error error := by
    rw [allJoins, OrderedMap.values, ← mapM_groups_eq_error_iff]
    exact Except.bind_ok_eq_error_iff
  rw [stops, mapM_eq_error_iff]
  constructor
  · intro first
    obtain ⟨before, join, after, split, read, unread⟩ := first
    obtain ⟨unreadable, reported⟩ := Join.keyed_eq_error_iff.1 unread
    refine ⟨before, join, after, split, ?_, unreadable, reported⟩
    intro earlier inside
    exact Join.isReadable_iff.2 (read earlier inside)
  · intro first
    obtain ⟨before, join, after, split, readable, unreadable, reported⟩ := first
    refine ⟨before, join, after, split, ?_, Join.keyed_eq_error_iff.2 ⟨unreadable, reported⟩⟩
    intro earlier inside
    exact Join.isReadable_iff.1 (readable earlier inside)

/-- Dropping duplicates fails exactly if there is a join that cannot be read. -/
theorem deduplicated_fails_iff {query : Query} :
    (∃ error, query.deduplicated = .error error) ↔
      ∃ join ∈ query.allJoins, ¬join.IsReadable := by
  constructor
  · intro failed
    obtain ⟨error, failed⟩ := failed
    obtain ⟨before, join, after, split, -, unreadable, -⟩ := deduplicated_eq_error_iff.1 failed
    refine ⟨join, ?_, unreadable⟩
    rw [split]
    exact List.mem_append_right before List.mem_cons_self
  · intro unreadable
    obtain ⟨join, member, unreadable⟩ := unreadable
    cases dropped : query.deduplicated with
    | ok last => exact absurd ((deduplicated_eq_ok_iff.1 dropped).1 join member) unreadable
    | error error => exact ⟨error, rfl⟩

theorem error_dropDuplicates {query : Query} {error : QueryError} :
    (dropDuplicates query).error = some error ↔ query.deduplicated = .error error := by
  rw [dropDuplicates]
  cases query.deduplicated <;> simp

/-- A query whose duplicates cannot be dropped is left as it was. -/
theorem query_dropDuplicates {query : Query} {error : QueryError}
    (failed : query.deduplicated = .error error) : (dropDuplicates query).query = query := by
  rw [dropDuplicates, failed]

/-- How dropping duplicates recognises joins, and how it fails.

A join can be read exactly if behind its keywords a name stands, one space and then something
that is no space, and its key is the name that goes on from there up to the next space or the
end.  Where the target is a name, that asks of the alias to begin and not with a space; where
the alias is a name too it is the key, whatever the condition says.

Duplicates can be dropped unless a join of some group cannot be read.  The first such join,
group by group, decides the error, and the query is left as it was. -/
theorem dropDuplicates_reads_aliases (query : Query) :
    (∀ join : Join,
      (join.IsReadable ↔
        ∃ target first rest, join.declaration.toList = target ++ ' ' :: first :: rest ∧
          Join.IsName target ∧ first ≠ ' ') ∧
      (∀ key, join.key = .ok key ↔ Join.GivesAlias join.declaration.toList key.toList) ∧
      (Join.IsName join.target.toList →
        (join.IsReadable ↔ join.joinAlias ≠ "" ∧ join.joinAlias.toList.head? ≠ some ' ') ∧
          (Join.IsName join.joinAlias.toList → join.key = .ok join.joinAlias))) ∧
    ((dropDuplicates query).error.isSome ↔ ∃ join ∈ query.allJoins, ¬join.IsReadable) ∧
    (∀ error, (dropDuplicates query).error = some error ↔
      ∃ before join after, query.allJoins = before ++ join :: after ∧
        (∀ earlier ∈ before, earlier.IsReadable) ∧ ¬join.IsReadable ∧
        error = .configuration (.unreadableJoin join.text)) ∧
    ((dropDuplicates query).error.isSome → (dropDuplicates query).query = query) := by
  refine ⟨?_, ?_, fun _ => error_dropDuplicates.trans deduplicated_eq_error_iff, ?_⟩
  · intro join
    refine ⟨Join.isReadable_iff_declaration, fun _ => Join.key_eq_ok_iff, ?_⟩
    intro isTarget
    exact ⟨Join.isReadable_iff_of_target isTarget, Join.key_eq_joinAlias isTarget⟩
  · simp only [Option.isSome_iff_exists, error_dropDuplicates, deduplicated_fails_iff]
  · intro failed
    obtain ⟨error, failed⟩ := Option.isSome_iff_exists.1 failed
    exact query_dropDuplicates (error_dropDuplicates.1 failed)

example : (leftJoin "teams t" "" "t.id = u.team").key = .ok "t" ∧
    (leftJoin "teams" "" "t.id = u.team").key =
      .error (.configuration (.unreadableJoin "LEFT JOIN teams  ON t.id = u.team")) :=
  ⟨rfl, rfl⟩

end Query

end CriteriaQuery
