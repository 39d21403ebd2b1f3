import CriteriaQuery.Query.Pass

/-!
# Dropping duplicates

Independent handlers may add the same join or the same selection. Of selections
with one text and of joins with one alias only the first is kept, in the order in
which they were added, and of several groups of joins only the first group.

The alias of a join is read back from its text, where it is the third word after
the keywords; a join whose text does not have that form is a mistake in the
setup, and then nothing is dropped at all.
-/

namespace CriteriaQuery

/-- The first of the items that share a key, in order; keys already seen do not count. -/
def distinctBy {α κ : Type} [DecidableEq κ] (key : α → κ) (seen : List κ) : List α → List α
  | [] => []
  | item :: rest =>
      if key item ∈ seen then distinctBy key seen rest
      else item :: distinctBy key (key item :: seen) rest

/-- What is kept is a part of the items, in their order. -/
theorem distinctBy_sublist {α κ : Type} [DecidableEq κ] (key : α → κ) (seen : List κ)
    (items : List α) : (distinctBy key seen items).Sublist items := by
  induction items generalizing seen with
  | nil => exact List.Sublist.slnil
  | cons item rest ih =>
      simp only [distinctBy]
      split
      · exact (ih seen).cons item
      · exact (ih (key item :: seen)).cons_cons item

/-- No key of what is kept was seen before. -/
theorem key_not_mem_seen {α κ : Type} [DecidableEq κ] (key : α → κ) (seen : List κ)
    (items : List α) : ∀ item ∈ distinctBy key seen items, key item ∉ seen := by
  induction items generalizing seen with
  | nil => simp [distinctBy]
  | cons first rest ih =>
      intro item kept
      simp only [distinctBy] at kept
      split at kept
      · exact ih seen item kept
      · next unseen =>
          rcases List.mem_cons.1 kept with here | later
          · exact here ▸ unseen
          · exact fun inside => ih _ item later (List.mem_cons_of_mem _ inside)

/-- The keys of what is kept are pairwise different. -/
theorem nodup_distinctBy {α κ : Type} [DecidableEq κ] (key : α → κ) (seen : List κ)
    (items : List α) : ((distinctBy key seen items).map key).Nodup := by
  induction items generalizing seen with
  | nil => simp [distinctBy]
  | cons first rest ih =>
      simp only [distinctBy]
      split
      · exact ih seen
      · rw [List.map_cons, List.nodup_cons]
        refine ⟨fun repeated => ?_, ih _⟩
        obtain ⟨item, kept, same⟩ := List.mem_map.1 repeated
        exact key_not_mem_seen key _ rest item kept (same ▸ List.mem_cons_self)

namespace Join

/-- Whether a character does not end a word. -/
def staysInWord (char : Char) : Bool :=
  char != ' '

/-- A word of at least one character, up to a space or the end, and what follows it. -/
def takeWord? (text : List Char) : Option (List Char × List Char) :=
  match text.takeWhile staysInWord with
  | [] => none
  | word => some (word, text.dropWhile staysInWord)

/-- The text after a given beginning. -/
def dropExactly? : List Char → List Char → Option (List Char)
  | [], text => some text
  | _ :: _, [] => none
  | expected :: more, char :: rest => if expected = char then dropExactly? more rest else none

/-- The alias in the text of a join: a word, the word `JOIN`, the target and the alias,
with single spaces between them. -/
def aliasIn? (text : List Char) : Option (List Char) := do
  let (_, afterKind) ← takeWord? text
  let target ← dropExactly? " JOIN ".toList afterKind
  let (_, afterTarget) ← takeWord? target
  let aliasText ← dropExactly? [' '] afterTarget
  let (word, _) ← takeWord? aliasText
  return word

/-- The alias a join is recognised by. -/
def key (join : Join) : Except QueryError String :=
  match aliasIn? join.text.toList with
  | some word => .ok (String.ofList word)
  | none => .error (.configuration (.unreadableJoin join.text))

/-- A join beside its key. -/
def keyed (join : Join) : Except QueryError (String × Join) :=
  join.key.map fun key => (key, join)

end Join

namespace Query

/-- The joins of a group with pairwise different keys. -/
def distinctJoins (joins : List (String × Join)) : List Join :=
  (distinctBy Prod.fst [] joins).map Prod.snd

/-- The first group of joins without duplicates; a group without joins is no group. -/
def firstGroup : List (String × List (String × Join)) → OrderedMap String (List Join)
  | [] => .empty
  | (root, joins) :: _ =>
      if joins.isEmpty then .empty else OrderedMap.empty.insert root (distinctJoins joins)

/-- A query without duplicates. -/
def deduplicated (query : Query) : Except QueryError Query := do
  let groups ← query.joins.entries.mapM fun group =>
    (group.2.mapM Join.keyed).map fun joins => (group.1, joins)
  return {
    query with
    joins := firstGroup groups
    selections := distinctBy id [] query.selections }

/-- What dropping the duplicates of a query reports, if there were any. -/
def duplicateEvents (before after : Query) : List Event :=
  let joins := before.count .joins - after.count .joins
  let selections := before.count .selections - after.count .selections
  if 0 < joins ∨ 0 < selections then [.duplicatesRemoved joins selections] else []

/-- Drop duplicates. A join that cannot be read leaves the query as it is. -/
def dropDuplicates : Pass := fun query =>
  match query.deduplicated with
  | .ok distinct =>
      { query := distinct, events := duplicateEvents query distinct, error := none }
  | .error error => { query, events := [], error := some error }

end Query

end CriteriaQuery
