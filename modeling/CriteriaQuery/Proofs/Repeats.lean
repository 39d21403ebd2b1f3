import CriteriaQuery.Query.Distinct

/-!
# Items that are repeated

Of the items of a list that share a key only the first is kept.  Which items those are can
be computed piece by piece: behind a first piece the keys of that piece are seen, and
nothing else about it matters.  Dropping repeats from a piece early, or leaving out a piece
that only repeats what stands before it, therefore makes no difference.
-/

namespace CriteriaQuery

variable {α β κ : Type} [DecidableEq κ] (key : α → κ)

/-- Of the keys that were seen it only matters which they are. -/
theorem distinctBy_congr {left right : List κ} (same : ∀ known, known ∈ left ↔ known ∈ right)
    (items : List α) : distinctBy key left items = distinctBy key right items := by
  induction items generalizing left right with
  | nil => rfl
  | cons item rest ih =>
      have sameWith : ∀ known, known ∈ key item :: left ↔ known ∈ key item :: right := by
        intro known
        rw [List.mem_cons, List.mem_cons, same]
      simp only [distinctBy, same (key item)]
      rw [ih same, ih sameWith]

/-- Items whose keys have all been seen leave nothing. -/
theorem distinctBy_eq_nil {seen : List κ} {items : List α}
    (known : ∀ item ∈ items, key item ∈ seen) : distinctBy key seen items = [] := by
  induction items with
  | nil => rfl
  | cons item rest ih =>
      rw [distinctBy, if_pos (known item List.mem_cons_self)]
      apply ih
      intro later inside
      exact known later (List.mem_cons_of_mem _ inside)

/-- Behind a first piece the keys of that piece are seen. -/
theorem distinctBy_append (seen : List κ) (first second : List α) :
    distinctBy key seen (first ++ second) =
      distinctBy key seen first ++ distinctBy key (first.map key ++ seen) second := by
  induction first generalizing seen with
  | nil => rfl
  | cons item rest ih =>
      rw [List.cons_append, distinctBy, distinctBy]
      split
      · next isSeen =>
          have same : ∀ known, known ∈ rest.map key ++ seen ↔
              known ∈ (item :: rest).map key ++ seen := by
            intro known
            simp only [List.map_cons, List.cons_append, List.mem_cons, List.mem_append]
            constructor
            · intro inside
              exact .inr inside
            · rintro (rfl | inside)
              · exact .inr isSeen
              · exact inside
          rw [ih, distinctBy_congr key same]
      · have same : ∀ known, known ∈ rest.map key ++ key item :: seen ↔
            known ∈ (item :: rest).map key ++ seen := by
          intro known
          simp only [List.map_cons, List.cons_append, List.mem_cons, List.mem_append]
          exact or_left_comm
        rw [ih, distinctBy_congr key same, List.cons_append]

/-- Items with pairwise different keys that were not seen are all kept. -/
theorem distinctBy_eq_self {seen : List κ} {items : List α} (distinct : (items.map key).Nodup)
    (fresh : ∀ item ∈ items, key item ∉ seen) : distinctBy key seen items = items := by
  induction items generalizing seen with
  | nil => rfl
  | cons item rest ih =>
      rcases List.nodup_cons.1 distinct with ⟨alone, distinctRest⟩
      have freshRest : ∀ later ∈ rest, key later ∉ key item :: seen := by
        intro later inside repeated
        rcases List.mem_cons.1 repeated with same | isSeen
        · exact alone (same ▸ List.mem_map_of_mem inside)
        · exact fresh later (List.mem_cons_of_mem _ inside) isSeen
      rw [distinctBy, if_neg (fresh item List.mem_cons_self), ih distinctRest freshRest]

/-- The first item is kept unless its key has been seen. -/
theorem head?_distinctBy (items : List α) : (distinctBy key [] items).head? = items.head? := by
  cases items <;> rfl

/-- A key is kept exactly if it occurs and has not been seen. -/
theorem mem_map_distinctBy {seen : List κ} {items : List α} {found : κ} :
    found ∈ (distinctBy key seen items).map key ↔ found ∈ items.map key ∧ found ∉ seen := by
  induction items generalizing seen with
  | nil => simp [distinctBy]
  | cons item rest ih =>
      rw [distinctBy]
      split
      · next isSeen =>
          rw [ih, List.map_cons, List.mem_cons]
          constructor
          · rintro ⟨inside, fresh⟩
            exact ⟨.inr inside, fresh⟩
          · rintro ⟨rfl | inside, fresh⟩
            · exact absurd isSeen fresh
            · exact ⟨inside, fresh⟩
      · next fresh =>
          rw [List.map_cons, List.mem_cons, ih, List.map_cons, List.mem_cons, List.mem_cons]
          constructor
          · rintro (rfl | ⟨inside, other⟩)
            · exact ⟨.inl rfl, fresh⟩
            · exact ⟨.inr inside, fun isSeen => other (.inr isSeen)⟩
          · rintro ⟨rfl | inside, unseen⟩
            · exact .inl rfl
            · by_cases same : found = key item
              · exact .inl same
              · exact .inr ⟨inside, fun isSeen => isSeen.elim same unseen⟩

/-- Dropping repeats once more behind the items changes nothing: items that follow are
dropped or kept as they would have been. -/
theorem distinctBy_distinctBy_append (items more : List α) :
    distinctBy key [] (distinctBy key [] items ++ more) = distinctBy key [] (items ++ more) := by
  have kept : distinctBy key [] (distinctBy key [] items) = distinctBy key [] items := by
    apply distinctBy_eq_self key (nodup_distinctBy key [] items)
    intro item _ isSeen
    cases isSeen
  have same : ∀ known, known ∈ (distinctBy key [] items).map key ++ [] ↔
      known ∈ items.map key ++ [] := by
    intro known
    rw [List.append_nil, List.append_nil, mem_map_distinctBy]
    simp
  rw [distinctBy_append, distinctBy_append, kept, distinctBy_congr key same]

/-- Items may carry their keys with them. -/
theorem map_distinctBy_keyed (seen : List κ) (items : List α) :
    (distinctBy Prod.fst seen (items.map fun item => (key item, item))).map Prod.snd =
      distinctBy key seen items := by
  induction items generalizing seen with
  | nil => rfl
  | cons item rest ih =>
      rw [List.map_cons, distinctBy, distinctBy]
      split
      · exact ih seen
      · rw [List.map_cons, ih]

variable [DecidableEq β]

/-- What a repeated item expands to is dropped, since what its first occurrence expands to
has been seen. -/
theorem distinctBy_flatMap (image : β → List α) {seen : List κ} {done : List β}
    (known : ∀ source ∈ done, ∀ item ∈ image source, key item ∈ seen) (sources : List β) :
    distinctBy key seen ((distinctBy id done sources).flatMap image) =
      distinctBy key seen (sources.flatMap image) := by
  induction sources generalizing seen done with
  | nil => rfl
  | cons source rest ih =>
      by_cases isDone : source ∈ done
      · have dropped : distinctBy id done (source :: rest) = distinctBy id done rest :=
          if_pos isDone
        have nothing : distinctBy key seen (image source) = [] :=
          distinctBy_eq_nil key (known source isDone)
        have sameKeys : ∀ found, found ∈ (image source).map key ++ seen ↔ found ∈ seen := by
          intro found
          rw [List.mem_append]
          constructor
          · rintro (repeated | isSeen)
            · rcases List.mem_map.1 repeated with ⟨item, inside, rfl⟩
              exact known source isDone item inside
            · exact isSeen
          · exact .inr
        rw [dropped, ih known, List.flatMap_cons, distinctBy_append, nothing, List.nil_append,
          distinctBy_congr key sameKeys]
      · have kept : distinctBy id done (source :: rest) =
            source :: distinctBy id (source :: done) rest := if_neg isDone
        have knownToo : ∀ other ∈ source :: done, ∀ item ∈ image other,
            key item ∈ (image source).map key ++ seen := by
          intro other isDone item inside
          rw [List.mem_append]
          rcases List.mem_cons.1 isDone with rfl | earlier
          · exact .inl (List.mem_map_of_mem inside)
          · exact .inr (known other earlier item inside)
        rw [kept, List.flatMap_cons, List.flatMap_cons, distinctBy_append, distinctBy_append,
          ih knownToo]

/-- Keeping the first of equal items is what the library calls erasing duplicates. -/
theorem distinctBy_id (seen items : List β) :
    distinctBy id seen items = (items.filter fun item => decide (item ∉ seen)).eraseDups := by
  induction items generalizing seen with
  | nil => rfl
  | cons item rest ih =>
      rw [distinctBy, id]
      split
      · next isSeen => rw [ih, List.filter_cons_of_neg (by simpa using isSeen)]
      · next fresh =>
          rw [ih, List.filter_cons_of_pos (by simpa using fresh), List.eraseDups_cons,
            List.filter_filter]
          congr 3
          funext later
          by_cases same : later = item <;> simp [same]

theorem distinctBy_id_nil (items : List β) : distinctBy id [] items = items.eraseDups := by
  rw [distinctBy_id, List.filter_eq_self.2]
  simp

/-- Behind any items, sources that are repeated can be left out. -/
theorem distinctBy_append_flatMap_eraseDups (before : List α) (image : β → List α)
    (sources : List β) :
    distinctBy key [] (before ++ sources.eraseDups.flatMap image) =
      distinctBy key [] (before ++ sources.flatMap image) := by
  rw [distinctBy_append, distinctBy_append, ← distinctBy_id_nil]
  congr 1
  apply distinctBy_flatMap
  intro source isDone
  cases isDone

/-- Whatever items expand to starts as it does without the repetitions. -/
theorem head?_flatMap_eraseDups {α β : Type} [DecidableEq α] [DecidableEq β]
    (image : α → List β) (items : List α) :
    (items.eraseDups.flatMap image).head? = (items.flatMap image).head? := by
  have same := distinctBy_append_flatMap_eraseDups id [] image items
  rw [List.nil_append, List.nil_append] at same
  rw [← head?_distinctBy id, same, head?_distinctBy]

end CriteriaQuery
