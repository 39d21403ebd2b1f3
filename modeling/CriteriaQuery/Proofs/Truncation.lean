import CriteriaQuery.Proofs.ByteOffsets

/-!
# Truncated text

A text that is too long is cut at the last boundary between two characters within the limit.
Since a character has at most four bytes, this boundary is at most three bytes back.

The cut can be found by looking at single bytes, going back from the limit, and made by a
slice of the text; the slice is always there.
-/

namespace CriteriaQuery.Text

/-- Boundaries of what is behind a character are boundaries behind this character. -/
theorem isBoundary_cons_add (char : Char) (rest : List Char) (offset : Nat) :
    isBoundary (char :: rest) (char.utf8Size + offset) = isBoundary rest offset := by
  have positive := char.utf8Size_pos
  obtain ⟨before, more⟩ := Nat.exists_eq_succ_of_ne_zero (n := char.utf8Size + offset) (by omega)
  have enough : char.utf8Size ≤ before + 1 := by omega
  have left : before + 1 - char.utf8Size = offset := by omega
  rw [more, isBoundary, left, decide_eq_true enough, Bool.true_and]

/-- An offset lies at a boundary of characters exactly if they fall apart there. -/
theorem isBoundary_iff {chars : List Char} {offset : Nat} :
    isBoundary chars offset = true ↔
      ∃ before after, chars = before ++ after ∧ utf8Length before = offset := by
  constructor
  · intro boundary
    induction chars generalizing offset with
    | nil =>
        cases offset with
        | zero => exact ⟨[], [], rfl, rfl⟩
        | succ offset => cases boundary
    | cons char rest ih =>
        cases offset with
        | zero => exact ⟨[], char :: rest, rfl, rfl⟩
        | succ offset =>
            rw [isBoundary, Bool.and_eq_true, decide_eq_true_eq] at boundary
            obtain ⟨before, after, split, length⟩ := ih boundary.2
            refine ⟨char :: before, after, by rw [split, List.cons_append], ?_⟩
            rw [utf8Length, length]
            omega
  · intro cut
    obtain ⟨before, after, split, length⟩ := cut
    rw [split, ← length]
    clear split length
    induction before with
    | nil => simp [utf8Length, isBoundary]
    | cons char rest ih => rw [List.cons_append, utf8Length, isBoundary_cons_add, ih]

/-- A boundary of the characters of a text is a boundary that its bytes show. -/
theorem isBoundary_toList (text : String) (offset : Nat) :
    isBoundary text.toList offset = isCharBoundary text offset := by
  rw [Bool.eq_iff_iff, isBoundary_iff, isCharBoundary_iff]

/-- What is taken up to a boundary are the characters in front of it. -/
theorem takeBytes_append (before after : List Char) :
    takeBytes (before ++ after) (utf8Length before) = before := by
  induction before with
  | nil =>
      cases after with
      | nil => rfl
      | cons char rest =>
          rw [List.nil_append, takeBytes, if_neg]
          have positive := char.utf8Size_pos
          rw [utf8Length]
          omega
  | cons char rest ih =>
      rw [List.cons_append, utf8Length, takeBytes, if_pos (Nat.le_add_right _ _),
        Nat.add_sub_cancel_left, ih]

/-- No boundary between the cut and the limit is passed over. -/
theorem le_boundaryBefore {chars : List Char} {offset limit : Nat}
    (boundary : isBoundary chars offset = true) (fits : offset ≤ limit) :
    offset ≤ boundaryBefore chars limit := by
  induction limit with
  | zero => exact Nat.le_trans fits (Nat.zero_le _)
  | succ limit ih =>
      rw [boundaryBefore]
      split
      · exact fits
      · next inside =>
          apply ih
          rcases Nat.lt_or_eq_of_le fits with earlier | same
          · exact Nat.le_of_lt_succ earlier
          · exact absurd (same ▸ boundary) inside

/-- Within a text the cut is at most three bytes in front of the limit. -/
theorem le_boundaryBefore_add {chars : List Char} {limit : Nat}
    (inside : limit < utf8Length chars) : limit ≤ boundaryBefore chars limit + 3 := by
  obtain ⟨before, after, split, length⟩ :=
    isBoundary_iff.1 (isBoundary_boundaryBefore chars limit)
  cases after with
  | nil =>
      have cut := boundaryBefore_le chars limit
      rw [split, List.append_nil, length] at inside
      omega
  | cons char rest =>
      -- the character behind the cut ends at a boundary, which is too far
      have next : isBoundary chars (boundaryBefore chars limit + char.utf8Size) = true := by
        refine isBoundary_iff.2 ⟨before ++ [char], rest, by simp [split], ?_⟩
        rw [utf8Length_append, utf8Length, utf8Length, length, Nat.add_zero]
      have width := char.utf8Size_le_four
      have positive := char.utf8Size_pos
      by_contra far
      have reached : boundaryBefore chars limit + char.utf8Size ≤ boundaryBefore chars limit :=
        le_boundaryBefore next (by omega)
      omega

/-- How many bytes a search for a boundary goes back from an offset. -/
def stepsBack (text : String) : Nat → Nat
  | 0 => 0
  | offset + 1 => if isCharBoundary text (offset + 1) then 0 else stepsBack text offset + 1

/-- Where the search ends the text is cut. -/
theorem boundaryBefore_add_stepsBack (text : String) (offset : Nat) :
    boundaryBefore text.toList offset + stepsBack text offset = offset := by
  induction offset with
  | zero => rfl
  | succ offset ih =>
      rw [boundaryBefore, stepsBack, isBoundary_toList]
      split
      · rfl
      · omega

/-- A text cut by byte offsets: the end of the slice is searched for back from the limit. -/
def truncateByOffset? (text : String) (limit : Nat) : Option String :=
  if text.utf8ByteSize ≤ limit then some text
  else (slice? text 0 (limit - stepsBack text limit)).map (· ++ "...")

/-- A text beyond the limit is cut into what is kept, up to where the search ends, and the
rest. -/
theorem truncate_of_lt {text : String} {limit : Nat} (long : limit < text.utf8ByteSize) :
    ∃ kept rest, text = kept ++ rest ∧ kept.utf8ByteSize = boundaryBefore text.toList limit ∧
      truncate text limit = kept ++ "..." ∧
      slice? text 0 (limit - stepsBack text limit) = some kept := by
  obtain ⟨before, after, split, length⟩ :=
    isBoundary_iff.1 (isBoundary_boundaryBefore text.toList limit)
  refine ⟨String.ofList before, String.ofList after, ?_, ?_, ?_, ?_⟩
  · rw [← String.ofList_append, ← split, String.ofList_toList]
  · rw [utf8ByteSize_eq, String.toList_ofList, length]
  · rw [truncate, if_neg (Nat.not_le_of_lt long), ← length, split, takeBytes_append]
  · have back := boundaryBefore_add_stepsBack text limit
    have last : limit - stepsBack text limit = utf8Length [] + utf8Length before := by
      rw [utf8Length, length]
      omega
    have fromStart : text.toList = [] ++ (before ++ after) := split
    rw [last]
    exact slice?_eq_some fromStart

/-- How a text is truncated.

One within the limit stays as it is.  A longer one becomes its longest beginning that ends
between two characters and is within the limit, which misses the limit by no more than three
bytes, with an ellipsis behind it.  Going back from the limit byte by byte finds the end of
this beginning in at most three steps, and the slice up to there is never out of place, so
cutting by byte offsets always gives the truncated text. -/
theorem truncate_longest (text : String) (limit : Nat) :
    (text.utf8ByteSize ≤ limit → truncate text limit = text) ∧
    (limit < text.utf8ByteSize →
      ∃ kept rest, text = kept ++ rest ∧ truncate text limit = kept ++ "..." ∧
        kept.utf8ByteSize ≤ limit ∧ limit ≤ kept.utf8ByteSize + 3 ∧
        (∀ position : text.Pos, position.offset.byteIdx ≤ limit →
          position.offset.byteIdx ≤ kept.utf8ByteSize) ∧
        stepsBack text limit ≤ 3 ∧ isCharBoundary text (limit - stepsBack text limit) = true ∧
        slice? text 0 (limit - stepsBack text limit) = some kept) ∧
    truncateByOffset? text limit = some (truncate text limit) := by
  refine ⟨fun short => if_pos short, ?_, ?_⟩
  · intro long
    obtain ⟨kept, rest, split, size, truncated, cut⟩ := truncate_of_lt long
    have back := boundaryBefore_add_stepsBack text limit
    have near : limit ≤ boundaryBefore text.toList limit + 3 :=
      le_boundaryBefore_add (utf8ByteSize_eq text ▸ long)
    refine ⟨kept, rest, split, truncated, ?_, ?_, ?_, by omega, ?_, cut⟩
    · rw [size]
      exact boundaryBefore_le _ _
    · rw [size]
      exact near
    · intro position fits
      have boundary := isCharBoundary_iff_isValid.2 position.isValid
      rw [← isBoundary_toList] at boundary
      rw [size]
      exact le_boundaryBefore boundary fits
    · exact (isSome_slice?_iff.1 (Option.isSome_of_eq_some cut)).last_boundary
  · rw [truncateByOffset?]
    split
    · next short => rw [truncate, if_pos short]
    · next long =>
        obtain ⟨kept, rest, -, -, truncated, cut⟩ := truncate_of_lt (Nat.lt_of_not_le long)
        rw [cut, truncated, Option.map_some]

example : truncate "aé" 2 = "a..." ∧ truncate "é" 1 = "..." ∧ truncate "é" 0 = "..." := by
  decide

end CriteriaQuery.Text
