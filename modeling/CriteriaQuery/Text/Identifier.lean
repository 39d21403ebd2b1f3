/-!
# Identifiers

An identifier names a table, an alias or a column in SQL text. It is one or more
segments joined by dots; a segment is an ASCII letter or an underscore followed
by ASCII letters, digits and underscores. Nothing of that needs quoting, so an
identifier can stand in SQL text as it is.
-/

namespace CriteriaQuery.Text

/-- A character that may start a segment. -/
def isSegmentStart (char : Char) : Bool :=
  char == '_' || char.isAlpha

/-- A character that may follow in a segment; it also makes up the name of a parameter. -/
def isWordChar (char : Char) : Bool :=
  char == '_' || char.isAlphanum

/-- The parts of a text between separators; there is always one more part than
there are separators. -/
def splitAt (separator : Char) : List Char → List (List Char)
  | [] => [[]]
  | char :: rest =>
      if char = separator then [] :: splitAt separator rest
      else
        match splitAt separator rest with
        | [] => [[char]]
        | part :: parts => (char :: part) :: parts

/-- Joining the parts with the separator gives the text back. -/
theorem intercalate_splitAt (separator : Char) (text : List Char) :
    [separator].intercalate (splitAt separator text) = text := by
  induction text with
  | nil => rfl
  | cons char rest ih =>
      simp only [splitAt]
      split
      · next same =>
          subst same
          cases parts : splitAt char rest with
          | nil =>
              rw [parts, List.intercalate_nil] at ih
              subst ih
              simp [splitAt] at parts
          | cons part others =>
              rw [List.intercalate_cons_cons, ← parts, ih]
              rfl
      · cases parts : splitAt separator rest with
        | nil =>
            rw [parts, List.intercalate_nil] at ih
            subst ih
            rfl
        | cons part others =>
            rw [parts] at ih
            rw [List.intercalate_cons_cons_left, ih]

/-- One segment of an identifier. -/
def isSegment : List Char → Bool
  | [] => false
  | first :: rest => isSegmentStart first && rest.all isWordChar

/-- Segments joined by dots. -/
def isIdentifier (text : String) : Bool :=
  (splitAt '.' text.toList).all isSegment

end CriteriaQuery.Text
