import CriteriaQuery.Text.Identifier

/-!
# Tokens of an expression

How parameter references are found in the text of a join or a condition. Text in
single quotes and the two colons of a cast are passed over. Elsewhere a colon and
the longest run of letters, digits and underscores after it refer to a parameter;
a colon without such a run is a character like any other.

The tokens lose nothing: their characters put together are the text.
-/

namespace CriteriaQuery

/-- A token of an expression. -/
inductive Token where
  /-- Quoted text with its quotes; the closing one may be missing at the end. -/
  | quoted (chars : List Char)
  /-- Two colons. -/
  | cast
  /-- A colon and the name of a parameter. -/
  | reference (name : List Char)
  /-- Any other character. -/
  | plain (char : Char)
deriving DecidableEq, Repr

namespace Token

/-- The characters of a token. -/
def chars : Token → List Char
  | .quoted chars => chars
  | .cast => [':', ':']
  | .reference name => ':' :: name
  | .plain char => [char]

/-- Whether a character does not end a quoted text. -/
def staysQuoted (char : Char) : Bool :=
  char != '\''

theorem length_dropWhile_le {α : Type} (holds : α → Bool) (list : List α) :
    (list.dropWhile holds).length ≤ list.length := by
  induction list with
  | nil => simp
  | cons head tail ih =>
      simp only [List.dropWhile_cons, List.length_cons]
      split
      · omega
      · simp

/-- The tokens of an expression. -/
def scan (text : List Char) : List Token :=
  match text with
  | [] => []
  | '\'' :: rest =>
      match _found : rest.dropWhile staysQuoted with
      | [] => [.quoted ('\'' :: rest)]
      | quote :: after => .quoted ('\'' :: rest.takeWhile staysQuoted ++ [quote]) :: scan after
  | ':' :: ':' :: rest => .cast :: scan rest
  | ':' :: rest =>
      if (rest.takeWhile Text.isWordChar).isEmpty then .plain ':' :: scan rest
      else .reference (rest.takeWhile Text.isWordChar) :: scan (rest.dropWhile Text.isWordChar)
  | char :: rest => .plain char :: scan rest
termination_by text.length
decreasing_by
  all_goals simp only [List.length_cons]
  · have shorter := length_dropWhile_le staysQuoted rest
    rw [_found, List.length_cons] at shorter
    omega
  · omega
  · omega
  · have shorter := length_dropWhile_le Text.isWordChar rest
    omega
  · omega

/-- The tokens of an expression put together are its text. -/
theorem flatMap_chars_scan (text : List Char) : (scan text).flatMap chars = text := by
  fun_induction scan text with
  | case1 => rfl
  | case2 rest found => simp [chars]
  | case3 rest quote after found ih =>
      have whole := List.takeWhile_append_dropWhile (p := staysQuoted) (l := rest)
      rw [found] at whole
      simp [chars, ih, whole]
  | case4 rest ih => simp [chars, ih]
  | case5 rest _ _ ih => simp [chars, ih]
  | case6 rest _ _ ih => simp [chars, ih, List.takeWhile_append_dropWhile]
  | case7 char rest _ _ _ ih => simp [chars, ih]

end Token

end CriteriaQuery
