/-!
# Longest runs of characters

A name, a word and a quoted text go on for as long as their characters pass a test.  Such a
run is known by what it holds and by what comes behind it, without saying how its end is
found, and a text begins with no more than one.
-/

namespace CriteriaQuery.Text

variable {passes : Char → Bool}

/-- Whether a run of characters that pass a test ends in front of a text. -/
def EndsRun (passes : Char → Bool) (rest : List Char) : Prop :=
  ∀ char more, rest = char :: more → passes char = false

theorem endsRun_nil : EndsRun passes [] := by
  intro char more same
  cases same

theorem endsRun_cons {char : Char} {more : List Char} :
    EndsRun passes (char :: more) ↔ passes char = false := by
  constructor
  · intro ends
    exact ends char more rfl
  · intro stops other rest same
    cases same
    exact stops

/-- The characters that are taken are a run that has ended. -/
theorem endsRun_dropWhile (text : List Char) : EndsRun passes (text.dropWhile passes) := by
  intro char more left
  have stopped := List.head?_dropWhile_not passes text
  rw [left] at stopped
  simpa using stopped

section Run

variable {run rest : List Char} (inside : ∀ char ∈ run, passes char = true)
  (ends : EndsRun passes rest)

include inside ends

/-- A run that ends is taken as it stands. -/
theorem takeWhile_run : (run ++ rest).takeWhile passes = run := by
  rw [List.takeWhile_append_of_pos inside]
  cases rest with
  | nil => simp
  | cons char more => simp [ends char more rfl]

/-- What comes behind a run is left. -/
theorem dropWhile_run : (run ++ rest).dropWhile passes = rest := by
  rw [List.dropWhile_append_of_pos inside]
  cases rest with
  | nil => rfl
  | cons char more => simp [ends char more rfl]

/-- A text begins with no more than one run. -/
theorem run_inj {other left : List Char} (insideOther : ∀ char ∈ other, passes char = true)
    (endsOther : EndsRun passes left) (same : run ++ rest = other ++ left) :
    run = other ∧ rest = left := by
  have taken := takeWhile_run inside ends
  have dropped := dropWhile_run inside ends
  rw [same, takeWhile_run insideOther endsOther] at taken
  rw [same, dropWhile_run insideOther endsOther] at dropped
  exact ⟨taken.symm, dropped.symm⟩

end Run

end CriteriaQuery.Text
