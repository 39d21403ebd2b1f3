import CriteriaQuery.Proofs.References

/-!
# Placeholders of a statement

Whoever reads the text of a statement finds its placeholders as dollar signs with
digits behind them.  They are found where values are bound, and nowhere else, provided
that no text of the query has a dollar sign and that no digit comes right behind a
bound value.  The second condition is not a matter of luck: the name of a reference
goes on over digits, so what comes behind a reference never begins with one.
-/

namespace CriteriaQuery

/-- The placeholders in a text: every dollar sign with all digits right behind it. -/
def placeholders : List Char → List String
  | [] => []
  | char :: rest =>
      if char = '$' then String.ofList ('$' :: rest.takeWhile Char.isDigit) :: placeholders rest
      else placeholders rest

/-- Whether a text begins with a digit. -/
def beginsWithDigit (text : List Char) : Bool :=
  text.head?.any Char.isDigit

/-- Whether a text can stand between bound values: it begins, with no digit, and has no
dollar sign. -/
def isGap (text : String) : Bool :=
  match text.toList with
  | [] => false
  | first :: rest => !first.isDigit && decide ('$' ∉ first :: rest)

/-- Digits up to a text that does not begin with one are read as they stand. -/
theorem takeWhile_digits_append {digits rest : List Char}
    (digit : ∀ char ∈ digits, char.isDigit = true) (stops : beginsWithDigit rest = false) :
    (digits ++ rest).takeWhile Char.isDigit = digits := by
  apply Text.takeWhile_run digit
  intro char more same
  simpa [same, beginsWithDigit] using stops

/-- Characters that are no dollar sign hold no placeholder. -/
theorem placeholders_append {chars : List Char} (dollarFree : '$' ∉ chars) (rest : List Char) :
    placeholders (chars ++ rest) = placeholders rest := by
  induction chars with
  | nil => rfl
  | cons char more ih =>
      have other : char ≠ '$' := fun same => dollarFree (same ▸ List.mem_cons_self)
      rw [List.cons_append, placeholders, if_neg other]
      exact ih fun inside => dollarFree (List.mem_cons_of_mem _ inside)

namespace Statement

/-- Symbols whose placeholders can be told apart: no character is a dollar sign, and no
digit comes right behind a bound value. -/
def Separated : List Symbol → Prop
  | [] => True
  | .char char :: rest => char ≠ '$' ∧ Separated rest
  | .bound _ :: rest => beginsWithDigit (renderFrom 0 rest) = false ∧ Separated rest

/-- Symbols that may also come right behind a bound value. -/
structure Detached (symbols : List Symbol) : Prop where
  separated : Separated symbols
  noDigit : beginsWithDigit (renderFrom 0 symbols) = false

/-- What a text begins with does not depend on the numbers of its placeholders. -/
theorem beginsWithDigit_renderFrom (count : Nat) (symbols : List Symbol) :
    beginsWithDigit (renderFrom count symbols) = beginsWithDigit (renderFrom 0 symbols) := by
  rcases symbols with _ | ⟨_ | _, rest⟩ <;> rfl

/-- The placeholders of separated symbols are those of their values, numbered in order. -/
theorem placeholders_renderFrom (count : Nat) {symbols : List Symbol}
    (separated : Separated symbols) :
    placeholders (renderFrom count symbols) =
      (List.range' (count + 1) (boundValues symbols).length).map fun number =>
        "$" ++ Nat.repr number := by
  induction symbols generalizing count with
  | nil => rfl
  | cons symbol rest ih =>
      cases symbol with
      | char char =>
          rcases separated with ⟨other, separated⟩
          rw [renderFrom, placeholders, if_neg other]
          exact ih count separated
      | bound value =>
          rcases separated with ⟨noDigit, separated⟩
          have digit : ∀ char ∈ Nat.toDigits 10 (count + 1), char.isDigit = true :=
            fun char inside => Nat.isDigit_of_mem_toDigits (by decide) (by decide) inside
          have dollarFree : '$' ∉ Nat.toDigits 10 (count + 1) :=
            fun inside => absurd (digit '$' inside) (by decide)
          have stops : beginsWithDigit (renderFrom (count + 1) rest) = false := by
            rw [beginsWithDigit_renderFrom, noDigit]
          have named : String.ofList ('$' :: Nat.toDigits 10 (count + 1)) =
              "$" ++ Nat.repr (count + 1) := by
            rw [← String.toList_inj, String.toList_append, Nat.repr]
            simp
          rw [renderFrom, List.cons_append, placeholders, if_pos rfl,
            takeWhile_digits_append digit stops, placeholders_append dollarFree,
            ih (count + 1) separated, named, boundValues_bound, List.length_cons,
            List.range'_succ, List.map_cons]

namespace Separated

/-- Separated symbols stay so in front of detached ones. -/
theorem append {first second : List Symbol} (left : Separated first) (right : Detached second) :
    Separated (first ++ second) := by
  induction first with
  | nil => exact right.separated
  | cons symbol rest ih =>
      cases symbol with
      | char char => exact ⟨left.1, ih left.2⟩
      | bound value =>
          refine ⟨?_, ih left.2⟩
          cases rest with
          | nil => exact right.noDigit
          | cons next more => cases next <;> exact left.1

theorem chars_append {text : String} (dollarFree : '$' ∉ text.toList) {rest : List Symbol}
    (separated : Separated rest) : Separated (chars text ++ rest) := by
  simp only [Statement.chars]
  generalize text.toList = chars at dollarFree
  induction chars with
  | nil => exact separated
  | cons char more ih =>
      refine ⟨fun same => dollarFree (same ▸ List.mem_cons_self), ?_⟩
      exact ih fun inside => dollarFree (List.mem_cons_of_mem _ inside)

theorem chars {text : String} (dollarFree : '$' ∉ text.toList) :
    Separated (Statement.chars text) := by
  have alone : Separated (Statement.chars text ++ []) := chars_append dollarFree trivial
  rwa [List.append_nil] at alone

end Separated

namespace Detached

theorem nil : Detached [] where
  separated := trivial
  noDigit := rfl

theorem append {first second : List Symbol} (left : Detached first) (right : Detached second) :
    Detached (first ++ second) where
  separated := left.separated.append right
  noDigit := by
    rcases first with _ | ⟨_ | _, rest⟩
    · exact right.noDigit
    · exact left.noDigit
    · rfl

theorem bound_cons (value : Value) {rest : List Symbol} (detached : Detached rest) :
    Detached (.bound value :: rest) where
  separated := ⟨detached.noDigit, detached.separated⟩
  noDigit := rfl

/-- A gap detaches what follows it. -/
theorem gap_append {text : String} (gap : isGap text = true) {rest : List Symbol}
    (separated : Separated rest) : Detached (chars text ++ rest) := by
  cases letters : text.toList with
  | nil => simp [isGap, letters] at gap
  | cons first more =>
      simp only [isGap, letters, Bool.and_eq_true, Bool.not_eq_true', decide_eq_true_eq] at gap
      rcases gap with ⟨noDigit, dollarFree⟩
      refine ⟨.chars_append (letters ▸ dollarFree) separated, ?_⟩
      simpa [chars, letters, renderFrom, beginsWithDigit] using noDigit

theorem flatMap {α : Type} {image : α → List Symbol} {items : List α}
    (detached : ∀ item ∈ items, Detached (image item)) : Detached (items.flatMap image) := by
  induction items with
  | nil => exact .nil
  | cons item rest ih =>
      rw [List.flatMap_cons]
      exact (detached item List.mem_cons_self).append
        (ih fun other inside => detached other (List.mem_cons_of_mem _ inside))

end Detached

/-- Separated symbols stay so with a gap between them. -/
theorem Separated.intercalate {text : String} (gap : isGap text = true)
    {images : List (List Symbol)} (separated : ∀ image ∈ images, Separated image) :
    Separated ((Statement.chars text).intercalate images) := by
  induction images with
  | nil => trivial
  | cons first rest ih =>
      have one : Separated first := separated first List.mem_cons_self
      have others : Separated ((Statement.chars text).intercalate rest) :=
        ih fun image inside => separated image (List.mem_cons_of_mem _ inside)
      cases rest with
      | nil => simpa using one
      | cons second more =>
          rw [List.intercalate_cons_cons, List.append_assoc]
          exact one.append (.gap_append gap others)

/-- The symbols of a value may stand anywhere. -/
theorem detached_valueSymbols (value : Value) : Detached (valueSymbols value) := by
  have items (values : List Value) : Detached (listSymbols values) := by
    fun_induction listSymbols values with
    | case1 =>
        have word : Detached (chars "NULL" ++ []) :=
          .gap_append (by decide) trivial
        rwa [List.append_nil] at word
    | case2 value => exact .bound_cons value .nil
    | case3 value next rest ih =>
        exact .bound_cons value (.gap_append (by decide) ih.separated)
  cases value with
  | list values => exact items values
  | null | bool | int | float | text | uuid | timestamp | json => exact .bound_cons _ .nil

theorem detached_reference (parameters : OrderedMap String Value) (name : List Char) :
    Detached (tokenImage parameters (.reference name)) := by
  simp only [tokenImage]
  cases parameters.get? (String.ofList name) with
  | none => exact .nil
  | some value => exact detached_valueSymbols value

/-- Characters in front of separated symbols, of which the first decides what all begins
with. -/
theorem separated_cons (first : Char) (more : List Char) (dollarFree : '$' ∉ first :: more)
    {rest : List Symbol} (separated : Separated rest) :
    Separated ((first :: more).map .char ++ rest) ∧
      (first.isDigit = false →
        beginsWithDigit (renderFrom 0 ((first :: more).map .char ++ rest)) = false) := by
  have letters : (first :: more).map Symbol.char = chars (String.ofList (first :: more)) := by
    simp [chars]
  constructor
  · rw [letters]
    exact .chars_append (by simpa using dollarFree) separated
  · intro noDigit
    simpa [renderFrom, beginsWithDigit] using noDigit

/-- An expression without dollar signs has separated symbols, and they begin with a digit
only if it does itself. -/
theorem separated_scan (parameters : OrderedMap String Value) {text : List Char}
    (dollarFree : '$' ∉ text) :
    Separated ((Token.scan text).flatMap (tokenImage parameters)) ∧
      (beginsWithDigit text = false →
        beginsWithDigit
          (renderFrom 0 ((Token.scan text).flatMap (tokenImage parameters))) = false) := by
  fun_induction Token.scan text with
  | case1 => exact ⟨trivial, fun _ => rfl⟩
  | case2 rest found =>
      have closed : Separated [] := trivial
      have read := separated_cons '\'' rest dollarFree closed
      exact ⟨read.1, fun _ => read.2 (by decide)⟩
  | case3 rest quote after found ih =>
      have whole := List.takeWhile_append_dropWhile (p := Token.staysQuoted) (l := rest)
      rw [found] at whole
      have inFront : '$' ∉ '\'' :: (rest.takeWhile Token.staysQuoted ++ [quote]) := by
        intro inside
        apply dollarFree
        rw [← whole]
        grind
      have behind : '$' ∉ after := by
        intro inside
        apply dollarFree
        rw [← whole]
        grind
      have read := separated_cons _ _ inFront (ih behind).1
      exact ⟨read.1, fun _ => read.2 (by decide)⟩
  | case4 rest ih =>
      have behind : '$' ∉ rest := fun inside => dollarFree (by simp [inside])
      have read := separated_cons ':' [':'] (by decide) (ih behind).1
      exact ⟨read.1, fun _ => read.2 (by decide)⟩
  | case5 rest notCast unnamed ih =>
      have behind : '$' ∉ rest := fun inside => dollarFree (by simp [inside])
      have read := separated_cons ':' [] (by decide) (ih behind).1
      exact ⟨read.1, fun _ => read.2 (by decide)⟩
  | case6 rest notCast named ih =>
      have behind : '$' ∉ rest.dropWhile Text.isWordChar :=
        fun inside => dollarFree (List.mem_cons_of_mem _ ((List.dropWhile_sublist _).mem inside))
      rcases ih behind with ⟨separated, noDigit⟩
      -- the name of the reference took every digit, so none is left to begin the rest
      have stops : beginsWithDigit (rest.dropWhile Text.isWordChar) = false := by
        cases left : rest.dropWhile Text.isWordChar with
        | nil => rfl
        | cons char more =>
            have stopped := List.head?_dropWhile_not Text.isWordChar rest
            simp only [left, List.head?_cons] at stopped
            simp_all [beginsWithDigit, Text.isWordChar, Char.isAlphanum]
      have read := (detached_reference parameters (rest.takeWhile Text.isWordChar)).append
        ⟨separated, noDigit stops⟩
      exact ⟨read.separated, fun _ => read.noDigit⟩
  | case7 char rest notQuote notCast notColon ih =>
      have behind : '$' ∉ rest := fun inside => dollarFree (List.mem_cons_of_mem _ inside)
      have alone : '$' ∉ [char] := by
        rw [List.mem_singleton]
        exact fun same => dollarFree (same ▸ List.mem_cons_self)
      have read := separated_cons char [] alone (ih behind).1
      exact ⟨read.1, fun noDigit => read.2 (by simpa [beginsWithDigit] using noDigit)⟩

/-- An expression without dollar signs has separated symbols. -/
theorem separated_expressionImage (parameters : OrderedMap String Value) {text : String}
    (dollarFree : '$' ∉ text.toList) : Separated (expressionImage parameters text) :=
  (separated_scan parameters dollarFree).1

end Statement

namespace Query

open Statement

/-- No text that a query was composed from has a dollar sign. -/
structure DollarFree (query : Query) : Prop where
  table : '$' ∉ query.table.toList
  rootAlias : '$' ∉ query.rootAlias.toList
  selections : ∀ text ∈ query.selections, '$' ∉ text.toList
  joins : ∀ join ∈ query.allJoins, '$' ∉ join.text.toList
  conditions : ∀ text ∈ query.conditions, '$' ∉ text.toList
  orderings : ∀ key ∈ query.orderings, '$' ∉ key.text.toList

theorem separated_selectionsClause {images : List (List Symbol)}
    (separated : ∀ image ∈ images, Separated image) : Separated (selectionsClause images) := by
  cases images with
  | nil => exact .chars (by decide)
  | cons first rest => exact .intercalate (by decide) separated

theorem detached_joinsClause {images : List (List Symbol)}
    (separated : ∀ image ∈ images, Separated image) : Detached (joinsClause images) :=
  .flatMap fun image inside => .gap_append (by decide) (separated image inside)

theorem detached_conditionsClause {images : List (List Symbol)}
    (separated : ∀ image ∈ images, Separated image) : Detached (conditionsClause images) := by
  match images with
  | [] => exact .nil
  | [single] => exact .gap_append (by decide) (separated single List.mem_cons_self)
  | first :: second :: rest =>
      have closing : Detached (chars ")" ++ []) := .gap_append (by decide) trivial
      rw [List.append_nil] at closing
      simp only [conditionsClause]
      rw [List.append_assoc]
      apply Detached.gap_append (by decide)
      exact (Separated.intercalate (by decide) separated).append closing

theorem detached_orderingsClause {keys : List SortKey}
    (dollarFree : ∀ key ∈ keys, '$' ∉ key.text.toList) : Detached (orderingsClause keys) := by
  cases keys with
  | nil => exact .nil
  | cons first rest =>
      apply Detached.gap_append (by decide)
      apply Separated.intercalate (by decide)
      intro image inside
      rcases List.mem_map.1 inside with ⟨key, member, rfl⟩
      exact .chars (dollarFree key member)

theorem detached_boundClause {keyword : String} (gap : isGap keyword = true)
    (number : Option Int64) : Detached (boundClause keyword number) := by
  cases number with
  | none => exact .nil
  | some number => exact .gap_append gap (Detached.bound_cons _ .nil).separated

namespace DollarFree

variable {query : Query}

theorem separated_headSymbols (dollarFree : query.DollarFree) :
    Separated query.headSymbols := by
  have selections : Separated (selectionsClause
      (query.selections.map fun text => chars (selectionText query.aliases text))) := by
    apply separated_selectionsClause
    intro image inside
    rcases List.mem_map.1 inside with ⟨text, member, rfl⟩
    apply Separated.chars
    have clean := dollarFree.selections text member
    simp only [selectionText]
    split
    · simpa using clean
    · exact clean
  simp only [headSymbols, List.append_assoc]
  exact .chars_append (by decide) (selections.append (.gap_append (by decide)
    (.chars_append dollarFree.table (.chars_append (by decide) (.chars dollarFree.rootAlias)))))

theorem detached_tailSymbols (dollarFree : query.DollarFree) : Detached query.tailSymbols :=
  ((detached_orderingsClause dollarFree.orderings).append
    (detached_boundClause (by decide) query.limit)).append
      (detached_boundClause (by decide) query.offset)

/-- The symbols of a statement are separated. -/
theorem separated (dollarFree : query.DollarFree) {statement : Statement}
    (rendered : query.statement = .ok statement) : Separated statement.symbols := by
  have joins : ∀ image ∈ query.joinImages, Separated image := by
    intro image inside
    rcases List.mem_map.1 inside with ⟨join, member, rfl⟩
    exact separated_expressionImage _ (dollarFree.joins join member)
  have conditions : ∀ image ∈ query.conditionImages, Separated image := by
    intro image inside
    rcases List.mem_map.1 inside with ⟨text, member, rfl⟩
    exact separated_expressionImage _ (dollarFree.conditions text member)
  rw [symbols_of_statement rendered, List.append_assoc, List.append_assoc]
  exact dollarFree.separated_headSymbols.append ((detached_joinsClause joins).append
    ((detached_conditionsClause conditions).append dollarFree.detached_tailSymbols))

end DollarFree

/-- The placeholders of a statement are numbered from one without gaps, in the order of
their places, and the values beside the text are those of the references in the joins and
then in the conditions, followed by the limit and the offset.  Every reference has a value;
a list is bound item by item, and an empty one is written as `NULL`. -/
theorem placeholders_aligned {query : Query} {statement : Statement}
    (dollarFree : query.DollarFree) (rendered : query.statement = .ok statement) :
    placeholders statement.sql.toList =
        ((List.range' 1 statement.parameters.length).map fun number =>
          "$" ++ Nat.repr number) ∧
      statement.parameters =
        (query.allJoins.flatMap fun join => referencedValues query.parameters join.text) ++
          query.conditions.flatMap (referencedValues query.parameters) ++
          query.limit.toList.map .int ++ query.offset.toList.map .int ∧
      (∀ name : String,
        (∃ join ∈ query.allJoins, name ∈ Token.references join.text) ∨
          (∃ text ∈ query.conditions, name ∈ Token.references text) →
        (query.parameters.get? name).isSome) ∧
      statement.symbols =
        query.headSymbols ++ joinsClause query.joinImages ++
          conditionsClause query.conditionImages ++ query.tailSymbols ∧
      ∀ name : List Char, query.parameters.get? (String.ofList name) = some (.list []) →
        tokenImage query.parameters (.reference name) = chars "NULL" := by
  refine ⟨?_, parameters_of_statement rendered, fun _ => references_bound rendered,
    symbols_of_statement rendered, ?_⟩
  · rw [sql, String.toList_ofList]
    exact placeholders_renderFrom 0 (dollarFree.separated rendered)
  · intro name empty
    simp only [tokenImage, empty]
    rfl

/-- A page of users that are to be in one of some roles and in one of no teams. -/
def membersPage : Query :=
  { Query.ofTable "users" "u" with
    joins := .ofList [
      ("u", [{ kind := .left, target := "teams", joinAlias := "t"
               condition := some "t.id = u.team AND t.age > :age" }]),
      ("t", [{ kind := .inner, target := "clubs", joinAlias := "c"
               condition := some "c.name = ':age' OR c.role IN (:roles)" }])]
    conditions := ["u.role IN (:roles)", "u.team IN (:teams)", "u.age::text = :age"]
    orderings := [{ expression := "u.age", direction := .descending }]
    parameters := .ofList [
      ("age", .int 7), ("roles", .list [.text "a", .text "b"]), ("teams", .list [])]
    limit := some 10
    offset := some 20 }

theorem placeholders_aligned_membersPage :
    membersPage.DollarFree ∧ ∃ statement, membersPage.statement = .ok statement ∧
      statement.parameters =
        [.int 7, .text "a", .text "b", .text "a", .text "b", .int 7, .int 10, .int 20] ∧
      placeholders statement.sql.toList = ["$1", "$2", "$3", "$4", "$5", "$6", "$7", "$8"] := by
  have dollarFree : membersPage.DollarFree := by
    constructor <;> decide
  have succeeds : membersPage.statement.isOk = true := by decide +kernel
  cases rendered : membersPage.statement with
  | error error => simp [rendered, Except.isOk, Except.toBool] at succeeds
  | ok statement =>
      rcases placeholders_aligned dollarFree rendered with ⟨numbered, values, -⟩
      have bound : statement.parameters =
          [.int 7, .text "a", .text "b", .text "a", .text "b", .int 7, .int 10, .int 20] := by
        rw [values]
        rfl
      refine ⟨dollarFree, statement, rfl, bound, ?_⟩
      rw [numbered, bound]
      rfl

end Query

end CriteriaQuery
