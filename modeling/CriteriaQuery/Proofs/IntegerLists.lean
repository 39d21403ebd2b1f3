import CriteriaQuery.Proofs.Fitting
import CriteriaQuery.Proofs.WireReading

/-!
# Lists of integers

A list of integers and nulls that is bound to an array of numbers arrives as it is, or is
refused because an item is out of the range of the member type.

The receiver reads a header, with the member type, whether there is a null, and the length and
first index of each dimension.  The items follow, each with its length in front, up to the
end of the bytes.
-/

namespace CriteriaQuery

namespace Wire

/-- One dimension of an array as it is announced. -/
structure Dimension where
  count : Nat
  firstIndex : Nat

/-- What an array is read as. -/
structure ReadArray (α : Type) where
  dimensions : List Dimension
  hasNull : Bool
  memberOid : Nat
  items : List (Option α)

/-- What a list of integers and nulls arrives as, with its length and first index in the four
bytes that there are for each. -/
def ReadArray.ofIntegers (member : ScalarType) (firstIndex : Nat)
    (numbers : List (Option Int64)) : ReadArray Int where
  dimensions := [{ count := numbers.length % 256 ^ 4, firstIndex := firstIndex % 256 ^ 4 }]
  hasNull := numbers.any Option.isNone
  memberOid := member.oid
  items := numbers.map (Option.map Int64.toInt)

namespace Reader

variable {α : Type}

/-- Whether there is a null, as a number that is zero or one. -/
def flag : Reader Bool := do
  match ← natural 4 with
  | 0 => return false
  | 1 => return true
  | _ => failure

/-- The number of items of a dimension and the index of the first. -/
def dimension : Reader Dimension := do
  let count ← natural 4
  let firstIndex ← natural 4
  return { count, firstIndex }

/-- An item of an array, from its length and that many bytes.  The length of a null is minus
one. -/
def item (read : Bytes → Option α) : Reader (Option α) := do
  let length ← integer 4
  if length = -1 then return none
  else if length < 0 then failure
  else
    let bytes ← take length.toNat
    match read bytes with
    | some value => return some value
    | none => failure

/-- An array whose items are read one by one. -/
def array (read : Bytes → Option α) : Reader (ReadArray α) := do
  let number ← natural 4
  let hasNull ← flag
  let memberOid ← natural 4
  let dimensions ← times dimension number
  let items ← toEnd (item read)
  return { dimensions, hasNull, memberOid, items }

/-- An integer in the binary form of a built-in type.  An exact number is one if nothing is
behind its decimal point. -/
def integer? : ScalarType → Bytes → Option Int
  | .int2 => (integer 2).whole
  | .int4 => (integer 4).whole
  | .int8 => (integer 8).whole
  | .numeric => fun bytes =>
      (numeric.whole bytes).bind fun number => if number.isInt then some number.num else none
  | _ => fun _ => none

end Reader

theorem itemBytes_ne_nil (encoding : Option Bytes) : itemBytes encoding ≠ [] := by
  intro empty
  have length := congrArg List.length empty
  cases encoding with
  | none => cases length
  | some bytes => simp [itemBytes, length_bigEndian] at length

namespace Reads

variable {α : Type} {bytes : Bytes} {value : α}

theorem flag (set : Bool) : Reads Reader.flag (bigEndian 4 (if set then 1 else 0)) set := by
  cases set with
  | false => exact fun _ => rfl
  | true => exact fun _ => rfl

theorem dimension (count firstIndex : Nat) :
    Reads Reader.dimension (bigEndian 4 count ++ bigEndian 4 firstIndex)
      { count := count % 256 ^ 4, firstIndex := firstIndex % 256 ^ 4 } :=
  bind (natural 4 count) (last (natural 4 firstIndex) (pure _))

theorem item {read : Bytes → Option α} (short : bytes.length < 0x80000000)
    (taken : read bytes = some value) :
    Reads (Reader.item read) (itemBytes (some bytes)) (some value) := by
  have length : Reads (Reader.integer 4) (bigEndian 4 bytes.length) bytes.length := by
    rw [← twosComplement_natCast (by omega)]
    exact integer 4 (by omega) (by omega)
  have content : Reads (Reader.take (bytes.length : Int).toNat) bytes bytes := take bytes
  refine bind length ?_
  rw [if_neg (by omega), if_neg (by omega)]
  refine last content ?_
  rw [taken]
  exact pure (some value)

theorem nullItem (read : Bytes → Option α) :
    Reads (Reader.item read) (itemBytes none) none :=
  last (integer 4 (by decide) (by decide)) (pure none)

/-- An array that was written is read with its header, if its items are. -/
theorem array {read : Bytes → Option α} {member : SqlType} {firstIndex : Nat}
    {encodings : List (Option Bytes)} {values : List (Option α)} (known : member.oid < 256 ^ 4)
    (each : List.Forall₂
      (fun encoding value => Reads (Reader.item read) (itemBytes encoding) value)
      encodings values) :
    Reader.array read (arrayBytes member firstIndex encodings) = some
      ({ dimensions :=
          [{ count := encodings.length % 256 ^ 4, firstIndex := firstIndex % 256 ^ 4 }]
         hasNull := encodings.any Option.isNone
         memberOid := member.oid
         items := values }, []) := by
  have dimensions : Reads (Reader.dimension.times 1)
      (bigEndian 4 encodings.length ++ bigEndian 4 firstIndex) [_] :=
    last (dimension encodings.length firstIndex) (pure _)
  have items : (Reader.item read).toEnd (encodings.flatMap itemBytes) = some (values, []) :=
    toEnd itemBytes_ne_nil each
  simp only [arrayBytes, List.append_assoc]
  rw [← List.append_assoc (bigEndian 4 encodings.length)]
  refine ((natural_of_lt (by decide)).bind_apply _).trans ?_
  refine ((flag _).bind_apply _).trans ?_
  refine ((natural_of_lt known).bind_apply _).trans ?_
  refine (dimensions.bind_apply _).trans ?_
  change ((Reader.item read).toEnd (encodings.flatMap itemBytes)).bind _ = _
  rw [items]
  rfl

end Reads

/-- The built-in types that an integer arrives at as an integer. -/
def ScalarType.IsIntegral (type : ScalarType) : Prop :=
  type ∈ [.int2, .int4, .int8, .numeric]

section Integers

variable {member : ScalarType} (integral : member.IsIntegral)

theorem length_numericBytes_ofInt (number : Int) :
    (numericBytes (Decimal.ofInt number)).length = 2 * (digitGroups number.natAbs).length + 8 := by
  rw [numericBytes_ofInt]
  simp [length_bigEndian, twosComplement, List.length_flatMap]
  omega

include integral

/-- An integer in the range of its type is read back from its bytes, which are few. -/
theorem encodeInt_reads {number : Int64} (admitted : member.admits number.toInt) :
    ∃ bytes, encodeInt number (.scalar member) = encoded bytes ∧ bytes.length < 0x80000000 ∧
      Reader.integer? member bytes = some number.toInt := by
  have low : -2 ^ 63 ≤ number.toInt := number.le_toInt
  have high : number.toInt < 2 ^ 63 := number.toInt_lt
  have length (width : Nat) : (twosComplement width number.toInt).length = width :=
    length_bigEndian _ _
  simp only [ScalarType.IsIntegral, List.mem_cons, List.not_mem_nil, or_false] at integral
  obtain rfl | rfl | rfl | rfl := integral
  · have inRange : -0x8000 ≤ number.toInt ∧ number.toInt < 0x8000 := of_decide_eq_true admitted
    refine ⟨twosComplement 2 number.toInt, if_pos inRange, by rw [length]; decide, ?_⟩
    exact (Reads.integer 2 inRange.1 inRange.2).whole
  · have inRange : -0x80000000 ≤ number.toInt ∧ number.toInt < 0x80000000 :=
      of_decide_eq_true admitted
    refine ⟨twosComplement 4 number.toInt, if_pos inRange, by rw [length]; decide, ?_⟩
    exact (Reads.integer 4 inRange.1 inRange.2).whole
  · refine ⟨twosComplement 8 number.toInt, rfl, by rw [length]; decide, ?_⟩
    exact (Reads.integer 8 low high).whole
  · -- Every integer of 64 bits has at most five groups of four digits.
    have few : (digitGroups number.toInt.natAbs).length ≤ 5 := length_digitGroups_le (by omega)
    have short : (digitGroups number.toInt.natAbs).length < 0x8000 := by omega
    refine ⟨numericBytes (Decimal.ofInt number.toInt), rfl, ?_, ?_⟩
    · rw [length_numericBytes_ofInt]
      omega
    · simp [Reader.integer?, (Reads.numeric_ofInt short).whole, Rat.isInt]

/-- An integer out of the range of its type is refused. -/
theorem encodeInt_refused {number : Int64} (refused : ¬member.admits number.toInt) :
    encodeInt number (.scalar member) = .error .integerRange := by
  simp only [ScalarType.IsIntegral, List.mem_cons, List.not_mem_nil, or_false] at integral
  obtain rfl | rfl | rfl | rfl := integral
  · exact if_neg fun inRange => refused (decide_eq_true inRange)
  · exact if_neg fun inRange => refused (decide_eq_true inRange)
  · exact absurd rfl refused
  · exact absurd rfl refused

end Integers

end Wire

namespace Value

open Wire

/-- An integer, or null. -/
def ofInteger (number : Option Int64) : Value :=
  .ofOption (number.map .int)

section Lists

variable {member : ScalarType} (integral : member.IsIntegral) {numbers : List (Option Int64)}

include integral

/-- Items in the range of the member type are read back one by one, the nulls among them. -/
theorem encodeItems_reads
    (admitted : ∀ number, some number ∈ numbers → member.admits number.toInt) :
    ∃ encodings, encodeItems (.scalar member) (numbers.map ofInteger) = .ok encodings ∧
      encodings.map Option.isNone = numbers.map Option.isNone ∧
      List.Forall₂
        (fun encoding value =>
          Reads (Reader.item (Reader.integer? member)) (itemBytes encoding) value)
        encodings (numbers.map (Option.map Int64.toInt)) := by
  induction numbers with
  | nil => exact ⟨[], rfl, rfl, .nil⟩
  | cons number rest ih =>
      obtain ⟨encodings, encoded, nulls, read⟩ :=
        ih fun other inside => admitted other (List.mem_cons_of_mem _ inside)
      cases number with
      | none =>
          refine ⟨none :: encodings, ?_, congrArg (true :: ·) nulls, .cons (.nullItem _) read⟩
          rw [List.map_cons, encodeItems, encoded]
          rfl
      | some number =>
          obtain ⟨bytes, written, short, taken⟩ :=
            encodeInt_reads integral (admitted number List.mem_cons_self)
          have first : (ofInteger (some number)).encode (.scalar member) = .ok (some bytes) :=
            written
          refine ⟨some bytes :: encodings, ?_, congrArg (false :: ·) nulls,
            .cons (.item short taken) read⟩
          rw [List.map_cons, encodeItems, first, encoded]

/-- An item is encoded or out of the range of the member type. -/
theorem encode_ofInteger (number : Option Int64) :
    (∃ encoding, (ofInteger number).encode (.scalar member) = .ok encoding) ∨
      (ofInteger number).encode (.scalar member) = .error .integerRange := by
  cases number with
  | none => exact .inl ⟨none, rfl⟩
  | some number =>
      by_cases admitted : member.admits number.toInt
      · obtain ⟨bytes, written, -⟩ := encodeInt_reads integral admitted
        exact .inl ⟨some bytes, written⟩
      · exact .inr (encodeInt_refused integral admitted)

/-- An item out of the range of the member type is refused, and with it the list. -/
theorem encodeItems_refused {number : Int64} (inside : some number ∈ numbers)
    (refused : ¬member.admits number.toInt) :
    encodeItems (.scalar member) (numbers.map ofInteger) = .error .integerRange := by
  induction numbers with
  | nil => cases inside
  | cons first rest ih =>
      rw [List.map_cons, encodeItems]
      cases List.mem_cons.1 inside with
      | inl here =>
          have failed : (ofInteger first).encode (.scalar member) = .error .integerRange := by
            rw [← here]
            exact encodeInt_refused integral refused
          rw [failed]
      | inr later =>
          -- An item in front is encoded, or it is refused for the same reason.
          rw [ih later]
          cases encode_ofInteger integral first with
          | inl succeeded =>
              obtain ⟨encoding, encoded⟩ := succeeded
              rw [encoded]
          | inr failed => rw [failed]

variable (name : String) (oid firstIndex : Nat)

/-- A list in the range of the member type arrives in one dimension, with the member type, with a
null announced exactly if there is one, and with the same integers and nulls in the same order. -/
theorem encode_integers_reads
    (admitted : ∀ number, some number ∈ numbers → member.admits number.toInt) :
    ∃ bytes, (Value.list (numbers.map ofInteger)).encode
        (.array name oid firstIndex (.scalar member)) = .ok (some bytes) ∧
      (Reader.array (Reader.integer? member)).whole bytes =
        some (.ofIntegers member firstIndex numbers) := by
  obtain ⟨encodings, items, nulls, read⟩ := encodeItems_reads integral admitted
  refine ⟨arrayBytes (.scalar member) firstIndex encodings, ?_, ?_⟩
  · simp only [encode, items, encoded]
  · have known : (SqlType.scalar member).oid < 256 ^ 4 := by
      cases member <;> decide
    have count : encodings.length = numbers.length := by
      simpa using congrArg List.length nulls
    have null : encodings.any Option.isNone = numbers.any Option.isNone := by
      simpa [Function.comp_def] using congrArg (List.any · id) nulls
    rw [Reader.whole, Reads.array known read, count, null]
    rfl

/-- A list with an integer out of the range of the member type is refused. -/
theorem encode_integers_refused {number : Int64} (inside : some number ∈ numbers)
    (refused : ¬member.admits number.toInt) :
    (Value.list (numbers.map ofInteger)).encode (.array name oid firstIndex (.scalar member)) =
      .error .integerRange := by
  simp only [encode, encodeItems_refused integral inside refused]

/-- There is no other way to fail. -/
theorem encode_integers_eq_error_iff (error : EncodingError) :
    (Value.list (numbers.map ofInteger)).encode (.array name oid firstIndex (.scalar member)) =
        .error error ↔
      error = .integerRange ∧ ∃ number, some number ∈ numbers ∧ ¬member.admits number.toInt := by
  by_cases outside : ∃ number, some number ∈ numbers ∧ ¬member.admits number.toInt
  · obtain ⟨number, inside, refused⟩ := outside
    rw [encode_integers_refused integral name oid firstIndex inside refused]
    constructor
    · intro same
      exact ⟨(Except.error.inj same).symm, number, inside, refused⟩
    · intro same
      rw [same.1]
  · have admitted (number : Int64) (inside : some number ∈ numbers) :
        member.admits number.toInt := by
      by_contra refused
      exact outside ⟨number, inside, refused⟩
    obtain ⟨bytes, written, -⟩ := encode_integers_reads integral name oid firstIndex admitted
    rw [written]
    constructor
    · intro impossible
      cases impossible
    · intro same
      exact absurd same.2 outside

end Lists

/-- A list of integers and nulls that is bound to an array of numbers is refused if an integer is
out of the range of the member type, and only then, so never for the two widest types.  Otherwise
it is read back as it was. -/
theorem encode_integers_exact {member : ScalarType} (integral : member.IsIntegral) (name : String)
    (oid firstIndex : Nat) (numbers : List (Option Int64)) :
    let encoding := (Value.list (numbers.map ofInteger)).encode
      (.array name oid firstIndex (.scalar member))
    (∀ error, encoding = .error error ↔
        error = .integerRange ∧ ∃ number, some number ∈ numbers ∧ ¬member.admits number.toInt) ∧
      (member = .int8 ∨ member = .numeric → ∃ encoded, encoding = .ok encoded) ∧
      ∀ encoded, encoding = .ok encoded → ∃ bytes, encoded = some bytes ∧
        (Reader.array (Reader.integer? member)).whole bytes =
          some (.ofIntegers member firstIndex numbers) := by
  intro encoding
  refine ⟨encode_integers_eq_error_iff integral name oid firstIndex, ?_, ?_⟩
  · intro wide
    have admitted (number : Int64) (_ : some number ∈ numbers) : member.admits number.toInt := by
      obtain rfl | rfl := wide <;> rfl
    obtain ⟨bytes, written, -⟩ := encode_integers_reads integral name oid firstIndex admitted
    exact ⟨some bytes, written⟩
  · intro encoded succeeded
    have admitted (number : Int64) (inside : some number ∈ numbers) :
        member.admits number.toInt := by
      by_contra refused
      have failed := encode_integers_refused integral name oid firstIndex inside refused
      cases failed.symm.trans succeeded
    obtain ⟨bytes, written, read⟩ := encode_integers_reads integral name oid firstIndex admitted
    exact ⟨bytes, Except.ok.inj (succeeded.symm.trans written), read⟩

theorem encode_integers_exact_leastAndMost :
    let numbers : List (Option Int64) :=
      [some (-9223372036854775808), none, some 0, some 200000000, some 9223372036854775807]
    ScalarType.numeric.IsIntegral ∧
      (∃ bytes, (Value.list (numbers.map ofInteger)).encode
          (.array "_numeric" 1231 1 (.scalar .numeric)) = .ok (some bytes) ∧
        (Reader.array (Reader.integer? .numeric)).whole bytes = some
          { dimensions := [{ count := 5, firstIndex := 1 }]
            hasNull := true
            memberOid := 1700
            items :=
              [some (-9223372036854775808), none, some 0, some 200000000,
                some 9223372036854775807] }) ∧
      (Value.list (numbers.map ofInteger)).encode (.array "_int4" 1007 1 (.scalar .int4)) =
        .error .integerRange := by
  intro numbers
  have numeric : ScalarType.numeric.IsIntegral := by
    simp [ScalarType.IsIntegral]
  have int4 : ScalarType.int4.IsIntegral := by
    simp [ScalarType.IsIntegral]
  obtain ⟨-, wide, reads⟩ := encode_integers_exact numeric "_numeric" 1231 1 numbers
  obtain ⟨encoded, succeeded⟩ := wide (.inr rfl)
  obtain ⟨bytes, rfl, read⟩ := reads encoded succeeded
  obtain ⟨errors, -, -⟩ := encode_integers_exact int4 "_int4" 1007 1 numbers
  have outside : ¬ScalarType.int4.admits (-9223372036854775808 : Int64).toInt := by decide
  refine ⟨numeric, ⟨bytes, succeeded, read⟩, (errors _).2 ⟨rfl, _, ?_, outside⟩⟩
  exact List.mem_cons_self

end Value

end CriteriaQuery
