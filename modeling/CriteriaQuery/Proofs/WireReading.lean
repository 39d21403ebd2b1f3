import Mathlib.Algebra.Field.Rat
import Mathlib.Data.List.Forall2
import CriteriaQuery.Wire.Encoding

/-!
# Reading the wire

What the receiver of a parameter makes of its bytes.  A reader takes what it reads off the
front; numbers are in network order, and an exact number is put together from its groups of
four digits, its weight and its sign.

Each law names the bytes that a value is read from, whatever comes behind them.  Numbers that
fit their width are read back, and so is an integer that was written as an exact number.
-/

namespace CriteriaQuery.Wire

/-- The number that bytes stand for, the most significant byte first. -/
def natOf (bytes : Bytes) : Nat :=
  bytes.foldl (fun number byte => 256 * number + byte.toNat) 0

/-- The number that bytes stand for in two's complement: of all numbers that leave them as their
lowest bytes, the one next to zero. -/
def intOf (bytes : Bytes) : Int :=
  Int.bmod (natOf bytes) (256 ^ bytes.length)

/-- The number that groups of four digits stand for, the most significant group first. -/
def groupsValue (groups : List Nat) : Nat :=
  groups.foldl (fun number group => 10000 * number + group) 0

/-- The magnitude of an exact number whose first group counts as that power of ten thousand. -/
def magnitude (weight : Int) (groups : List Nat) : Rat :=
  let shift := weight + 1 - groups.length
  groupsValue groups * 10000 ^ shift.toNat / 10000 ^ (-shift).toNat

/-- A reader takes a value off the front of the bytes, or fails. -/
abbrev Reader := StateT Bytes Option

namespace Reader

/-- Take that many bytes. -/
def take (width : Nat) : Reader Bytes := fun bytes =>
  if width ≤ bytes.length then some (bytes.take width, bytes.drop width) else none

/-- A number without a sign. -/
def natural (width : Nat) : Reader Nat :=
  natOf <$> take width

/-- A number in two's complement. -/
def integer (width : Nat) : Reader Int :=
  intOf <$> take width

/-- The same thing that many times. -/
def times {α : Type} (reader : Reader α) : Nat → Reader (List α)
  | 0 => return []
  | count + 1 => do
      let first ← reader
      let others ← times reader count
      return first :: others

/-- The same thing until the bytes end, at most that many times. -/
def upTo {α : Type} (reader : Reader α) : Nat → Bytes → Option (List α)
  | _, [] => some []
  | 0, _ :: _ => none
  | count + 1, bytes => do
      let (first, rest) ← reader bytes
      let others ← upTo reader count rest
      return first :: others

/-- The same thing until the bytes end. -/
def toEnd {α : Type} (reader : Reader α) : Reader (List α) := fun bytes =>
  (upTo reader bytes.length bytes).map fun values => (values, [])

/-- What all of the bytes are read as. -/
def whole {α : Type} (reader : Reader α) (bytes : Bytes) : Option α :=
  match reader bytes with
  | some (value, []) => some value
  | _ => none

/-- The sign of an exact number, true if it is negative.  Other words stand for what is no
number. -/
def sign : Reader Bool := do
  match ← natural 2 with
  | 0 => return false
  | 0x4000 => return true
  | _ => failure

/-- An exact number: the number of groups, the weight of the first one as a power of ten
thousand, the sign, the number of fractional digits, and the groups.  The digits of the groups
must not go beyond the fractional digits. -/
def numeric : Reader Rat := do
  let count ← natural 2
  let weight ← integer 2
  let negative ← sign
  let scale ← natural 2
  let groups ← times (natural 2) count
  if (∀ group ∈ groups, group < 10000) ∧ (magnitude weight groups * 10 ^ scale).isInt then
    return if negative then -magnitude weight groups else magnitude weight groups
  else failure

end Reader

/-- A reader takes exactly these bytes for the value, whatever comes behind them. -/
def Reads {α : Type} (reader : Reader α) (bytes : Bytes) (value : α) : Prop :=
  ∀ rest, reader (bytes ++ rest) = some (value, rest)

section Numbers

theorem natOf_append_singleton (bytes : Bytes) (byte : UInt8) :
    natOf (bytes ++ [byte]) = 256 * natOf bytes + byte.toNat := by
  rw [natOf, List.foldl_append]
  rfl

theorem natOf_bigEndian (width number : Nat) :
    natOf (bigEndian width number) = number % 256 ^ width := by
  induction width generalizing number with
  | zero => rw [Nat.pow_zero, Nat.mod_one]; rfl
  | succ width ih =>
      have lowest : (UInt8.ofNat number).toNat = number % 256 := UInt8.toNat_ofNat'
      rw [bigEndian, natOf_append_singleton, ih, lowest, Nat.pow_succ', Nat.mod_mul, Nat.add_comm]

theorem intOf_bigEndian (width number : Nat) :
    intOf (bigEndian width number) = Int.bmod number (256 ^ width) := by
  rw [intOf, natOf_bigEndian, length_bigEndian, Int.natCast_emod, Int.emod_bmod]

/-- Two's complement keeps of a number its remainder, which stands for the number next to
zero. -/
theorem intOf_twosComplement (width : Nat) (number : Int) :
    intOf (twosComplement width number) = number.bmod (256 ^ width) := by
  have modulus : Nat.pow 2 (8 * width) = 256 ^ width := Nat.pow_mul 2 8 width
  have positive : (0 : Int) < (256 ^ width : Nat) := Int.natCast_pos.2 (Nat.pow_pos (by decide))
  rw [twosComplement, intOf_bigEndian, modulus, Int.ofNat_eq_natCast,
    Int.toNat_of_nonneg (Int.emod_nonneg _ positive.ne'), Int.emod_bmod]

theorem twosComplement_natCast {width number : Nat} (fits : number < 256 ^ width) :
    twosComplement width number = bigEndian width number := by
  have modulus : Nat.pow 2 (8 * width) = 256 ^ width := Nat.pow_mul 2 8 width
  rw [twosComplement, modulus, Int.ofNat_eq_natCast, ← Int.natCast_emod, Nat.mod_eq_of_lt fits,
    Int.toNat_natCast]

theorem groupsValue_append_singleton (groups : List Nat) (group : Nat) :
    groupsValue (groups ++ [group]) = 10000 * groupsValue groups + group := by
  rw [groupsValue, List.foldl_append]
  rfl

/-- The groups of a number stand for it. -/
theorem groupsValue_digitGroups (number : Nat) : groupsValue (digitGroups number) = number := by
  fun_induction digitGroups number with
  | case1 => rfl
  | case2 number positive ih => rw [groupsValue_append_singleton, ih, Nat.div_add_mod]

theorem lt_of_mem_digitGroups {number group : Nat} (inside : group ∈ digitGroups number) :
    group < 10000 := by
  fun_induction digitGroups number with
  | case1 => cases inside
  | case2 number positive ih =>
      cases List.mem_append.1 inside with
      | inl earlier => exact ih earlier
      | inr last =>
          rw [List.mem_singleton.1 last]
          exact Nat.mod_lt _ (by decide)

theorem digitGroups_eq_nil_iff {number : Nat} : digitGroups number = [] ↔ number = 0 := by
  rw [digitGroups]
  by_cases zero : number = 0 <;> simp [zero]

theorem length_digitGroups_le {number count : Nat} (small : number < 10000 ^ count) :
    (digitGroups number).length ≤ count := by
  induction count generalizing number with
  | zero =>
      have zero : number = 0 := Nat.lt_one_iff.1 small
      rw [digitGroups_eq_nil_iff.2 zero]
      exact Nat.zero_le _
  | succ count ih =>
      rw [digitGroups]
      by_cases zero : number = 0
      · rw [if_pos zero]
        exact Nat.zero_le _
      · have shorter := ih (Nat.div_lt_of_lt_mul (by rwa [Nat.pow_succ'] at small))
        rw [if_neg zero, List.length_append]
        exact Nat.succ_le_succ shorter

/-- The weight of groups that end at the decimal point; no groups have the weight zero. -/
def integralWeight (groups : List Nat) : Nat :=
  groups.length - 1

/-- Groups that end at the decimal point are sent as they are. -/
theorem sentGroups_integralWeight {groups : List Nat} (nonempty : groups ≠ []) :
    sentGroups groups (integralWeight groups) = groups := by
  have all : integralWeight groups + 1 = groups.length :=
    Nat.sub_add_cancel (List.length_pos_iff.2 nonempty)
  simp [sentGroups, all, dropTrailingZeros]

/-- The groups of an integer are all sent. -/
theorem numericBytes_ofInt (number : Int) :
    let groups := digitGroups number.natAbs
    numericBytes (Decimal.ofInt number) =
      bigEndian 2 groups.length ++ twosComplement 2 (integralWeight groups) ++
        bigEndian 2 (if decide (number < 0) then 0x4000 else 0) ++ bigEndian 2 0 ++
        groups.flatMap (bigEndian 2) := by
  intro groups
  by_cases zero : number = 0
  · have none : groups = [] := digitGroups_eq_nil_iff.2 (Int.natAbs_eq_zero.2 zero)
    rw [none, zero]
    rfl
  · have nonzero : number.natAbs ≠ 0 := Int.natAbs_ne_zero.2 zero
    have nonempty : groups ≠ [] := mt digitGroups_eq_nil_iff.1 nonzero
    have aligned : alignedCoefficient (Decimal.ofInt number) = number.natAbs := by
      simp [alignedCoefficient, Decimal.ofInt]
    have weight : Int.ofNat groups.length - Int.ofNat (fractionGroups (Decimal.ofInt number)) - 1 =
        integralWeight groups := by
      have counted := List.length_pos_iff.2 nonempty
      simp only [fractionGroups, Decimal.ofInt, integralWeight, Int.ofNat_eq_natCast]
      omega
    have coefficient : (Decimal.ofInt number).coefficient ≠ 0 := nonzero
    simp only [numericBytes, if_neg coefficient, aligned]
    rw [weight, sentGroups_integralWeight nonempty]
    rfl

/-- Groups that end at the decimal point stand for an integer. -/
theorem magnitude_integralWeight (groups : List Nat) :
    magnitude (integralWeight groups) groups = groupsValue groups := by
  cases groups with
  | nil => simp [magnitude, groupsValue]
  | cons first others => simp [magnitude, integralWeight]

end Numbers

theorem length_le_length_flatMap {β : Type} {write : β → Bytes}
    (nonempty : ∀ item, write item ≠ []) (written : List β) :
    written.length ≤ (written.flatMap write).length := by
  induction written with
  | nil => exact Nat.zero_le _
  | cons item rest ih =>
      have taken := List.length_pos_iff.2 (nonempty item)
      rw [List.flatMap_cons, List.length_append, List.length_cons]
      omega

namespace Reads

variable {α β : Type} {reader : Reader α} {bytes : Bytes} {value : α}

theorem pure (value : α) : Reads (return value) [] value := fun _ => rfl

/-- A step takes its bytes and leaves those behind them to the next. -/
theorem bind_apply {next : α → Reader β} {front : Bytes} (first : Reads reader front value)
    (back : Bytes) : (reader >>= next) (front ++ back) = next value back := by
  change (reader (front ++ back)).bind (fun state => next state.1 state.2) = _
  rw [first back]
  rfl

theorem bind {next : α → Reader β} {front back : Bytes} {result : β}
    (first : Reads reader front value) (second : Reads (next value) back result) :
    Reads (reader >>= next) (front ++ back) result := by
  intro rest
  rw [List.append_assoc, first.bind_apply]
  exact second rest

/-- A step after which there are no more bytes to take. -/
theorem last {next : α → Reader β} {result : β} (first : Reads reader bytes value)
    (second : Reads (next value) [] result) : Reads (reader >>= next) bytes result := by
  have joined := first.bind second
  rwa [List.append_nil] at joined

theorem map (image : α → β) (read : Reads reader bytes value) :
    Reads (image <$> reader) bytes (image value) := by
  intro rest
  change (reader (bytes ++ rest)).bind (fun state => some (image state.1, state.2)) = _
  rw [read rest]
  rfl

theorem take (bytes : Bytes) : Reads (Reader.take bytes.length) bytes bytes := by
  intro rest
  simp [Reader.take]

theorem natural (width number : Nat) :
    Reads (Reader.natural width) (bigEndian width number) (number % 256 ^ width) := by
  have read := (take (bigEndian width number)).map natOf
  rw [length_bigEndian, natOf_bigEndian] at read
  exact read

theorem natural_of_lt {width number : Nat} (fits : number < 256 ^ width) :
    Reads (Reader.natural width) (bigEndian width number) number := by
  have read := natural width number
  rw [Nat.mod_eq_of_lt fits] at read
  exact read

/-- Numbers in the range of the width are read back. -/
theorem integer (width : Nat) {number : Int} (low : -(256 ^ width / 2 : Nat) ≤ number)
    (high : number < (256 ^ width / 2 : Nat)) :
    Reads (Reader.integer width) (twosComplement width number) number := by
  have length : (twosComplement width number).length = width := length_bigEndian _ _
  have read := (take (twosComplement width number)).map intOf
  rw [length, intOf_twosComplement, Int.bmod_eq_of_le (by omega) (by omega)] at read
  exact read

theorem times {write : α → Bytes} {values : List α}
    (each : ∀ value ∈ values, Reads reader (write value) value) :
    Reads (reader.times values.length) (values.flatMap write) values := by
  induction values with
  | nil => exact pure []
  | cons first others ih =>
      have remaining := ih fun value inside => each value (List.mem_cons_of_mem _ inside)
      refine bind (each first List.mem_cons_self) ?_
      exact remaining.map (first :: ·)

theorem upTo_step (nonempty : bytes ≠ []) (read : Reads reader bytes value) (rest : Bytes)
    (count : Nat) :
    reader.upTo (count + 1) (bytes ++ rest) = (reader.upTo count rest).map (value :: ·) := by
  obtain ⟨byte, others, rfl⟩ := List.exists_cons_of_ne_nil nonempty
  change (reader (byte :: others ++ rest)).bind (fun state =>
    (reader.upTo count state.2).bind fun values => some (state.1 :: values)) = _
  rw [read rest]
  exact (Option.map_eq_bind ..).symm

/-- Items are read one after the other up to the end, each from its own bytes. -/
theorem toEnd {write : β → Bytes} (nonempty : ∀ item, write item ≠ []) {written : List β}
    {values : List α}
    (each : List.Forall₂ (fun item value => Reads reader (write item) value) written values) :
    reader.toEnd (written.flatMap write) = some (values, []) := by
  have enough (count : Nat) (many : written.length ≤ count) :
      reader.upTo count (written.flatMap write) = some values := by
    induction each generalizing count with
    | nil => cases count <;> rfl
    | @cons item value written values read others ih =>
        cases count with
        | zero => cases many
        | succ count =>
            rw [List.flatMap_cons, upTo_step (nonempty item) read,
              ih count (Nat.le_of_succ_le_succ many)]
            rfl
  rw [Reader.toEnd, enough _ (length_le_length_flatMap nonempty written)]
  rfl

theorem sign (negative : Bool) :
    Reads Reader.sign (bigEndian 2 (if negative then 0x4000 else 0)) negative := by
  cases negative with
  | false => exact fun _ => rfl
  | true => exact fun _ => rfl

/-- An exact number in its parts. -/
theorem numeric {weight : Int} {negative : Bool} {scale : Nat} {groups : List Nat}
    (count : groups.length < 0x8000) (low : -0x8000 ≤ weight) (high : weight < 0x8000)
    (digits : scale < 0x10000) (each : ∀ group ∈ groups, group < 10000)
    (exact : (magnitude weight groups * 10 ^ scale).isInt) :
    Reads Reader.numeric
      (bigEndian 2 groups.length ++ twosComplement 2 weight ++
        bigEndian 2 (if negative then 0x4000 else 0) ++ bigEndian 2 scale ++
        groups.flatMap (bigEndian 2))
      (if negative then -magnitude weight groups else magnitude weight groups) := by
  have content : Reads ((Reader.natural 2).times groups.length) (groups.flatMap (bigEndian 2))
      groups := by
    apply times
    intro group inside
    have small := each group inside
    exact natural_of_lt (by omega)
  simp only [List.append_assoc]
  refine bind (natural_of_lt (by omega)) ?_
  refine bind (integer 2 (by omega) (by omega)) ?_
  refine bind (sign negative) ?_
  refine bind (natural_of_lt (by omega)) ?_
  refine last content ?_
  rw [if_pos ⟨each, exact⟩]
  exact pure _

-- Groups behind the decimal point count as well.
example : Reader.numeric.whole [0, 2, 0, 0, 0x40, 0, 0, 2, 0, 123, 17, 148] =
    some (-12345 / 100) := by
  decide +kernel

/-- An integer that was written as an exact number is read back. -/
theorem numeric_ofInt {number : Int} (short : (digitGroups number.natAbs).length < 0x8000) :
    Reads Reader.numeric (numericBytes (Decimal.ofInt number)) number := by
  let groups := digitGroups number.natAbs
  have value : magnitude (integralWeight groups) groups = number.natAbs := by
    rw [magnitude_integralWeight, groupsValue_digitGroups]
  have bounded : integralWeight groups < 0x8000 := Nat.lt_of_le_of_lt (Nat.sub_le _ _) short
  have integral : (magnitude (integralWeight groups) groups * 10 ^ 0).isInt := by
    rw [value]
    simp [Rat.isInt]
  have signed : (if decide (number < 0) then -(number.natAbs : Rat) else number.natAbs) =
      number := by
    by_cases negative : number < 0
    · have absolute : (number.natAbs : Int) = -number := by omega
      rw [decide_eq_true negative, if_pos rfl, ← Int.cast_natCast, absolute, Int.cast_neg,
        neg_neg]
    · have absolute : (number.natAbs : Int) = number := by omega
      rw [decide_eq_false negative, if_neg Bool.false_ne_true, ← Int.cast_natCast, absolute]
  have read := @numeric _ (decide (number < 0)) 0 groups short (by omega) (by omega) (by decide)
    (fun _ => lt_of_mem_digitGroups) integral
  rw [value, signed] at read
  rw [numericBytes_ofInt]
  exact read

theorem whole (read : Reads reader bytes value) : reader.whole bytes = some value := by
  have alone := read []
  rw [List.append_nil] at alone
  rw [Reader.whole, alone]

end Reads

end CriteriaQuery.Wire
