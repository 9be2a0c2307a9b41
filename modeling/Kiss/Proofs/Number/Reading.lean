import Mathlib
import Kiss.Number.Text
import Kiss.Proofs.Lexical.Spelling
import Kiss.Proofs.Number.Digits

/-!
# What number literals denote

Digits with a point between two of them or none are always read, as their value without the point
and a power of ten for the places behind it. The digits that are written for a decimal are such a
text, and they are read as this decimal.
-/

namespace Kiss.Number

open Lexical (IsNumber IsRow)

variable {whole part : List Char}

theorem readDecimal_row (row : IsRow Char.isDigit whole) :
    readDecimal whole = some (digitsValue 10 whole, 0) := by
  have taken : whole.takeWhile Char.isDigit = whole :=
    List.takeWhile_eq_self_iff.mpr row.2
  have left : whole.dropWhile Char.isDigit = [] :=
    List.dropWhile_eq_nil_iff.mpr row.2
  simp [readDecimal, taken, left, row.1, readExponent]

theorem readDecimal_point (row : IsRow Char.isDigit whole) (partRow : IsRow Char.isDigit part) :
    readDecimal (whole ++ '.' :: part) =
      some (digitsValue 10 (whole ++ part), -(part.length : Int)) := by
  have point : Char.isDigit '.' = false := by decide
  have taken : part.takeWhile Char.isDigit = part := List.takeWhile_eq_self_iff.mpr partRow.2
  have left : part.dropWhile Char.isDigit = [] := List.dropWhile_eq_nil_iff.mpr partRow.2
  simp [readDecimal, List.takeWhile_append_of_pos row.2, List.dropWhile_append_of_pos row.2, point,
    taken, left, row.1, readExponent]

theorem isRow_decimalDigits (n : Nat) : IsRow Char.isDigit (decimalDigits n) :=
  ⟨Nat.toDigits_ne_nil, fun _ => Nat.isDigit_of_mem_toDigits (by decide) (by decide)⟩

theorem digitsValue_decimalDigits (n : Nat) : digitsValue 10 (decimalDigits n) = n :=
  digitsValue_toDigits (by decide) (by decide) n

/-- A decimal is written as the digits it is read from: a row of them if it is whole, and otherwise
    two rows with a point between them. -/
theorem readDecimal_positional (decimal : Decimal) :
    IsNumber (positional [] decimal) ∧
      readDecimal (positional [] decimal) =
        some (decimal.digits * 10 ^ decimal.exponent.toNat, min 0 decimal.exponent) := by
  obtain ⟨n, exponent⟩ := decimal
  have row := isRow_decimalDigits n
  have value := digitsValue_decimalDigits n
  have zeros (count : Nat) : ∀ c ∈ List.replicate count '0', c.isDigit = true :=
    fun c member => by rw [List.eq_of_mem_replicate member]; rfl
  simp only [positional]
  split
  · rename_i whole
    have digits : IsRow Char.isDigit (decimalDigits n ++ List.replicate exponent.toNat '0') :=
      ⟨by simp [row.1], List.forall_mem_append.mpr ⟨row.2, zeros _⟩⟩
    rw [List.append_nil, readDecimal_row digits, digitsValue_append_zeros, value,
      Int.min_eq_left whole]
    exact ⟨.inl digits, rfl⟩
  · rename_i fractional
    have noZeros : exponent.toNat = 0 := by omega
    have least : min 0 exponent = exponent := by omega
    rw [noZeros, least, Nat.pow_zero, Nat.mul_one]
    split
    · rename_i inside
      generalize place : ((decimalDigits n).length + exponent).toNat = point
      have before : IsRow Char.isDigit ((decimalDigits n).take point) :=
        ⟨by simp [row.1]; omega, fun c member => row.2 c (List.mem_of_mem_take member)⟩
      have behind : IsRow Char.isDigit ((decimalDigits n).drop point) :=
        ⟨by simp; omega, fun c member => row.2 c (List.mem_of_mem_drop member)⟩
      have places : -((decimalDigits n).drop point).length = exponent := by
        rw [List.length_drop]
        omega
      rw [readDecimal_point before behind, List.take_append_drop, value, places]
      exact ⟨.inr ⟨_, _, rfl, before, behind⟩, rfl⟩
    · rename_i small
      generalize place : (-((decimalDigits n).length + exponent)).toNat = count
      have before : IsRow Char.isDigit ['0'] := by simp [IsRow]
      have behind : IsRow Char.isDigit (List.replicate count '0' ++ decimalDigits n) :=
        ⟨by simp [row.1], List.forall_mem_append.mpr ⟨zeros _, row.2⟩⟩
      have places : -(List.replicate count '0' ++ decimalDigits n).length = exponent := by
        rw [List.length_append, List.length_replicate]
        omega
      have written :
          digitsValue 10 (['0'] ++ (List.replicate count '0' ++ decimalDigits n)) = n := by
        rw [← List.append_assoc]
        exact (digitsValue_zeros_append 10 (count + 1) (decimalDigits n)).trans value
      have read := readDecimal_point before behind
      rw [written, places] at read
      exact ⟨.inr ⟨['0'], _, rfl, before, behind⟩, read⟩

/-- A number without a sign: the sign bit is not set. -/
def IsUnsigned (x : Float) : Prop :=
  x.toBits.toNat < 2 ^ 63

/-- Going through the bits keeps a number without a sign so; what is not a number has one form. -/
theorem isUnsigned_ofBits {bits : UInt64} (noSign : bits.toNat < 2 ^ 63) :
    IsUnsigned (Float.ofBits bits) := by
  have packed : (Float.ofBits bits).toBits.toBitVec = Float.Model.UnpackedFloat.pack
      .binary64 (Float.Model.UnpackedFloat.unpack .binary64 bits.toBitVec) := rfl
  rw [IsUnsigned, ← UInt64.toNat_toBitVec, packed, Float.Model.UnpackedFloat.pack_unpack]
  split
  · decide
  · exact noSign

theorem isUnsigned_assemble {magnitude : Nat} (least : magnitude ≤ infinityBits) :
    IsUnsigned (assemble false magnitude) := by
  have least : magnitude ≤ 2047 * 2 ^ 52 := least
  refine isUnsigned_ofBits ?_
  rw [if_neg Bool.false_ne_true, UInt64.toNat_ofNat']
  omega

theorem nearestBits_le (numerator denominator : Nat) :
    nearestBits numerator denominator ≤ infinityBits := by
  simp only [nearestBits]
  split
  · exact Nat.zero_le _
  · exact Nat.min_le_left _ _

theorem isUnsigned_ofDecimal (digits : Nat) (exponent : Int) :
    IsUnsigned (ofDecimal false digits exponent) := by
  simp only [ofDecimal]
  split
  · exact isUnsigned_assemble (Nat.zero_le _)
  · split
    · exact isUnsigned_assemble (Nat.le_refl _)
    · exact isUnsigned_assemble (nearestBits_le _ _)

theorem isUnsigned_ofInt {n : Int} (notNegative : 0 ≤ n) : IsUnsigned (ofInt n) := by
  rw [ofInt, decide_eq_false (by omega)]
  exact isUnsigned_assemble (nearestBits_le _ _)

/-- A text that begins with a digit, of whatever kind, has no sign to be split off. -/
theorem splitSign_eq {isDigit : Char → Bool} {text : List Char}
    (front : ∀ c ∈ text.head?, isDigit c = true) (minus : isDigit '-' = false)
    (plus : isDigit '+' = false) : splitSign text = (false, text) := by
  unfold splitSign
  split
  · exact absurd (front '-' rfl) (by simp [minus])
  · exact absurd (front '+' rfl) (by simp [plus])
  · rfl

/-- Every decimal literal denotes a number, without a sign. -/
theorem exists_read?_of_isNumber {text : String} (isNumber : IsNumber text.toList) :
    ∃ x, read? text = some x ∧ IsUnsigned x := by
  obtain ⟨digits, exponent, read⟩ :
      ∃ digits exponent, readDecimal text.toList = some (digits, exponent) := by
    rcases isNumber with row | ⟨whole, part, written, row, partRow⟩
    · exact ⟨_, _, readDecimal_row row⟩
    · exact ⟨_, _, written ▸ readDecimal_point row partRow⟩
  have front : ∀ c ∈ text.toList.head?, c.isDigit = true := by
    intro c first
    obtain ⟨others, written⟩ := List.head?_eq_some_iff.mp first
    exact isNumber.front written
  refine ⟨_, ?_, isUnsigned_ofDecimal digits exponent⟩
  simp [read?, splitSign_eq front rfl rfl, read]

end Kiss.Number
