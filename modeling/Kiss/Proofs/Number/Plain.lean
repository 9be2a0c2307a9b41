import Kiss.Proofs.Number.Interval
import Kiss.Proofs.Number.Reading
import Kiss.Proofs.Number.Shortest

/-!
# The text of a number determines the number

A finite number without a sign is written with digits and at most one point, and the decimal that
these denote lies in the interval of this number and of no other (`plain_inj`).
-/

namespace Kiss.Number

open Lexical (IsNumber)

variable {x y : Float}

/-- A number that is neither infinite nor NaN. -/
def IsFinite (x : Float) : Prop :=
  decode x ≠ .nan ∧ ∀ negative, decode x ≠ .infinite negative

instance (x : Float) : Decidable (IsFinite x) :=
  inferInstanceAs (Decidable (_ ∧ _))

/-- A finite number without a sign. -/
def IsMagnitude (x : Float) : Prop :=
  x.toBits.toNat < infinityBits

theorem IsFinite.isMagnitude (finite : IsFinite x) (unsigned : IsUnsigned x) : IsMagnitude x := by
  have unsigned : x.toBits.toNat < 2 ^ 63 := unsigned
  change x.toBits.toNat < 2047 * 2 ^ 52
  by_contra large
  have biased : x.toBits.toNat / Nat.pow 2 52 % Nat.pow 2 11 = 2047 := by
    simp only [Nat.pow_eq]
    omega
  obtain ⟨notNan, notInfinite⟩ := finite
  simp only [decode, biased, if_true] at notNan notInfinite
  split at notNan
  · rename_i noFraction
    exact notInfinite _ (if_pos noFraction)
  · exact notNan rfl

theorem mantissaOf_eq_zero {bits : Nat} (zero : mantissaOf bits = 0) : bits = 0 := by
  simp only [mantissaOf] at zero
  split at zero <;> omega

/-- The text of a number is a number literal, and what it denotes reads back as the number. -/
theorem exists_readDecimal_plain (magnitude : IsMagnitude x) :
    IsNumber (plain x).toList ∧ ∃ digits place,
      readDecimal (plain x).toList = some (digits, place) ∧
      ReadsBackAs x.toBits.toNat (digits * quarters) (10 ^ (-place).toNat) := by
  simp only [plain, decode_of_lt magnitude, signed, String.toList_ofList, Bool.false_eq_true,
    if_false]
  split
  · rename_i zero
    rw [mantissaOf_eq_zero zero]
    refine ⟨.inl (by simp [Lexical.IsRow]), 0, 0, by decide, ?_⟩
    have low : lowEnd 0 = 0 := by decide
    simp [ReadsBackAs, low]
  · rename_i notZero
    have held := holds_shortest .up (Nat.pos_of_ne_zero notZero) (exponentOf x.toBits.toNat)
    obtain ⟨isNumber, read⟩ := readDecimal_positional
      (shortest .up (mantissaOf x.toBits.toNat) (exponentOf x.toBits.toNat))
    have places (place : Int) : (-min 0 place).toNat = (-place).toNat := by omega
    refine ⟨isNumber, _, _, read, ?_⟩
    rw [places]
    exact readsBackAs_of_holds held

/-- Finite numbers without a sign that are written alike are the same. -/
theorem plain_inj (magnitude : IsMagnitude x) (otherMagnitude : IsMagnitude y)
    (same : plain x = plain y) : x = y := by
  obtain ⟨_, digits, place, read, readsBack⟩ := exists_readDecimal_plain magnitude
  obtain ⟨_, _, _, otherRead, otherReadsBack⟩ := exists_readDecimal_plain otherMagnitude
  rw [same, otherRead] at read
  cases read
  have bits := readsBack.unique (Nat.pow_pos (by decide)) otherReadsBack
  exact Float.toBits_inj.mp (UInt64.toNat_inj.mp bits)

end Kiss.Number
