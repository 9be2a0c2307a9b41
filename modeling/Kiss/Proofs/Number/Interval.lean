import Mathlib
import Kiss.Number.Shortest

/-!
# The intervals of the numbers

Numbers are ordered as the bits they are made of, and the interval of reals that read back as a
number ends where the interval of the next number begins (`high_end_eq`). An end belongs to the
interval of the even neighbour only, so no real reads back as two numbers. Everything is counted in
quarters of the least positive number, which all ends are multiples of.
-/

namespace Kiss.Number

variable {bits other : Nat}

/-- The mantissa of the number that is made of the given bits. -/
def mantissaOf (bits : Nat) : Nat :=
  if bits / 2 ^ 52 = 0 then bits else 2 ^ 52 + bits % 2 ^ 52

/-- The exponent of the number that is made of the given bits. -/
def exponentOf (bits : Nat) : Int :=
  if bits / 2 ^ 52 = 0 then minExponent else (bits / 2 ^ 52 : Nat) + minExponent - 1

theorem decode_of_lt {x : Float} (finite : x.toBits.toNat < infinityBits) :
    decode x = .finite false (mantissaOf x.toBits.toNat) (exponentOf x.toBits.toNat) := by
  have finite : x.toBits.toNat < 2047 * 2 ^ 52 := finite
  have positive : x.toBits.toNat / 2 ^ 63 = 0 := by omega
  have within : x.toBits.toNat / 2 ^ 52 % 2 ^ 11 = x.toBits.toNat / 2 ^ 52 := by omega
  have notLast : x.toBits.toNat / 2 ^ 52 ≠ 2047 := by omega
  simp only [decode, Nat.pow_eq, positive, within, notLast, if_false, mantissaOf, exponentOf]
  split
  · rename_i small
    rw [Nat.mod_eq_of_lt (by omega)]
    rfl
  · rfl

/-- The reals that read back as the number that is made of the given bits. -/
def intervalOf (bits : Nat) : ReadBack :=
  readBack (mantissaOf bits) (exponentOf bits)

/-- How many quarters of the least positive number the unit of an interval is. -/
def unitOf (bits : Nat) : Nat :=
  2 ^ (exponentOf bits - minExponent).toNat

/-- The lower end of the interval of a number. -/
def lowEnd (bits : Nat) : Nat :=
  (intervalOf bits).low * unitOf bits

theorem unitOf_eq (bits : Nat) : unitOf bits = 2 ^ (bits / 2 ^ 52 - 1) := by
  unfold unitOf exponentOf
  congr 1
  split <;> omega

/-- The low end inside a binade. -/
theorem lowEnd_of_ne (inside : bits % 2 ^ 52 ≠ 0 ∨ bits / 2 ^ 52 ≤ 1) :
    lowEnd bits = (4 * mantissaOf bits - 2) * unitOf bits := by
  have noEdge : ¬(mantissaOf bits = Nat.pow 2 52 ∧ minExponent < exponentOf bits) := by
    simp only [mantissaOf, exponentOf, Nat.pow_eq]
    split <;> omega
  simp only [lowEnd, intervalOf, readBack, noEdge, if_false]

/-- The low end at the edge of a binade, where the numbers below lie twice as close. -/
theorem lowEnd_of_eq (edge : bits % 2 ^ 52 = 0) (later : 1 < bits / 2 ^ 52) :
    lowEnd bits = (4 * mantissaOf bits - 1) * unitOf bits := by
  have isEdge : mantissaOf bits = Nat.pow 2 52 ∧ minExponent < exponentOf bits := by
    simp only [mantissaOf, exponentOf, Nat.pow_eq]
    split <;> omega
  simp only [lowEnd, intervalOf, readBack, isEdge, and_self, if_true]

/-- An interval ends where the next one begins, in the same binade and where one binade goes over
    into the next. -/
theorem high_end_eq (bits : Nat) :
    (intervalOf bits).high * unitOf bits = lowEnd (bits + 1) := by
  change (4 * mantissaOf bits + 2) * unitOf bits = _
  by_cases within : bits % 2 ^ 52 + 1 < 2 ^ 52
  · -- the next number is in the same binade
    have binade : (bits + 1) / 2 ^ 52 = bits / 2 ^ 52 := by omega
    have next : mantissaOf (bits + 1) = mantissaOf bits + 1 := by
      simp only [mantissaOf]
      split <;> split <;> omega
    rw [lowEnd_of_ne (by omega), next, unitOf_eq, unitOf_eq, binade]
    congr 1
  · have binade : (bits + 1) / 2 ^ 52 = bits / 2 ^ 52 + 1 := by omega
    have edge : (bits + 1) % 2 ^ 52 = 0 := by omega
    rcases Nat.eq_zero_or_pos (bits / 2 ^ 52) with first | later
    · -- the first two binades have the same unit
      have last : mantissaOf bits + 1 = mantissaOf (bits + 1) := by
        simp only [mantissaOf]
        split <;> split <;> omega
      rw [lowEnd_of_ne (by omega), ← last, unitOf_eq, unitOf_eq, binade, first]
      congr 1
    · -- every later binade has a unit twice as large as the one before
      obtain ⟨k, place⟩ := Nat.exists_eq_add_of_lt later
      have last : mantissaOf bits = 2 ^ 53 - 1 := by
        simp only [mantissaOf]
        split <;> omega
      have next : mantissaOf (bits + 1) = 2 ^ 52 := by
        simp only [mantissaOf]
        split <;> omega
      have doubled : 2 ^ (bits / 2 ^ 52 + 1 - 1) = 2 * 2 ^ (bits / 2 ^ 52 - 1) := by
        rw [place, Nat.zero_add, Nat.add_sub_cancel, Nat.add_sub_cancel, Nat.pow_succ']
      rw [lowEnd_of_eq edge (by omega), last, next, unitOf_eq, unitOf_eq, binade, doubled]
      omega

theorem lowEnd_lt_succ (bits : Nat) : lowEnd bits < lowEnd (bits + 1) := by
  have smaller : (intervalOf bits).low < (intervalOf bits).high := by
    simp only [intervalOf, readBack]
    split <;> omega
  rw [← high_end_eq]
  exact Nat.mul_lt_mul_of_pos_right smaller (Nat.pow_pos (by decide))

theorem lowEnd_strictMono : StrictMono lowEnd :=
  strictMono_nat_of_lt_succ lowEnd_lt_succ

/-- A ratio of natural numbers reads back as the number that is made of the given bits. -/
def ReadsBackAs (bits numerator denominator : Nat) : Prop :=
  if bits % 2 = 0 then
    lowEnd bits * denominator ≤ numerator ∧ numerator ≤ lowEnd (bits + 1) * denominator
  else lowEnd bits * denominator < numerator ∧ numerator < lowEnd (bits + 1) * denominator

/-- No ratio reads back as two numbers. -/
theorem ReadsBackAs.unique {numerator denominator : Nat} (positive : 0 < denominator)
    (first : ReadsBackAs bits numerator denominator)
    (second : ReadsBackAs other numerator denominator) : bits = other := by
  wlog smaller : bits < other generalizing bits other
  · rcases Nat.lt_trichotomy bits other with below | same | above
    · exact absurd below smaller
    · exact same
    · exact (this second first above).symm
  · -- the two intervals have at most an end in common, and one of them leaves it out
    have ends : lowEnd (bits + 1) * denominator ≤ lowEnd other * denominator :=
      Nat.mul_le_mul_right _ (lowEnd_strictMono.monotone smaller)
    have apart : bits + 1 < other → lowEnd (bits + 1) * denominator < lowEnd other * denominator :=
      fun gap => Nat.mul_lt_mul_of_pos_right (lowEnd_strictMono gap) positive
    unfold ReadsBackAs at first second
    split at first <;> split at second <;> omega

/-- How many quarters of the least positive number make one. -/
def quarters : Nat :=
  2 ^ (2 - minExponent).toNat

theorem minExponent_le_exponentOf (bits : Nat) : minExponent ≤ exponentOf bits := by
  unfold exponentOf
  split <;> omega

theorem closed_intervalOf (bits : Nat) : (intervalOf bits).closed = (bits % 2 == 0) := by
  have parity : mantissaOf bits % 2 = bits % 2 := by
    simp only [mantissaOf]
    split <;> omega
  simp only [intervalOf, readBack, parity]

/-- Counts in two units compare as their numbers of quarters. -/
theorem le_iff_of_scaled {a b c d unit scale : Nat} (unitPos : 0 < unit) (scalePos : 0 < scale)
    (left : a * unit = c * scale) (right : b * unit = d * scale) : a ≤ b ↔ c ≤ d := by
  rw [← Nat.mul_le_mul_right_iff unitPos, left, right, Nat.mul_le_mul_right_iff scalePos]

/-- A decimal that lies in the interval of a number reads back as that number: the interval is given
    in its own unit, and both sides of its comparisons are brought to quarters. -/
theorem readsBackAs_of_holds {digits : Nat} {place : Int}
    (held : (intervalOf bits).holds place digits = true) :
    ReadsBackAs bits (digits * 10 ^ place.toNat * quarters) (10 ^ (-place).toNat) := by
  have least : minExponent ≤ exponentOf bits := minExponent_le_exponentOf bits
  have scalePos : 0 < 2 ^ (intervalOf bits).scale.toNat := Nat.pow_pos (by decide)
  have unitPos : 0 < unitOf bits := Nat.pow_pos (by decide)
  have powers : 2 ^ (-(intervalOf bits).scale).toNat * unitOf bits =
      quarters * 2 ^ (intervalOf bits).scale.toNat := by
    simp only [unitOf, quarters, ← Nat.pow_add, intervalOf, readBack, minExponent] at *
    congr 1
    omega
  have decimal : digits * (intervalOf bits).decimalUnit place * unitOf bits =
      digits * 10 ^ place.toNat * quarters * 2 ^ (intervalOf bits).scale.toNat := by
    simp only [ReadBack.decimalUnit, Nat.pow_eq]
    rw [Nat.mul_assoc, Nat.mul_assoc (10 ^ _), powers]
    ring
  have binary (count : Nat) : count * (intervalOf bits).binaryUnit place * unitOf bits =
      count * unitOf bits * 10 ^ (-place).toNat * 2 ^ (intervalOf bits).scale.toNat := by
    simp only [ReadBack.binaryUnit, Nat.pow_eq]
    ring
  have above (count : Nat) := le_iff_of_scaled unitPos scalePos (binary count) decimal
  have below (count : Nat) := le_iff_of_scaled unitPos scalePos decimal (binary count)
  have parity : bits % 2 = 0 ↔ (intervalOf bits).closed = true := by simp [closed_intervalOf]
  rw [ReadsBackAs, ← high_end_eq, lowEnd]
  simp only [ReadBack.holds] at held
  by_cases even : bits % 2 = 0
  · rw [if_pos (parity.mp even), Bool.and_eq_true, decide_eq_true_iff, decide_eq_true_iff,
      above, below] at held
    rwa [if_pos even]
  · rw [if_neg (mt parity.mpr even), Bool.and_eq_true, decide_eq_true_iff, decide_eq_true_iff,
      ← Nat.not_le, ← Nat.not_le, above, below, Nat.not_le, Nat.not_le] at held
    rwa [if_neg even]

end Kiss.Number
