import Kiss.Number.Shortest

/-!
# The shortest digits read back

Whatever the search for the fewest digits finds lies in the interval it was to lie in. On a
coarser grid that is tested; on the last grid the number is itself a multiple, and it lies between
the ends of its interval.
-/

namespace Kiss.Number

namespace ReadBack

variable {r : ReadBack} {tie : TieRule} {place : Int} {digits : Nat}

/-- The number lies strictly between the ends of its interval. -/
structure IsProper (r : ReadBack) : Prop where
  low_lt : r.low < r.value
  lt_high : r.value < r.high

theorem nearer_eq (r : ReadBack) (tie : TieRule) (place : Int) (below : Nat) :
    r.nearer tie place below = below ∨ r.nearer tie place below = below + 1 := by
  simp only [nearer]
  split
  · exact .inl rfl
  · split
    · exact .inr rfl
    · cases tie with
      | up => exact .inr rfl
      | toEven =>
          rcases Nat.mod_two_eq_zero_or_one below with even | odd
          · exact .inl (by simp [even])
          · exact .inr (by simp [odd])

/-- What a grid has to offer reads back. -/
theorem holds_of_onGrid (found : r.onGrid tie place = some digits) :
    r.holds place digits = true := by
  simp only [onGrid] at found
  split at found
  · rename_i below above
    cases found
    rcases r.nearer_eq tie place (r.value * r.binaryUnit place / r.decimalUnit place) with
      nearer | nearer
    · rwa [nearer]
    · rwa [nearer]
  · rename_i below _
    cases found
    exact below
  · rename_i _ above
    cases found
    exact above
  · cases found

theorem binaryUnit_pos (r : ReadBack) (place : Int) : 0 < r.binaryUnit place :=
  Nat.mul_pos (Nat.pow_pos (by decide)) (Nat.pow_pos (by decide))

/-- On the last grid every multiple of the binary unit is a multiple of the decimal one. -/
theorem decimalUnit_dvd_binaryUnit (r : ReadBack) :
    r.decimalUnit (min 0 r.scale) ∣ r.binaryUnit (min 0 r.scale) := by
  have whole : (min 0 r.scale).toNat = 0 := by omega
  have same : (-min 0 r.scale).toNat = (-r.scale).toNat := by omega
  unfold decimalUnit binaryUnit
  rw [whole, same]
  have divides : 2 ^ (-r.scale).toNat ∣ 10 ^ (-r.scale).toNat := ⟨_, Nat.mul_pow 2 5 _⟩
  simpa using Nat.dvd_mul_right_of_dvd divides _

/-- On the last grid the number itself is found. -/
theorem holds_last (proper : r.IsProper) :
    r.holds (min 0 r.scale)
      (r.value * r.binaryUnit (min 0 r.scale) / r.decimalUnit (min 0 r.scale)) = true := by
  have exact : r.value * r.binaryUnit (min 0 r.scale) / r.decimalUnit (min 0 r.scale) *
      r.decimalUnit (min 0 r.scale) = r.value * r.binaryUnit (min 0 r.scale) :=
    Nat.div_mul_cancel (Nat.dvd_mul_left_of_dvd r.decimalUnit_dvd_binaryUnit r.value)
  have low := Nat.mul_lt_mul_of_pos_right proper.low_lt (r.binaryUnit_pos (min 0 r.scale))
  have high := Nat.mul_lt_mul_of_pos_right proper.lt_high (r.binaryUnit_pos (min 0 r.scale))
  simp [holds, exact, low, high, Nat.le_of_lt]

/-- A search that goes down to the last grid ends with a decimal that reads back. -/
theorem holds_search (proper : r.IsProper) {steps : Nat} (last : place - steps = min 0 r.scale) :
    r.holds (r.search tie steps place).exponent (r.search tie steps place).digits = true := by
  induction steps generalizing place with
  | zero =>
      obtain rfl : place = min 0 r.scale := by omega
      exact holds_last proper
  | succ steps ih =>
      rw [search]
      split
      · rename_i digits found
        exact holds_of_onGrid found
      · exact ih (by omega)

theorem min_scale_le_coarsest (r : ReadBack) : min 0 r.scale ≤ r.coarsest := by
  have order : (0 : Int) ≤ r.high.log2 := Int.natCast_nonneg _
  unfold coarsest
  omega

end ReadBack

variable {mantissa : Nat}

theorem isProper_readBack (positive : 0 < mantissa) (exponent : Int) :
    (readBack mantissa exponent).IsProper where
  low_lt := by
    simp only [readBack]
    split <;> omega
  lt_high := by
    simp only [readBack]
    omega

/-- The shortest digits of a positive number read back as the number. -/
theorem holds_shortest (tie : TieRule) (positive : 0 < mantissa) (exponent : Int) :
    (readBack mantissa exponent).holds (shortest tie mantissa exponent).exponent
      (shortest tie mantissa exponent).digits = true := by
  have least := (readBack mantissa exponent).min_scale_le_coarsest
  exact ReadBack.holds_search (isProper_readBack positive exponent) (by omega)

end Kiss.Number
