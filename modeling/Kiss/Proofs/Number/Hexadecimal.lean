import Mathlib
import Kiss.Proofs.Number.Reading

/-!
# What hexadecimal literals denote

A row of hexadecimal digits has a value to the base 16, of whatever length it is: digits of either
case count the same, and zeros in front count nothing. It is read as this value if that fits a
signed 64-bit word, and otherwise not at all.
-/

namespace Kiss.Number

open Lexical (IsRow)

/-- The value of a hexadecimal digit of either case: its place among the sixteen. -/
def hexDigitValue (c : Char) : Nat :=
  "0123456789abcdef".toList.idxOf c.toLower

/-- The value of hexadecimal digits to the base 16, the last of which counts least. -/
def hexValue (text : String) : Nat :=
  Nat.ofDigits 16 (text.toList.reverse.map hexDigitValue)

theorem toNat_lt_of_isHexDigit {c : Char} (digit : isHexDigit c = true) : c.toNat < 103 := by
  simp only [isHexDigit, Char.isDigit, Bool.or_eq_true, Bool.and_eq_true, decide_eq_true_eq,
    Char.le_def, UInt32.le_iff_toNat_le] at digit
  show c.val.toNat < 103
  rcases digit with (⟨_, most⟩ | ⟨_, most⟩) | ⟨_, most⟩
  · exact Nat.lt_of_le_of_lt most (by decide)
  · exact Nat.lt_of_le_of_lt most (by decide)
  · exact Nat.lt_of_le_of_lt most (by decide)

theorem digitValue_eq_hexDigitValue {c : Char} (digit : isHexDigit c = true) :
    digitValue c = hexDigitValue c := by
  have all : ∀ n < 103, isHexDigit (Char.ofNat n) = true →
      digitValue (Char.ofNat n) = hexDigitValue (Char.ofNat n) := by decide
  have same := all c.toNat (toNat_lt_of_isHexDigit digit)
  rw [Char.ofNat_toNat] at same
  exact same digit

/-- Adding up from the front comes to the same as adding up from the back. -/
theorem digitsValue_eq_ofDigits {digits : List Char}
    (areDigits : ∀ c ∈ digits, isHexDigit c = true) :
    digitsValue 16 digits = Nat.ofDigits 16 (digits.reverse.map hexDigitValue) := by
  induction digits using List.reverseRecOn with
  | nil => rfl
  | append_singleton digits c ih =>
      obtain ⟨ofDigits, ofLast⟩ := List.forall_mem_append.mp areDigits
      have last : isHexDigit c = true := ofLast c (List.mem_singleton_self c)
      rw [digitsValue_append_singleton, ih ofDigits, digitValue_eq_hexDigitValue last,
        List.reverse_append, List.reverse_singleton, List.singleton_append, List.map_cons,
        Nat.ofDigits_cons, Nat.add_comm]

/-- A row of hexadecimal digits is read as its value, just if that is below 2⁶³. -/
theorem readHex?_row {text : String} (row : IsRow isHexDigit text.toList) :
    readHex? text = if hexValue text < 2 ^ 63 then some (hexValue text : Int) else none := by
  have front : ∀ c ∈ text.toList.head?, isHexDigit c = true := fun c first =>
    row.2 c (List.mem_of_mem_head? first)
  have areDigits : text.toList.all isHexDigit = true := List.all_eq_true.mpr row.2
  have magnitude : readInteger 16 isHexDigit text.toList = some (hexValue text : Int) := by
    simp only [readInteger, splitSign_eq front rfl rfl]
    rw [List.isEmpty_eq_false_iff.mpr row.1, areDigits, digitsValue_eq_ofDigits row.2]
    rfl
  have limit : Int.pow 2 63 = ((2 ^ 63 : Nat) : Int) := by decide
  rw [readHex?, magnitude, Option.filter_some, limit]
  refine if_congr ?_ rfl rfl
  simp only [Bool.and_eq_true, decide_eq_true_eq]
  omega

example : hexValue "00fF" = 255 ∧ readHex? "00fF" = some 255 := by decide

theorem readHex?_eq_none {text : String} (row : IsRow isHexDigit text.toList) :
    readHex? text = none ↔ 2 ^ 63 ≤ hexValue text := by
  rw [readHex?_row row]
  by_cases fits : hexValue text < 2 ^ 63
  · rw [if_pos fits]
    exact iff_of_false (Option.some_ne_none _) (Nat.not_le.mpr fits)
  · rw [if_neg fits]
    exact iff_of_true rfl (Nat.not_lt.mp fits)

theorem readHex?_eq_some {text : String} {n : Int} (row : IsRow isHexDigit text.toList) :
    readHex? text = some n ↔ hexValue text < 2 ^ 63 ∧ n = hexValue text := by
  rw [readHex?_row row]
  by_cases fits : hexValue text < 2 ^ 63
  · rw [if_pos fits, Option.some.injEq, eq_comm]
    exact (and_iff_right fits).symm
  · rw [if_neg fits]
    exact iff_of_false (Option.some_ne_none _).symm fun both => fits both.1

end Kiss.Number
