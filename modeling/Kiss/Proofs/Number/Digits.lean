import Mathlib
import Kiss.Number.Literal

/-!
# Digits written and read

The digits that are written for a natural number are read as that number, in decimal and in
hexadecimal.
-/

namespace Kiss.Number

variable {base : Nat}

theorem digitsValue_append_singleton (base : Nat) (digits : List Char) (c : Char) :
    digitsValue base (digits ++ [c]) = base * digitsValue base digits + digitValue c := by
  simp [digitsValue]

theorem digitValue_digitChar {n : Nat} (small : n < 16) : digitValue n.digitChar = n := by
  have all : ∀ n < 16, digitValue (Nat.digitChar n) = n := by decide
  exact all n small

theorem isHexDigit_digitChar {n : Nat} (small : n < 16) : isHexDigit n.digitChar = true := by
  have all : ∀ n < 16, isHexDigit (Nat.digitChar n) = true := by decide
  exact all n small

/-- What is written is read. -/
theorem digitsValue_toDigits (least : 1 < base) (most : base ≤ 16) (n : Nat) :
    digitsValue base (Nat.toDigits base n) = n := by
  induction n using Nat.strongRecOn with
  | ind n ih =>
      rcases Nat.lt_or_ge n base with small | large
      · rw [Nat.toDigits_of_lt_base small]
        simp [digitsValue, digitValue_digitChar (Nat.lt_of_lt_of_le small most)]
      · have last : n % base < base := Nat.mod_lt n (by omega)
        rw [Nat.toDigits_of_base_le least large, digitsValue_append_singleton,
          ih (n / base) (Nat.div_lt_self (by omega) least),
          digitValue_digitChar (Nat.lt_of_lt_of_le last most), Nat.div_add_mod]

theorem isHexDigit_of_mem_toDigits {n : Nat} {c : Char} (member : c ∈ Nat.toDigits 16 n) :
    isHexDigit c = true := by
  induction n using Nat.strongRecOn with
  | ind n ih =>
      rcases Nat.lt_or_ge n 16 with small | large
      · rw [Nat.toDigits_of_lt_base small, List.mem_singleton] at member
        exact member ▸ isHexDigit_digitChar small
      · rw [Nat.toDigits_of_base_le (by decide) large, List.mem_append,
          List.mem_singleton] at member
        rcases member with member | rfl
        · exact ih (n / 16) (by omega) member
        · exact isHexDigit_digitChar (Nat.mod_lt n (by decide))

/-- Zeros in front count nothing. -/
theorem digitsValue_zeros_append (base count : Nat) (digits : List Char) :
    digitsValue base (List.replicate count '0' ++ digits) = digitsValue base digits := by
  induction count with
  | zero => rfl
  | succ count ih => simpa [List.replicate_succ, digitsValue, digitValue] using ih

/-- Each zero at the end multiplies by the base. -/
theorem digitsValue_append_zeros (base count : Nat) (digits : List Char) :
    digitsValue base (digits ++ List.replicate count '0') =
      digitsValue base digits * base ^ count := by
  induction count with
  | zero => simp
  | succ count ih =>
      rw [List.replicate_succ', ← List.append_assoc, digitsValue_append_singleton, ih,
        Nat.pow_succ']
      simp [digitValue, Nat.mul_left_comm]

end Kiss.Number
