import Mathlib.Tactic.SplitIfs
import Kiss.Proofs.Number.Digits
import Kiss.Text.Quoted

/-!
# What quoted text shows

Between double quotes no character is lost: `firstQuoted?` reads the character back that stands
at the front, whatever comes behind it. So a quoted text determines the text it shows and ends at
its own closing quote, and it stays on one line.
-/

namespace Kiss.Text

variable {c d : Char} {cs ds rest more : List Char}

/-- The character that is shown at the front of a text, as between double quotes, and what comes
    behind it. -/
def firstQuoted? : List Char → Option (Char × List Char)
  | [] => none
  | '\\' :: '0' :: rest => some ('\x00', rest)
  | '\\' :: 't' :: rest => some ('\t', rest)
  | '\\' :: 'n' :: rest => some ('\n', rest)
  | '\\' :: 'r' :: rest => some ('\r', rest)
  | '\\' :: 'u' :: '\x7b' :: rest =>
      let digits := rest.takeWhile Number.isHexDigit
      some (.ofNat (Number.digitsValue 16 digits), (rest.dropWhile Number.isHexDigit).tail)
  | '\\' :: c :: rest => some (c, rest)
  | c :: rest => some (c, rest)

theorem firstQuoted?_numbered (c : Char) (rest : List Char) :
    firstQuoted? (numbered c ++ rest) = some (c, rest) := by
  have written : numbered c ++ rest =
      '\\' :: 'u' :: '\x7b' :: (Nat.toDigits 16 c.toNat ++ '\x7d' :: rest) := by simp [numbered]
  have digits : ∀ d ∈ Nat.toDigits 16 c.toNat, Number.isHexDigit d = true :=
    fun d => Number.isHexDigit_of_mem_toDigits
  have closing : Number.isHexDigit '\x7d' = false := by decide
  rw [written]
  simp [firstQuoted?, List.takeWhile_append_of_pos digits, List.dropWhile_append_of_pos digits,
    closing, Number.digitsValue_toDigits]

/-- What is shown is read back. -/
theorem firstQuoted?_quoteChar (c : Char) (rest : List Char) :
    firstQuoted? (quoteChar '"' c ++ rest) = some (c, rest) := by
  unfold quoteChar
  split_ifs with escaped nul tab newline carriage hidden
  · rcases escaped with rfl | rfl <;> rfl
  · subst nul; rfl
  · subst tab; rfl
  · subst newline; rfl
  · subst carriage; rfl
  · exact firstQuoted?_numbered c rest
  · simp only [not_or] at escaped
    simp [firstQuoted?, escaped.2]

theorem eq_of_quoteChar_append (same : quoteChar '"' c ++ rest = quoteChar '"' d ++ more) :
    c = d ∧ rest = more := by
  have read := firstQuoted?_quoteChar c rest
  rw [same, firstQuoted?_quoteChar, Option.some.injEq, Prod.mk.injEq] at read
  exact ⟨read.1.symm, read.2.symm⟩

/-- No character is shown as a closing quote. -/
theorem quoteChar_append_ne (c : Char) (rest more : List Char) :
    quoteChar '"' c ++ rest ≠ '"' :: more := by
  unfold quoteChar
  split_ifs with escaped <;> simp_all [numbered]

theorem newline_notMem_quoteChar (c : Char) : '\n' ∉ quoteChar '"' c := by
  have noDigit : '\n' ∉ Nat.toDigits 16 c.toNat := fun member =>
    absurd (Number.isHexDigit_of_mem_toDigits member) (by decide)
  by_cases newline : c = '\n'
  · subst newline
    decide
  · unfold quoteChar
    split_ifs <;> simp [numbered, noDigit, Ne.symm newline]

/-- A quoted text ends at its own closing quote and determines the text that it shows. -/
theorem eq_of_flatMap_quoteChar
    (same : cs.flatMap (quoteChar '"') ++ '"' :: rest = ds.flatMap (quoteChar '"') ++ '"' :: more) :
    cs = ds ∧ rest = more := by
  induction cs generalizing ds with
  | nil =>
      cases ds with
      | nil => simpa using same
      | cons d ds =>
          rw [List.flatMap_cons, List.append_assoc] at same
          exact absurd same.symm (quoteChar_append_ne d _ rest)
  | cons c cs ih =>
      rw [List.flatMap_cons, List.append_assoc] at same
      cases ds with
      | nil => exact absurd same (quoteChar_append_ne c _ more)
      | cons d ds =>
          rw [List.flatMap_cons, List.append_assoc] at same
          obtain ⟨rfl, others⟩ := eq_of_quoteChar_append same
          obtain ⟨rfl, rfl⟩ := ih others
          exact ⟨rfl, rfl⟩

theorem toList_quoted (text : String) :
    (quoted text).toList = '"' :: (text.toList.flatMap (quoteChar '"') ++ ['"']) := by
  simp [quoted]

/-- Quoting is injective, whatever comes behind. -/
theorem eq_of_quoted_append {text other : String}
    (same : (quoted text).toList ++ rest = (quoted other).toList ++ more) :
    text = other ∧ rest = more := by
  rw [toList_quoted, toList_quoted] at same
  obtain ⟨texts, rfl⟩ := eq_of_flatMap_quoteChar (by simpa using same)
  exact ⟨String.toList_inj.mp texts, rfl⟩

/-- A quoted text stays on one line. -/
theorem newline_notMem_quoted (text : String) : '\n' ∉ (quoted text).toList := by
  simp [toList_quoted, newline_notMem_quoteChar]

example : (quoted "a\n\"").toList = ['"', 'a', '\\', 'n', '\\', '"', '"'] := by
  decide

end Kiss.Text
