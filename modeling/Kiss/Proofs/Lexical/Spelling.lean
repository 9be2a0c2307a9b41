import Kiss.Token.Lexer

/-!
# How tokens are written

The lexical grammar: which characters write which token, and what may stand between two
tokens. Nothing here says how a text is searched. A text has many prefixes that write a token;
`IsLongest` picks the one that counts.
-/

namespace Kiss

theorem Keyword.lexeme_ne_nil (k : Keyword) : k.lexeme.toList ≠ [] := by
  cases k <;> simp [Keyword.lexeme]

theorem Symbol.lexeme_ne_nil (s : Symbol) : s.lexeme.toList ≠ [] := by
  cases s <;> simp [Symbol.lexeme]

namespace Lexical

open Lexer (isWordStart isWordPart)

/-- One or more characters of a class. -/
def IsRow (p : Char → Bool) (cs : List Char) : Prop :=
  cs ≠ [] ∧ ∀ c ∈ cs, p c = true

/-- Digits, with a point between two of them or none. -/
def IsNumber (cs : List Char) : Prop :=
  IsRow Char.isDigit cs ∨
    ∃ whole part, cs = whole ++ '.' :: part ∧ IsRow Char.isDigit whole ∧ IsRow Char.isDigit part

/-- Characters that form a word, which may be a keyword. -/
def IsWord : List Char → Prop
  | [] => False
  | c :: others => isWordStart c = true ∧ ∀ d ∈ others, isWordPart d = true

/-- What stands between the quotes of a string literal, and the text that it denotes. The
    backslash hides the character behind it; only four of them have a meaning of their own,
    and in front of any other the backslash stays in the text. -/
inductive Unquotes : List Char → List Char → Prop where
  | nil : Unquotes [] []
  | plain {c : Char} {written meant : List Char} (noQuote : c ≠ '"') (noBackslash : c ≠ '\\')
      (others : Unquotes written meant) : Unquotes (c :: written) (c :: meant)
  | newline {written meant : List Char} (others : Unquotes written meant) :
      Unquotes ('\\' :: 'n' :: written) ('\n' :: meant)
  | tab {written meant : List Char} (others : Unquotes written meant) :
      Unquotes ('\\' :: 't' :: written) ('\t' :: meant)
  | backslash {written meant : List Char} (others : Unquotes written meant) :
      Unquotes ('\\' :: '\\' :: written) ('\\' :: meant)
  | quote {written meant : List Char} (others : Unquotes written meant) :
      Unquotes ('\\' :: '"' :: written) ('"' :: meant)
  | unknown {c : Char} {written meant : List Char} (noMeaning : c ∉ ['n', 't', '\\', '"'])
      (others : Unquotes written meant) :
      Unquotes ('\\' :: c :: written) ('\\' :: c :: meant)

/-- The characters that write a token of a kind and a value. -/
inductive Spells : TokenKind → String → List Char → Prop where
  | keyword (k : Keyword) : Spells (.keyword k) k.lexeme k.lexeme.toList
  | symbol (s : Symbol) : Spells (.symbol s) s.lexeme s.lexeme.toList
  | number {cs : List Char} (isNumber : IsNumber cs) : Spells .number (String.ofList cs) cs
  | hexNumber {digits : List Char} (areDigits : IsRow Number.isHexDigit digits) :
      Spells .hexNumber (String.ofList digits) ('#' :: digits)
  | word {cs : List Char} (isWord : IsWord cs)
      (noKeyword : ∀ k : Keyword, k.lexeme ≠ String.ofList cs) :
      Spells .word (String.ofList cs) cs
  | text {written meant : List Char} (unquotes : Unquotes written meant) :
      Spells .text (String.ofList meant) ('"' :: written ++ ['"'])

/-- White space and comments in front of a text. A comment to the end of the line runs up to
    the newline or to the end of the text; the other kind ends at the first place where it
    can. -/
inductive Gap : List Char → List Char → Prop where
  | none {rest : List Char} : Gap [] rest
  | blank {c : Char} {others rest : List Char} (isBlank : Character.isWhiteSpace c = true)
      (gap : Gap others rest) : Gap (c :: others) rest
  | lineComment {comment others rest : List Char} (oneLine : '\n' ∉ comment)
      (ends : ∀ c ∈ (others ++ rest).head?, c = '\n') (gap : Gap others rest) :
      Gap ('/' :: '/' :: comment ++ others) rest
  | blockComment {comment others rest : List Char} (noEnd : ¬['*', '/'] <:+: comment)
      (gap : Gap others rest) :
      Gap ('/' :: '*' :: comment ++ '*' :: '/' :: others) rest

/-- No other token in front of the same text is longer. -/
def IsLongest (spelling rest : List Char) : Prop :=
  ∀ kind value other, Spells kind value other → other <+: spelling ++ rest →
    other.length ≤ spelling.length

/-- A slash is not the beginning of a comment. -/
def OpensNoComment (spelling rest : List Char) : Prop :=
  spelling = ['/'] → ∀ c ∈ rest.head?, c ≠ '/' ∧ c ≠ '*'

variable {kind : TokenKind} {value : String} {spelling : List Char}

/-- The end of the input is not written. -/
theorem Spells.kind_ne_endOfInput (spells : Spells kind value spelling) :
    kind ≠ .endOfInput := by
  cases spells <;> simp

theorem IsNumber.ne_nil {cs : List Char} (isNumber : IsNumber cs) : cs ≠ [] := by
  rcases isNumber with row | ⟨whole, part, rfl, _⟩
  · exact row.1
  · simp

/-- A number begins with a digit. -/
theorem IsNumber.front {c : Char} {cs others : List Char} (isNumber : IsNumber cs)
    (front : cs = c :: others) : c.isDigit = true := by
  rcases isNumber with row | ⟨whole, part, rfl, row, _⟩
  · exact row.2 c (by simp [front])
  · obtain ⟨d, more, rfl⟩ := List.exists_cons_of_ne_nil row.1
    cases front
    exact row.2 c (by simp)

theorem IsWord.ne_nil {cs : List Char} (isWord : IsWord cs) : cs ≠ [] := by
  rintro rfl
  exact isWord

/-- Every token is written with at least one character. -/
theorem Spells.ne_nil (spells : Spells kind value spelling) : spelling ≠ [] := by
  cases spells with
  | keyword k => exact k.lexeme_ne_nil
  | symbol s => exact s.lexeme_ne_nil
  | number isNumber => exact isNumber.ne_nil
  | word isWord => exact isWord.ne_nil
  | hexNumber | text => simp

end Lexical

end Kiss
