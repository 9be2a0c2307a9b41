import Kiss.Character.Alphabetic
import Kiss.Character.Numeric
import Kiss.Character.WhiteSpace
import Kiss.Number.Literal
import Kiss.Text.Quoted
import Kiss.Token.Basic

/-!
# From characters to tokens

A source text is read from its start: white space and comments are skipped, then one token
is taken, as long as possible, and so on to the end. Every step returns what it has taken
beside what is left, so that the position of a token is that of the text before it.
`skipTrivia_length` and `scan_length` say that no step gives characters back and that every
token takes at least one.
-/

namespace Kiss

/-- Why a text cannot be cut into tokens. -/
inductive LexCause where
  | unterminatedText
  | unterminatedComment
  | emptyHexNumber
  | unexpectedCharacter (c : Char)
  deriving DecidableEq, Repr

/-- A cause and where it stands: at the opening quote, the opening of the comment, the hash,
    or the character itself. -/
structure LexError where
  cause : LexCause
  position : Position
  deriving DecidableEq, Repr

/-- The wording of a cause. -/
def LexCause.text : LexCause → String
  | .unterminatedText => "Unterminated string literal"
  | .unterminatedComment => "Unterminated block comment"
  | .emptyHexNumber => "Hex literal needs at least one digit after '#'"
  | .unexpectedCharacter c => "Unexpected character: " ++ Text.quotedChar c

/-- A position and what is wrong there. -/
def LexError.message (e : LexError) : String :=
  e.position.text ++ ": " ++ e.cause.text

namespace Lexer

/-- Whether a word may begin with a character. -/
def isWordStart (c : Char) : Bool :=
  Character.isAlphabetic c || c == '_'

/-- Whether a word may go on with a character. -/
def isWordPart (c : Char) : Bool :=
  Character.isAlphabetic c || Character.isNumeric c || c == '_'

/-- Cuts a text behind its first comment end. What comes before the text already belongs to
    the comment, in reverse order. -/
def closeComment (taken : List Char) : List Char → Option (List Char × List Char)
  | [] => none
  | '*' :: '/' :: rest => some (('/' :: '*' :: taken).reverse, rest)
  | c :: rest => closeComment (c :: taken) rest

/-- A character of a string literal, or a character behind a backslash. -/
inductive TextItem where
  | plain (c : Char)
  | escaped (c : Char)
  deriving DecidableEq, Repr

/-- The characters that write an item. -/
def TextItem.spelling : TextItem → List Char
  | .plain c => [c]
  | .escaped c => ['\\', c]

/-- The characters that an item stands for. A backslash in front of a character without a
    meaning of its own stands for itself. -/
def TextItem.meaning : TextItem → List Char
  | .plain c => [c]
  | .escaped 'n' => ['\n']
  | .escaped 't' => ['\t']
  | .escaped '\\' => ['\\']
  | .escaped '"' => ['"']
  | .escaped c => ['\\', c]

/-- Reads the items of a string literal up to its closing quote. The items before the text
    are given in reverse order. -/
def closeText (taken : List TextItem) : List Char → Option (List TextItem × List Char)
  | [] => none
  | '"' :: rest => some (taken.reverse, rest)
  | '\\' :: c :: rest => closeText (.escaped c :: taken) rest
  | c :: rest => closeText (.plain c :: taken) rest

/-- Cuts a text behind a number. A point belongs to it if digits follow, and only once. -/
def cutNumber (cs : List Char) : List Char × List Char :=
  let whole := cs.takeWhile Char.isDigit
  match cs.dropWhile Char.isDigit with
  | '.' :: d :: rest =>
      if d.isDigit then
        (whole ++ '.' :: d :: rest.takeWhile Char.isDigit, rest.dropWhile Char.isDigit)
      else (whole, '.' :: d :: rest)
  | rest => (whole, rest)

/-- The symbol at the front of a text, of two characters if possible. -/
def cutSymbol (c : Char) : List Char → Option (Symbol × List Char)
  | [] => (Symbol.ofChar? c).map fun s => (s, [])
  | d :: rest =>
      match Symbol.ofPair? c d with
      | some s => some (s, rest)
      | none => (Symbol.ofChar? c).map fun s => (s, d :: rest)

/-- The token at the front of a text: its kind and value, the characters that write it, and
    what is left. -/
structure Lexeme where
  kind : TokenKind
  value : String
  spelling : List Char
  rest : List Char
  deriving DecidableEq, Repr

/-- A word, which may be a keyword, and what is left behind it. -/
def Lexeme.ofWord (word rest : List Char) : Lexeme :=
  { kind := TokenKind.ofWord (String.ofList word)
    value := String.ofList word
    spelling := word
    rest }

/-- Takes the longest token from a text that begins with `c` and goes on with `cs`. -/
def scan (c : Char) (cs : List Char) : Except LexCause Lexeme :=
  if c = '"' then
    match closeText [] cs with
    | some (items, rest) =>
        .ok
          { kind := .text
            value := String.ofList (items.flatMap TextItem.meaning)
            spelling := '"' :: items.flatMap TextItem.spelling ++ ['"']
            rest }
    | none => .error .unterminatedText
  else if c.isDigit then
    let (digits, rest) := cutNumber (c :: cs)
    .ok { kind := .number, value := String.ofList digits, spelling := digits, rest }
  else if c = '#' then
    match cs.takeWhile Number.isHexDigit with
    | [] => .error .emptyHexNumber
    | d :: digits =>
        .ok
          { kind := .hexNumber
            value := String.ofList (d :: digits)
            spelling := '#' :: d :: digits
            rest := cs.dropWhile Number.isHexDigit }
  else if isWordStart c then
    .ok (Lexeme.ofWord (c :: cs.takeWhile isWordPart) (cs.dropWhile isWordPart))
  else
    match cutSymbol c cs with
    | some (s, rest) =>
        .ok { kind := .symbol s, value := s.lexeme, spelling := s.lexeme.toList, rest }
    | none => .error (.unexpectedCharacter c)

theorem length_dropWhile_le {α : Type} (p : α → Bool) (xs : List α) :
    (xs.dropWhile p).length ≤ xs.length :=
  (List.dropWhile_suffix p).length_le

theorem closeComment_length {taken cs body rest : List Char}
    (closed : closeComment taken cs = some (body, rest)) : rest.length < cs.length := by
  fun_induction closeComment taken cs with
  | case1 => simp at closed
  | case2 taken after =>
      simp only [Option.some.injEq, Prod.mk.injEq] at closed
      simp only [← closed.2, List.length_cons]
      omega
  | case3 taken c after _ ih =>
      have := ih closed
      simp only [List.length_cons]
      omega

theorem closeText_length {taken items : List TextItem} {cs rest : List Char}
    (closed : closeText taken cs = some (items, rest)) : rest.length < cs.length := by
  fun_induction closeText taken cs with
  | case1 => simp at closed
  | case2 taken after =>
      simp only [Option.some.injEq, Prod.mk.injEq] at closed
      simp only [← closed.2, List.length_cons]
      omega
  | case3 taken c after ih =>
      have := ih closed
      simp only [List.length_cons]
      omega
  | case4 taken c after _ _ ih =>
      have := ih closed
      simp only [List.length_cons]
      omega

theorem cutNumber_length {c : Char} (cs : List Char) (digit : c.isDigit = true) :
    (cutNumber (c :: cs)).2.length ≤ cs.length := by
  have shorter := length_dropWhile_le Char.isDigit cs
  simp only [cutNumber, List.dropWhile_cons, digit, if_true]
  split
  · rename_i d rest found
    rw [found] at shorter
    simp only [List.length_cons] at shorter
    split
    · have := length_dropWhile_le Char.isDigit rest
      simp only
      omega
    · simpa using shorter
  · simpa using shorter

theorem cutSymbol_length {c : Char} {cs rest : List Char} {s : Symbol}
    (cut : cutSymbol c cs = some (s, rest)) : rest.length ≤ cs.length := by
  cases cs with
  | nil =>
      simp only [cutSymbol, Option.map_eq_some_iff, Prod.mk.injEq] at cut
      obtain ⟨_, _, _, rfl⟩ := cut
      exact Nat.le_refl _
  | cons d after =>
      simp only [cutSymbol] at cut
      split at cut
      · simp only [Option.some.injEq, Prod.mk.injEq] at cut
        simp only [← cut.2, List.length_cons]
        omega
      · simp only [Option.map_eq_some_iff, Prod.mk.injEq] at cut
        obtain ⟨_, _, _, rfl⟩ := cut
        exact Nat.le_refl _

/-- A token takes at least one character. -/
theorem scan_length {c : Char} {cs : List Char} {lexeme : Lexeme}
    (scanned : scan c cs = .ok lexeme) : lexeme.rest.length ≤ cs.length := by
  unfold scan at scanned
  split at scanned
  · split at scanned
    · rename_i closed
      cases scanned
      exact Nat.le_of_lt (closeText_length closed)
    · cases scanned
  · split at scanned
    · rename_i digit
      cases scanned
      exact cutNumber_length cs digit
    · split at scanned
      · split at scanned
        · cases scanned
        · cases scanned
          exact length_dropWhile_le _ cs
      · split at scanned
        · cases scanned
          exact length_dropWhile_le _ cs
        · split at scanned
          · rename_i cut
            cases scanned
            exact cutSymbol_length cut
          · cases scanned

/-- Skips white space and comments, from a position on. -/
def skipTrivia (p : Position) (cs : List Char) : Except LexError (Position × List Char) :=
  match cs with
  | [] => .ok (p, [])
  | '/' :: '/' :: rest =>
      let comment := '/' :: '/' :: rest.takeWhile (· ≠ '\n')
      skipTrivia (p.after comment) (rest.dropWhile (· ≠ '\n'))
  | '/' :: '*' :: rest =>
      match _closed : closeComment ['*', '/'] rest with
      | some (comment, rest) => skipTrivia (p.after comment) rest
      | none => .error ⟨.unterminatedComment, p⟩
  | c :: rest =>
      if Character.isWhiteSpace c then skipTrivia (p.advance c) rest else .ok (p, c :: rest)
termination_by cs.length
decreasing_by
  · have := length_dropWhile_le (fun c => decide (c ≠ '\n')) rest
    simp only [List.length_cons]
    omega
  · have := closeComment_length _closed
    simp only [List.length_cons]
    omega
  · simp

/-- Skipping never gives characters back. -/
theorem skipTrivia_length {p q : Position} {cs rest : List Char}
    (skipped : skipTrivia p cs = .ok (q, rest)) : rest.length ≤ cs.length := by
  fun_induction skipTrivia p cs with
  | case1 =>
      cases skipped
      exact Nat.le_refl _
  | case2 p after comment ih =>
      have := ih skipped
      have := length_dropWhile_le (fun c => decide (c ≠ '\n')) after
      simp only [List.length_cons]
      omega
  | case3 p after comment rest closed ih =>
      have := ih skipped
      have := closeComment_length closed
      simp only [List.length_cons]
      omega
  | case4 => cases skipped
  | case5 p c after _ _ _ ih =>
      have := ih skipped
      simp only [List.length_cons]
      omega
  | case6 =>
      cases skipped
      exact Nat.le_refl _

/-- The tokens from a position on, behind those already found, which are given in reverse
    order. The end of the input is the last of them. -/
def tokensFrom (found : List Token) (p : Position) (cs : List Char) :
    Except LexError (List Token) :=
  match _skipped : skipTrivia p cs with
  | .error e => .error e
  | .ok (p, []) => .ok (Token.endOfInput p :: found).reverse
  | .ok (p, c :: rest) =>
      match _scanned : scan c rest with
      | .error cause => .error ⟨cause, p⟩
      | .ok lexeme =>
          tokensFrom (⟨lexeme.kind, lexeme.value, p⟩ :: found) (p.after lexeme.spelling)
            lexeme.rest
termination_by cs.length
decreasing_by
  have left := skipTrivia_length _skipped
  have shorter := scan_length _scanned
  simp only [List.length_cons] at left
  omega

end Lexer

/-- The tokens of a source text, up to and including its end. -/
def tokenize (source : String) : Except LexError (List Token) :=
  Lexer.tokensFrom [] .start source.toList

end Kiss
