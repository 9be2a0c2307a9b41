import Kiss.Proofs.Lexical.RoundTrip
import Kiss.Text.Quoted

/-!
# Writing tokens close together

A row of tokens can be written without blanks wherever each of them is still the longest token
at its place. `AreWritten` says so of a row, each token with the gap in front of it, and the
text that the row makes up is then read as these tokens (`exists_tokenize_of_written`). Words,
single symbols and quoted texts each have a lemma that tells what they may stand in front of.
-/

namespace Kiss.Lexical

open Lexer

/-- A token as it is written, with the gap in front of it, wherever it stands. -/
structure Mark where
  gap : List Char
  kind : TokenKind
  value : String
  spelling : List Char

namespace Mark

/-- A symbol as it is written. -/
def ofSymbol (gap : List Char) (s : Symbol) : Mark :=
  ⟨gap, .symbol s, s.lexeme, s.lexeme.toList⟩

/-- A keyword as it is written. -/
def ofKeyword (gap : List Char) (k : Keyword) : Mark :=
  ⟨gap, .keyword k, k.lexeme, k.lexeme.toList⟩

/-- A word as it is written. -/
def ofWord (gap : List Char) (word : String) : Mark :=
  ⟨gap, .word, word, word.toList⟩

/-- What a token is, wherever it stands. -/
def content (mark : Mark) : TokenKind × String :=
  (mark.kind, mark.value)

end Mark

/-- The text that a row of tokens makes up in front of another text. -/
def marksText : List Mark → List Char → List Char
  | [], rest => rest
  | mark :: marks, rest => mark.gap ++ mark.spelling ++ marksText marks rest

/-- A token is written as it must be in front of a text. -/
structure Mark.IsWritten (mark : Mark) (rest : List Char) : Prop where
  isGap : Gap mark.gap (mark.spelling ++ rest)
  spells : Spells mark.kind mark.value mark.spelling
  longest : IsLongest mark.spelling rest
  opensNoComment : OpensNoComment mark.spelling rest

/-- All tokens of a row are written as they must be, in front of a text. -/
def AreWritten : List Mark → List Char → Prop
  | [], _ => True
  | mark :: marks, rest => mark.IsWritten (marksText marks rest) ∧ AreWritten marks rest

variable {marks : List Mark} {before rest : List Char}

@[simp]
theorem marksText_append (marks others : List Mark) (rest : List Char) :
    marksText (marks ++ others) rest = marksText marks (marksText others rest) := by
  induction marks with
  | nil => rfl
  | cons mark marks ih => rw [List.cons_append, marksText, marksText, ih]

@[simp]
theorem areWritten_append {others : List Mark} :
    AreWritten (marks ++ others) rest ↔
      AreWritten marks (marksText others rest) ∧ AreWritten others rest := by
  induction marks with
  | nil => simp [AreWritten]
  | cons mark marks ih => simp [AreWritten, ih, and_assoc]

/-- The pieces that a row of tokens is behind a text. -/
def place (before : List Char) : List Mark → List Piece
  | [] => []
  | mark :: marks =>
      { gap := mark.gap
        token := ⟨mark.kind, mark.value, .behind (before ++ mark.gap)⟩
        spelling := mark.spelling } ::
        place (before ++ mark.gap ++ mark.spelling) marks

theorem cutText_place (before : List Char) (marks : List Mark) (rest : List Char) :
    cutText (place before marks) rest = marksText marks rest := by
  induction marks generalizing before with
  | nil => rfl
  | cons mark marks ih => rw [place, cutText, marksText, ih]

theorem content_place (before : List Char) (marks : List Mark) :
    ((place before marks).map Piece.token).map Token.content = marks.map Mark.content := by
  induction marks generalizing before with
  | nil => rfl
  | cons mark marks ih =>
      rw [place, List.map_cons, List.map_cons, List.map_cons, ih]
      rfl

theorem AreWritten.isCut (written : AreWritten marks []) (before : List Char) :
    IsCut before (place before marks) [] := by
  induction marks generalizing before with
  | nil => exact .none
  | cons mark marks ih =>
      obtain ⟨isWritten, others⟩ := written
      refine ⟨?_, ih others _⟩
      rw [cutText_place]
      exact { isWritten with position := rfl }

/-- What is written is read. -/
theorem exists_tokenize_of_written {source : String} (written : AreWritten marks [])
    (text : source.toList = marksText marks []) :
    ∃ ts p, tokenize source = .ok (ts ++ [.endOfInput p]) ∧
      ts.map Token.content = marks.map Mark.content := by
  rw [← cutText_place []] at text
  exact ⟨_, _, (written.isCut []).tokenize text, content_place [] marks⟩

theorem gap_blank (rest : List Char) : Gap [' '] rest :=
  .blank (by decide) .none

/-- What ends every token but a string literal: a blank, a closing parenthesis or the end of the
    text. -/
def EndsToken (rest : List Char) : Prop :=
  ∀ c ∈ rest.head?, c = ' ' ∨ c = ')'

/-- In front of what ends it, every token may stand. -/
theorem Mark.isWritten_of_ends {gap spelling : List Char} {kind : TokenKind} {value : String}
    (isGap : ∀ rest, Gap gap rest) (spells : Spells kind value spelling) (ends : EndsToken rest) :
    IsWritten ⟨gap, kind, value, spelling⟩ rest where
  isGap := isGap _
  spells := spells
  longest := by
    refine spells.isLongest fun c member => not_goesOn ?_
    rcases ends c member with rfl | rfl <;> simp
  opensNoComment := fun _ c member => by
    rcases ends c member with rfl | rfl <;> decide

/-- A word may stand in front of all that it cannot go on with. -/
theorem IsWord.isLongest {word : List Char} (isWord : IsWord word)
    (ends : ∀ c ∈ rest.head?, isWordPart c = false) : IsLongest word rest := by
  obtain ⟨c, others, rfl⟩ := List.exists_cons_of_ne_nil isWord.ne_nil
  have taken : (others ++ rest).takeWhile isWordPart = others := by
    rw [List.takeWhile_append_of_pos isWord.2]
    cases rest with
    | nil => simp
    | cons d rest => simp [ends d rfl]
  have left : (others ++ rest).dropWhile isWordPart = rest := by
    have parts := List.takeWhile_append_dropWhile (p := isWordPart) (l := others ++ rest)
    rwa [taken, List.append_cancel_left_eq] at parts
  have longest := scan_isLongest (@scan_word c (others ++ rest) isWord.1)
  rwa [Lexeme.ofWord, taken, left] at longest

theorem ofPair?_eq_none {c : Char} (beginsNone : c ∉ ['=', '<', '>', '&', '|']) (d : Char) :
    Symbol.ofPair? c d = none := by
  unfold Symbol.ofPair?
  split <;> simp at beginsNone ⊢

/-- A symbol of one character that begins no other symbol may stand anywhere. -/
theorem isLongest_symbol {c : Char} {s : Symbol} (single : s.lexeme.toList = [c])
    (beginsNone : c ∉ ['=', '<', '>', '&', '|']) (rest : List Char) : IsLongest [c] rest := by
  have alone := ofChar?_eq_some.mpr single
  have cut : cutSymbol c rest = some (s, rest) := by
    cases rest with
    | nil => simp [cutSymbol, alone]
    | cons d rest => simp [cutSymbol, ofPair?_eq_none beginsNone, alone]
  have longest := scan_isLongest (scan_symbol single cut)
  rwa [single] at longest

/-- The signs, the point, parentheses and braces may stand in front of everything. -/
theorem Mark.isWritten_ofSymbol {gap : List Char} (isGap : ∀ rest, Gap gap rest) {s : Symbol}
    (alone : s ∈ [.minus, .bang, .leftParen, .rightParen, .leftBrace, .rightBrace, .dot]) :
    (ofSymbol gap s).IsWritten rest := by
  obtain ⟨c, single, noSlash, beginsNone⟩ : ∃ c, s.lexeme.toList = [c] ∧ c ≠ '/' ∧
      c ∉ ['=', '<', '>', '&', '|'] := by
    simp only [List.mem_cons, List.not_mem_nil, or_false] at alone
    rcases alone with rfl | rfl | rfl | rfl | rfl | rfl | rfl <;>
      exact ⟨_, rfl, by decide, by decide⟩
  exact
    { isGap := isGap _
      spells := .symbol s
      longest := by
        rw [ofSymbol, single]
        exact isLongest_symbol single beginsNone rest
      opensNoComment := fun slash => by
        rw [ofSymbol, single] at slash
        exact absurd (List.cons.inj slash).1 noSlash }

/-- A word that is not a keyword. -/
def IsName (name : String) : Prop :=
  IsWord name.toList ∧ ∀ k : Keyword, k.lexeme ≠ name

theorem spells_name {name : String} (isName : IsName name) : Spells .word name name.toList := by
  have spells := Spells.word isName.1 (by simpa using isName.2)
  rwa [String.ofList_toList] at spells

/-- The characters from the blank to the tilde, the newline and the tab. -/
def IsPlain (c : Char) : Prop :=
  0x20 ≤ c.toNat ∧ c.toNat ≤ 0x7E ∨ c = '\n' ∨ c = '\t'

theorem isHidden_eq_false {c : Char} (lower : 0x20 ≤ c.toNat) (upper : c.toNat ≤ 0x7E) :
    Text.isHidden c = false := by
  have all : ∀ n < 0x7F, 0x20 ≤ n → Text.isHidden (Char.ofNat n) = false := by
    decide
  have here := all c.toNat (by omega) lower
  rwa [Char.ofNat_toNat] at here

/-- Between its quotes, a text of plain characters is written as a string literal that means the
    text. -/
theorem unquotes_quoteChar {cs : List Char} (plain : ∀ c ∈ cs, IsPlain c) :
    Unquotes (cs.flatMap (Text.quoteChar '"')) cs := by
  induction cs with
  | nil => exact .nil
  | cons c cs ih =>
      have others := ih fun d member => plain d (List.mem_cons_of_mem c member)
      rw [List.flatMap_cons]
      by_cases escaped : c = '"' ∨ c = '\\'
      · rw [Text.quoteChar, if_pos escaped]
        rcases escaped with rfl | rfl
        · exact .quote others
        · exact .backslash others
      · rcases plain c List.mem_cons_self with ⟨lower, upper⟩ | rfl | rfl
        · have shown := isHidden_eq_false lower upper
          simp only [not_or] at escaped
          have control : c ≠ '\x00' ∧ c ≠ '\t' ∧ c ≠ '\n' ∧ c ≠ '\r' := by
            refine ⟨?_, ?_, ?_, ?_⟩ <;> rintro rfl <;> exact absurd lower (by decide)
          simp only [Text.quoteChar, escaped, control, shown, or_self, if_false, Bool.false_eq_true]
          exact .plain escaped.1 escaped.2 others
        · exact .newline others
        · exact .tab others

theorem spells_quoted {text : String} (plain : ∀ c ∈ text.toList, IsPlain c) :
    Spells .text text (Text.quoted text).toList := by
  have spells := Spells.text (unquotes_quoteChar plain)
  rw [Text.quoted, String.toList_ofList]
  rwa [String.ofList_toList] at spells

end Kiss.Lexical
