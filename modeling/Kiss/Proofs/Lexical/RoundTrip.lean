import Kiss.Proofs.Lexical.Cut

/-!
# Writing tokens and reading them again

Tokens that are written with a blank between any two are read as the same tokens, whatever the
texts of their string literals are: in front of a blank or of the end, every spelling is the
longest. Only well-formed tokens are ever read, so this holds of the tokens of every text.
-/

namespace Kiss

/-- A character of a text between quotes. -/
def escape (c : Char) : List Char :=
  if c = '\\' ∨ c = '"' then ['\\', c] else [c]

namespace Token

/-- The spelling of a token. -/
def spelling (t : Token) : String :=
  match t.kind.lexeme?, t.kind with
  | some lexeme, _ => lexeme
  | none, .hexNumber => "#" ++ t.value
  | none, .text => String.ofList ('"' :: t.value.toList.flatMap escape ++ ['"'])
  | none, _ => t.value

/-- The value of a token is one that its kind can have. The end of the input is left out. -/
def IsWellFormed (t : Token) : Prop :=
  match t.kind with
  | .number => Lexical.IsNumber t.value.toList
  | .hexNumber => Lexical.IsRow Number.isHexDigit t.value.toList
  | .word => Lexical.IsWord t.value.toList ∧ ∀ k : Keyword, k.lexeme ≠ t.value
  | .text => True
  | .endOfInput => False
  | kind => kind.lexeme? = some t.value

/-- What a token is, wherever it stands. -/
def content (t : Token) : TokenKind × String :=
  (t.kind, t.value)

end Token

namespace Lexical

open Lexer

variable {kind : TokenKind} {value : String} {spelling rest : List Char}

/-- Escaping is undone between quotes. -/
theorem unquotes_escape (cs : List Char) : Unquotes (cs.flatMap escape) cs := by
  induction cs with
  | nil => exact .nil
  | cons c cs ih =>
      rw [List.flatMap_cons, escape]
      split
      · rename_i hidden
        rcases hidden with rfl | rfl
        · exact .backslash ih
        · exact .quote ih
      · rename_i shown
        simp only [not_or] at shown
        exact .plain shown.2 shown.1 ih

/-- A well-formed token is written by its spelling. -/
theorem spells_spelling {t : Token} (wellFormed : t.IsWellFormed) :
    Spells t.kind t.value t.spelling.toList := by
  obtain ⟨kind, value, position⟩ := t
  cases kind with
  | number =>
      have spells := Spells.number wellFormed
      rwa [String.ofList_toList] at spells
  | hexNumber =>
      have spells := Spells.hexNumber wellFormed
      rw [String.ofList_toList] at spells
      simpa [Token.spelling, TokenKind.lexeme?] using spells
  | word =>
      obtain ⟨isWord, noKeyword⟩ := wellFormed
      have spells := Spells.word isWord (by simpa using noKeyword)
      rwa [String.ofList_toList] at spells
  | text =>
      have spells := Spells.text (unquotes_escape value.toList)
      rw [String.ofList_toList] at spells
      simpa [Token.spelling, TokenKind.lexeme?] using spells
  | keyword k =>
      cases wellFormed
      exact .keyword k
  | symbol s =>
      cases wellFormed
      exact .symbol s
  | endOfInput => exact wellFormed.elim

/-- Whatever is written is well formed. -/
theorem Spells.isWellFormed (spells : Spells kind value spelling) (position : Position) :
    Token.IsWellFormed ⟨kind, value, position⟩ := by
  cases spells with
  | keyword | symbol => rfl
  | number isNumber => simpa [Token.IsWellFormed] using isNumber
  | hexNumber areDigits => simpa [Token.IsWellFormed] using areDigits
  | word isWord noKeyword => exact ⟨by simpa using isWord, noKeyword⟩
  | text => trivial

/-- The characters that can stand behind the first one of a token that is no string literal. -/
def GoesOn (c : Char) : Prop :=
  isWordPart c = true ∨ Number.isHexDigit c = true ∨ c ∈ ['.', '=', '&', '|']

theorem goesOn_of_isDigit {c : Char} (digit : c.isDigit = true) : GoesOn c :=
  .inr (.inl (by simp [Number.isHexDigit, digit]))

/-- No token goes on with a blank, a newline or a parenthesis that is closed. -/
theorem not_goesOn {c : Char} (apart : c ∈ [' ', '\n', ')']) : ¬GoesOn c := by
  simp only [List.mem_cons, List.not_mem_nil, or_false] at apart
  rcases apart with rfl | rfl | rfl <;> rw [GoesOn] <;> decide

theorem Spells.goesOn {c : Char} {others : List Char} (spells : Spells kind value (c :: others))
    (noText : kind ≠ .text) : ∀ d ∈ others, GoesOn d := by
  generalize written : c :: others = spelling at spells
  intro d member
  cases spells with
  | keyword k =>
      have isWord := isWord_lexeme k
      rw [← written] at isWord
      exact .inl (isWord.2 d member)
  | symbol s =>
      have second : s.lexeme.toList.tail.all (['.', '=', '&', '|'].contains ·) = true := by
        cases s <;> decide
      rw [← written, List.tail_cons] at second
      exact .inr (.inr (List.contains_iff_mem.mp (List.all_eq_true.mp second d member)))
  | number isNumber =>
      have among : d ∈ spelling := written ▸ List.mem_cons_of_mem c member
      rcases isNumber with ⟨_, digits⟩ | ⟨whole, part, rfl, ⟨_, digits⟩, ⟨_, partDigits⟩⟩
      · exact goesOn_of_isDigit (digits d among)
      · simp only [List.mem_append, List.mem_cons] at among
        rcases among with among | rfl | among
        · exact goesOn_of_isDigit (digits d among)
        · exact .inr (.inr (by simp))
        · exact goesOn_of_isDigit (partDigits d among)
  | hexNumber areDigits =>
      cases written
      exact .inr (.inl (areDigits.2 d member))
  | word isWord _ =>
      subst written
      exact .inl (isWord.2 d member)
  | text => exact absurd rfl noText

/-- Only string literals begin with a quote. -/
theorem Spells.kind_eq_text (spells : Spells kind value spelling) {others : List Char}
    (front : spelling = '"' :: others) : kind = .text := by
  cases spells with
  | keyword k => cases k <;> cases front
  | symbol s => cases s <;> cases front
  | number isNumber => exact absurd (isNumber.front front) (by decide)
  | hexNumber => cases front
  | word isWord =>
      subst front
      exact absurd isWord.1 (by decide)
  | text => rfl

/-- A string literal ends at its closing quote. -/
theorem eq_nil_of_spells_text {otherValue : String} {other more : List Char}
    (spells : Spells .text value spelling) (longer : Spells .text otherValue other)
    (parts : spelling ++ more = other) : more = [] := by
  cases spells with
  | @text written _ unquotes =>
      cases longer with
      | @text otherWritten _ longerUnquotes =>
          obtain ⟨_, _, _, closes⟩ := unquotes.closes
          obtain ⟨_, _, _, longerCloses⟩ := longerUnquotes.closes
          have same : written ++ '"' :: more = otherWritten ++ ['"'] := by simpa using parts
          have closed := closes [] more
          rw [same, longerCloses [] []] at closed
          exact (Prod.mk.inj (Option.some.inj closed)).2.symm

/-- Every string literal begins with a quote. -/
theorem exists_cons_of_spells_text (spells : Spells .text value spelling) :
    ∃ others, spelling = '"' :: others := by
  cases spells with
  | text => exact ⟨_, rfl⟩

/-- A token that begins like a shorter one goes on with characters of tokens: if it is a string
    literal then so is the other one, and that has ended. -/
theorem Spells.goesOn_behind {otherKind : TokenKind} {otherValue : String} {more : List Char}
    (spells : Spells kind value spelling)
    (longer : Spells otherKind otherValue (spelling ++ more)) : ∀ c ∈ more, GoesOn c := by
  intro c member
  obtain ⟨d, chars, rfl⟩ := List.exists_cons_of_ne_nil spells.ne_nil
  by_cases isText : otherKind = .text
  · subst isText
    obtain ⟨inside, quoted⟩ := exists_cons_of_spells_text longer
    obtain ⟨rfl, _⟩ := List.cons.inj quoted
    have alsoText := spells.kind_eq_text rfl
    subst alsoText
    exact absurd (eq_nil_of_spells_text spells longer rfl) (List.ne_nil_of_mem member)
  · exact longer.goesOn isText c (List.mem_append_right _ member)

/-- In front of the end, or of a character that no token goes on with, a token is the longest
    one. -/
theorem Spells.isLongest (spells : Spells kind value spelling)
    (ends : ∀ c ∈ rest.head?, ¬GoesOn c) : IsLongest spelling rest := by
  intro otherKind otherValue other otherSpells stands
  by_contra longer
  have shorter : spelling <+: other :=
    List.prefix_of_prefix_length_le (List.prefix_append spelling rest) stands (by omega)
  obtain ⟨more, rfl⟩ := shorter
  have notEmpty : more ≠ [] := by
    rintro rfl
    simp at longer
  -- what is more begins as what comes behind
  obtain ⟨c, others, rfl⟩ := List.exists_cons_of_ne_nil notEmpty
  obtain ⟨after, parts⟩ := stands
  rw [List.append_assoc, List.append_cancel_left_eq] at parts
  exact ends c (by rw [← parts]; rfl) (spells.goesOn_behind otherSpells c (by simp))

/-- The texts of some tokens, with a blank between any two. -/
def spaced (tokens : List Token) : String :=
  " ".intercalate (tokens.map Token.spelling)

example : spaced [⟨.word, "x", .start⟩, ⟨.symbol .assign, "=", .start⟩,
    ⟨.hexNumber, "fF", .start⟩, ⟨.text, "\"\\n", .start⟩] = "x = #fF \"\\\"\\\\n\"" := by
  decide

/-- The pieces that tokens make up, each behind a blank, except that the gap of the first is
    given. -/
def spacedPieces (before gap : List Char) : List Token → List Piece
  | [] => []
  | t :: tokens =>
      { gap
        token := ⟨t.kind, t.value, .behind (before ++ gap)⟩
        spelling := t.spelling.toList } ::
        spacedPieces (before ++ gap ++ t.spelling.toList) [' '] tokens

theorem cutText_spacedPieces (before : List Char) (tokens : List Token) :
    cutText (spacedPieces before [' '] tokens) [] =
      tokens.flatMap fun t => ' ' :: t.spelling.toList := by
  induction tokens generalizing before with
  | nil => rfl
  | cons t tokens ih => simp [spacedPieces, cutText, ih]

/-- Well-formed tokens with blanks between them are cut into just these tokens. -/
theorem isCut_spacedPieces {tokens : List Token} (wellFormed : ∀ t ∈ tokens, t.IsWellFormed)
    (before : List Char) {gap : List Char} (isGap : ∀ rest, Gap gap rest) :
    IsCut before (spacedPieces before gap tokens) [] := by
  induction tokens generalizing before gap with
  | nil => exact .none
  | cons t tokens ih =>
      have spells := spells_spelling (wellFormed t (by simp))
      have blank : ∀ rest, Gap [' '] rest := fun rest => .blank (by decide) .none
      have ends : ∀ c ∈ (tokens.flatMap fun t => ' ' :: t.spelling.toList).head?, c = ' ' := by
        cases tokens with
        | nil => simp
        | cons => simp
      have others := ih (fun t member => wellFormed t (by simp [member]))
        (before ++ gap ++ t.spelling.toList) blank
      refine ⟨?_, others⟩
      rw [cutText_spacedPieces]
      exact
        { isGap := isGap _
          spells
          longest := spells.isLongest fun c member => not_goesOn (by simp [ends c member])
          opensNoComment := fun _ c member => by simp [ends c member]
          position := rfl }

/-- Behind its first part, a text with something between its parts has each part behind
    that. -/
theorem intercalate_cons (between first : List Char) (others : List (List Char)) :
    between.intercalate (first :: others) =
      first ++ others.flatMap fun part => between ++ part := by
  induction others generalizing first with
  | nil => simp
  | cons second others ih =>
      rw [List.intercalate_cons_cons, ih, List.flatMap_cons]
      simp

theorem toList_spaced (tokens : List Token) :
    (spaced tokens).toList = cutText (spacedPieces [] [] tokens) [] := by
  rw [spaced, String.toList_intercalate]
  cases tokens with
  | nil => rfl
  | cons t tokens =>
      rw [spacedPieces, cutText, cutText_spacedPieces, List.map_cons, List.map_cons,
        intercalate_cons]
      simp [List.flatMap_map]

theorem content_spacedPieces (before gap : List Char) (tokens : List Token) :
    ((spacedPieces before gap tokens).map Piece.token).map Token.content =
      tokens.map Token.content := by
  induction tokens generalizing before gap with
  | nil => rfl
  | cons t tokens ih =>
      rw [spacedPieces, List.map_cons, List.map_cons, List.map_cons, ih]
      rfl

/-- Well-formed tokens are read as themselves when they are written with blanks between
    them. -/
theorem exists_tokenize_spaced {tokens : List Token} (wellFormed : ∀ t ∈ tokens, t.IsWellFormed) :
    ∃ read, tokenize (spaced tokens) = .ok read ∧
      read.map Token.content = tokens.map Token.content ++ [(.endOfInput, "")] := by
  have isCut := isCut_spacedPieces wellFormed [] fun _ => .none
  refine ⟨_, isCut.tokenize (toList_spaced tokens), ?_⟩
  rw [cutTokens, List.map_append, content_spacedPieces]
  rfl

/-- Only well-formed tokens are read. -/
theorem IsCut.isWellFormed {before last : List Char} {pieces : List Piece}
    (isCut : IsCut before pieces last) : ∀ t ∈ pieces.map Piece.token, t.IsWellFormed := by
  induction pieces generalizing before with
  | nil => simp
  | cons piece pieces ih =>
      obtain ⟨fits, others⟩ := isCut
      intro t member
      rcases List.mem_cons.mp member with rfl | member
      · exact fits.spells.isWellFormed piece.token.position
      · exact ih others t member

/-- Every token that is read is well formed, the end of the input left out. -/
theorem isWellFormed_of_tokenize {source : String} {ts : List Token}
    (read : tokenize source = .ok ts) : ∀ t ∈ ts, t.kind ≠ .endOfInput → t.IsWellFormed := by
  obtain ⟨pieces, last, _, isCut, rfl⟩ := exists_isCut_of_tokenize read
  intro t member noEnd
  rcases List.mem_append.mp member with member | member
  · exact isCut.isWellFormed t member
  · cases List.mem_singleton.mp member
    exact absurd rfl noEnd

/-- Reading undoes writing: well-formed tokens come back with their kinds and values, the end
    of the input behind them. All tokens that are read from any text are well formed, so those
    of a text come back when they are written anew. -/
theorem tokenize_spaced :
    (∀ tokens : List Token, (∀ t ∈ tokens, t.IsWellFormed) →
      ∃ read, tokenize (spaced tokens) = .ok read ∧
        read.map Token.content = tokens.map Token.content ++ [(.endOfInput, "")]) ∧
    (∀ source tokens, tokenize source = .ok tokens →
      ∀ t ∈ tokens, t.kind ≠ .endOfInput → t.IsWellFormed) ∧
    (∀ source tokens, tokenize source = .ok tokens →
      ∃ read, tokenize (spaced (tokens.filter fun t => t.kind ≠ .endOfInput)) = .ok read ∧
        read.map Token.content = tokens.map Token.content) := by
  refine ⟨fun tokens wellFormed => exists_tokenize_spaced wellFormed, ?_, ?_⟩
  · exact fun source tokens read => isWellFormed_of_tokenize read
  · intro source tokens read
    obtain ⟨pieces, last, _, isCut, rfl⟩ := exists_isCut_of_tokenize read
    have kept : (cutTokens [] pieces last).filter (fun t => t.kind ≠ .endOfInput) =
        pieces.map Piece.token := by
      have all : ∀ t ∈ pieces.map Piece.token, decide (t.kind ≠ .endOfInput) = true := by
        intro t member
        obtain ⟨piece, piecesMember, rfl⟩ := List.mem_map.mp member
        exact decide_eq_true (isCut.kind_ne_endOfInput piece piecesMember)
      rw [cutTokens, List.filter_append, List.filter_eq_self.mpr all]
      simp [Token.endOfInput]
    rw [kept]
    obtain ⟨again, reads, same⟩ := exists_tokenize_spaced isCut.isWellFormed
    refine ⟨again, reads, ?_⟩
    rw [same, cutTokens, List.map_append]
    rfl

end Lexical

end Kiss
