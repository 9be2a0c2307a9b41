import Mathlib.Data.List.Induction
import Kiss.Proofs.Lexical.Refusal

/-!
# Cutting a text into tokens

A text that can be read is gaps and spellings of tokens by turns, and no character is lost:
`IsCut` says what it is cut into, and `LeadsTo` says it of the beginning of a text in front of
what is left. Every text is cut up to its end or up to something that cannot be read
(`exists_leadsTo`), and is read from there as if it began there (`LeadsTo.tokensFrom`); so it is
read just if it is cut up to its end, and refused just for what stands where the cut ends. The
position of a token is where the text before it ends; `behind` says what that is without going
through the text from its start.
-/

namespace Kiss

namespace Position

/-- The position behind a text: its line is counted by the newlines, its column by the
    characters behind the last of them. -/
def behind (before : List Char) : Position :=
  ⟨before.count '\n' + 1, (before.reverse.takeWhile fun c => decide (c ≠ '\n')).length + 1⟩

/-- One position is earlier in a text than another. -/
def Before (p q : Position) : Prop :=
  p.line < q.line ∨ p.line = q.line ∧ p.column < q.column

theorem Before.trans {p q r : Position} (first : p.Before q) (second : q.Before r) :
    p.Before r := by
  simp only [Before] at *
  omega

theorem before_advance (p : Position) (c : Char) : p.Before (p.advance c) := by
  unfold advance
  split
  · exact .inl (Nat.lt_succ_self _)
  · exact .inr ⟨rfl, Nat.lt_succ_self _⟩

/-- Counting from character to character comes to the same. -/
theorem after_start (before : List Char) : start.after before = behind before := by
  induction before using List.reverseRecOn with
  | nil => rfl
  | append_singleton before c ih =>
      rw [after_append, ih, after_cons, after_nil, advance]
      by_cases newline : c = '\n'
      · simp [behind, newline]
      · simp [behind, newline]

theorem after_behind (before more : List Char) :
    (behind before).after more = behind (before ++ more) := by
  rw [← after_start, ← after_start, after_append]

theorem behind_before_append (before : List Char) {more : List Char} (notEmpty : more ≠ []) :
    (behind before).Before (behind (before ++ more)) := by
  rw [← after_start, ← after_start, after_append]
  generalize start.after before = p
  induction more generalizing p with
  | nil => exact absurd rfl notEmpty
  | cons c more ih =>
      cases more with
      | nil => exact p.before_advance c
      | cons d more => exact (p.before_advance c).trans (ih (by simp) (p.advance c))

end Position

namespace Lexical

open Lexer

/-- A token with the characters that write it and the gap in front of it. -/
structure Piece where
  gap : List Char
  token : Token
  spelling : List Char

/-- The text that pieces and a last gap make up. -/
def cutText : List Piece → List Char → List Char
  | [], last => last
  | piece :: pieces, last => piece.gap ++ piece.spelling ++ cutText pieces last

/-- A piece is as it must be between the text before it and what comes behind. -/
structure Piece.Fits (piece : Piece) (before rest : List Char) : Prop where
  isGap : Gap piece.gap (piece.spelling ++ rest)
  spells : Spells piece.token.kind piece.token.value piece.spelling
  longest : IsLongest piece.spelling rest
  opensNoComment : OpensNoComment piece.spelling rest
  position : piece.token.position = .behind (before ++ piece.gap)

/-- All pieces fit, one behind the other, and the last gap ends the text. -/
def IsCut (before : List Char) : List Piece → List Char → Prop
  | [], last => Gap last []
  | piece :: pieces, last =>
      piece.Fits before (cutText pieces last) ∧
        IsCut (before ++ piece.gap ++ piece.spelling) pieces last

/-- Pieces that fit, one behind the other, and a gap lead up to what is left of a text. -/
def LeadsTo (before : List Char) : List Piece → List Char → List Char → Prop
  | [], last, rest => Gap last rest
  | piece :: pieces, last, rest =>
      piece.Fits before (cutText pieces last ++ rest) ∧
        LeadsTo (before ++ piece.gap ++ piece.spelling) pieces last rest

/-- The tokens of a text that is cut into pieces, behind a text before it. -/
def cutTokens (before : List Char) (pieces : List Piece) (last : List Char) : List Token :=
  pieces.map Piece.token ++ [.endOfInput (.behind (before ++ cutText pieces last))]

variable {before last rest : List Char} {pieces : List Piece}

theorem cutTokens_cons (before : List Char) (piece : Piece) (pieces : List Piece)
    (last : List Char) :
    cutTokens before (piece :: pieces) last =
      piece.token :: cutTokens (before ++ piece.gap ++ piece.spelling) pieces last := by
  simp [cutTokens, cutText]

/-- A text is cut if the pieces and the last gap lead up to its end. -/
theorem isCut_iff_leadsTo : IsCut before pieces last ↔ LeadsTo before pieces last [] := by
  induction pieces generalizing before with
  | nil => rfl
  | cons piece pieces ih => rw [IsCut, LeadsTo, List.append_nil, ih]

/-- What scanning takes where a token begins is a piece that fits. -/
theorem Gap.fits_of_scan {gap cs : List Char} {c : Char} {lexeme : Lexeme}
    (isGap : Gap gap (c :: cs)) (before : List Char) (begins : BeginsToken (c :: cs))
    (scanned : scan c cs = .ok lexeme) :
    Piece.Fits ⟨gap, ⟨lexeme.kind, lexeme.value, .behind (before ++ gap)⟩, lexeme.spelling⟩ before
      lexeme.rest := by
  obtain ⟨spells, parts⟩ := scan_spells scanned
  refine ⟨by rwa [parts], spells, scan_isLongest scanned, fun slash => ?_, rfl⟩
  -- the gap would have gone on over a comment
  have alone : lexeme.spelling = ['/'] := slash
  rw [alone] at parts
  obtain ⟨rfl, after⟩ := List.cons.inj parts
  rw [show lexeme.rest = cs from after]
  exact (begins '/' rfl).2 rfl

/-- Pieces lead up to the end of every text, or up to something in it that cannot be read. -/
theorem exists_leadsTo (before cs : List Char) :
    ∃ pieces last rest, cs = cutText pieces last ++ rest ∧ LeadsTo before pieces last rest ∧
      (rest = [] ∨ ∃ cause wording, Refused cause wording rest) := by
  obtain ⟨gap, rest, text, isGap, stops⟩ := exists_gap .start cs
  rcases stops with begins | ⟨inside, rfl, noEnd⟩
  · cases rest with
    | nil => exact ⟨[], gap, [], text, isGap, .inl rfl⟩
    | cons c chars =>
        cases scanned : scan c chars with
        | error cause =>
            exact ⟨[], gap, c :: chars, text, isGap, .inr ⟨_, _, refused_of_scan begins scanned⟩⟩
        | ok lexeme =>
            have shorter : lexeme.rest.length < cs.length := by
              have taken := scan_length scanned
              rw [text, List.length_append, List.length_cons]
              omega
            obtain ⟨pieces, last, rest, others, leads, ends⟩ :=
              exists_leadsTo (before ++ gap ++ lexeme.spelling) lexeme.rest
            have fits := isGap.fits_of_scan before begins scanned
            refine ⟨⟨gap, _, lexeme.spelling⟩ :: pieces, last, rest, ?_, ⟨others ▸ fits, leads⟩,
              ends⟩
            rw [cutText, List.append_assoc, List.append_assoc, ← others, (scan_spells scanned).2,
              text]
  · exact ⟨[], gap, _, text, isGap, .inr ⟨_, _, .openComment noEnd⟩⟩
termination_by cs.length
decreasing_by exact shorter

theorem tokensFrom_of_scan {p q : Position} {c : Char} {cs rest : List Char} {lexeme : Lexeme}
    (found : List Token) (skipped : skipTrivia p cs = .ok (q, c :: rest))
    (scanned : scan c rest = .ok lexeme) :
    tokensFrom found p cs =
      tokensFrom (⟨lexeme.kind, lexeme.value, q⟩ :: found) (q.after lexeme.spelling)
        lexeme.rest := by
  rw [tokensFrom, skipped]
  simp only
  rw [scanned]

theorem tokensFrom_nil (found : List Token) (p : Position) :
    tokensFrom found p [] = .ok (found.reverse ++ [.endOfInput p]) := by
  rw [tokensFrom, skipTrivia.eq_1]
  simp

/-- A gap makes no difference to what is read behind it. -/
theorem tokensFrom_gap {gap : List Char} (isGap : Gap gap rest) (found : List Token)
    (p : Position) : tokensFrom found p (gap ++ rest) = tokensFrom found (p.after gap) rest := by
  rw [tokensFrom, isGap.skipTrivia_append]
  rw [tokensFrom]

/-- Behind pieces that fit a text is read from their last gap on, with their tokens found. -/
theorem LeadsTo.tokensFrom (leads : LeadsTo before pieces last rest) (found : List Token) :
    Lexer.tokensFrom found (.behind before) (cutText pieces last ++ rest) =
      Lexer.tokensFrom ((pieces.map Piece.token).reverse ++ found)
        (.behind (before ++ cutText pieces last)) rest := by
  induction pieces generalizing before found with
  | nil =>
      have isGap : Gap last rest := leads
      rw [cutText, tokensFrom_gap isGap, Position.after_behind]
      rfl
  | cons piece pieces ih =>
      obtain ⟨fits, others⟩ := leads
      have begins := fits.spells.beginsToken fits.opensNoComment
      have skipped := fits.isGap.skipTrivia begins (.behind before)
      obtain ⟨c, chars, front⟩ := List.exists_cons_of_ne_nil fits.spells.ne_nil
      have longest := fits.longest
      have spells := fits.spells
      rw [front] at longest spells
      have scanned := longest.scan spells
      rw [Position.after_behind, front, List.cons_append] at skipped
      have token : (⟨piece.token.kind, piece.token.value, .behind (before ++ piece.gap)⟩ : Token) =
          piece.token := by rw [← fits.position]
      rw [cutText, List.append_assoc, List.append_assoc, front, List.cons_append,
        tokensFrom_of_scan found skipped scanned, token, Position.after_behind, ← front,
        ih others (piece.token :: found)]
      simp

theorem LeadsTo.tokenize (leads : LeadsTo [] pieces last rest) {source : String}
    (text : source.toList = cutText pieces last ++ rest) :
    Kiss.tokenize source =
      Lexer.tokensFrom (pieces.map Piece.token).reverse (.behind (cutText pieces last)) rest := by
  have read := leads.tokensFrom []
  rwa [List.append_nil, List.nil_append, ← text] at read

/-- A text that is cut into pieces that fit is read as their tokens. -/
theorem IsCut.tokenize (isCut : IsCut [] pieces last) {source : String}
    (text : source.toList = cutText pieces last) :
    Kiss.tokenize source = .ok (cutTokens [] pieces last) := by
  rw [(isCut_iff_leadsTo.mp isCut).tokenize (by rw [text, List.append_nil]), tokensFrom_nil,
    List.reverse_reverse]
  rfl

/-- What is read is cut into pieces that fit. -/
theorem exists_isCut_of_tokenize {source : String} {ts : List Token}
    (read : tokenize source = .ok ts) :
    ∃ pieces last, source.toList = cutText pieces last ∧ IsCut [] pieces last ∧
      ts = cutTokens [] pieces last := by
  obtain ⟨pieces, last, rest, text, leads, ends⟩ := exists_leadsTo [] source.toList
  rcases ends with rfl | ⟨cause, wording, refused⟩
  · rw [List.append_nil] at text
    have isCut := isCut_iff_leadsTo.mpr leads
    rw [isCut.tokenize text] at read
    cases read
    exact ⟨pieces, last, text, isCut, rfl⟩
  · rw [leads.tokenize text, refused.tokensFrom] at read
    cases read

/-- The tokens behind a text stand behind it. -/
theorem IsCut.position (isCut : IsCut before pieces last) :
    ∀ t ∈ cutTokens before pieces last, ∃ more, t.position = .behind (before ++ more) := by
  induction pieces generalizing before with
  | nil =>
      intro t member
      cases List.mem_singleton.mp member
      exact ⟨_, rfl⟩
  | cons piece pieces ih =>
      obtain ⟨fits, others⟩ := isCut
      rw [cutTokens_cons]
      intro t member
      rcases List.mem_cons.mp member with rfl | member
      · exact ⟨piece.gap, fits.position⟩
      · obtain ⟨more, place⟩ := ih others t member
        exact ⟨piece.gap ++ piece.spelling ++ more, by simpa using place⟩

/-- Every token stands behind the tokens before it. -/
theorem IsCut.pairwise_before (isCut : IsCut before pieces last) :
    (cutTokens before pieces last).Pairwise fun t u => t.position.Before u.position := by
  induction pieces generalizing before with
  | nil => exact List.pairwise_singleton _ _
  | cons piece pieces ih =>
      obtain ⟨fits, others⟩ := isCut
      rw [cutTokens_cons]
      refine List.pairwise_cons.mpr ⟨fun t member => ?_, ih others⟩
      obtain ⟨more, place⟩ := others.position t member
      have notEmpty : piece.spelling ++ more ≠ [] := by simp [fits.spells.ne_nil]
      rw [fits.position, place, List.append_assoc]
      exact Position.behind_before_append (before ++ piece.gap) notEmpty

/-- No piece is the end of the input. -/
theorem IsCut.kind_ne_endOfInput (isCut : IsCut before pieces last) :
    ∀ piece ∈ pieces, piece.token.kind ≠ .endOfInput := by
  induction pieces generalizing before with
  | nil => simp
  | cons piece pieces ih =>
      obtain ⟨fits, others⟩ := isCut
      intro other member
      rcases List.mem_cons.mp member with rfl | member
      · exact fits.spells.kind_ne_endOfInput
      · exact ih others other member

/-- A text is read just if it is made of gaps and spellings by turns, each spelling as long as
    any token in its place, and then its tokens are those that are spelled, up to the end of
    the input, which comes last and only there. Each stands where its first character stands,
    and behind all tokens before it. -/
theorem tokenize_iff_cut (source : String) (ts : List Token) :
    tokenize source = .ok ts ↔
      ∃ pieces last, source.toList = cutText pieces last ∧ IsCut [] pieces last ∧
        ts = pieces.map Piece.token ++ [.endOfInput (.behind source.toList)] ∧
        (∀ piece ∈ pieces, piece.token.kind ≠ .endOfInput) ∧
        ts.Pairwise fun t u => t.position.Before u.position := by
  constructor
  · intro read
    obtain ⟨pieces, last, text, isCut, rfl⟩ := exists_isCut_of_tokenize read
    exact ⟨pieces, last, text, isCut, by rw [text]; rfl, isCut.kind_ne_endOfInput,
      isCut.pairwise_before⟩
  · rintro ⟨pieces, last, text, isCut, rfl, _⟩
    rw [isCut.tokenize text, text]
    rfl

section Shortening

variable {gap spelling more : List Char}

theorem head?_append_of_mem {c : Char} (front : c ∈ rest.head?) (more : List Char) :
    c ∈ (rest ++ more).head? := by
  obtain ⟨others, rfl⟩ := List.head?_eq_some_iff.mp front
  rfl

/-- A gap is one also if the text breaks off somewhere behind it. -/
theorem Gap.shorten (isGap : Gap gap (rest ++ more)) : Gap gap rest := by
  generalize whole : rest ++ more = text at isGap
  induction isGap with
  | none => exact .none
  | blank isBlank _ ih => exact .blank isBlank (ih whole)
  | @lineComment comment others text oneLine newlineNext _ ih =>
      subst whole
      refine .lineComment oneLine (fun c front => newlineNext c ?_) (ih rfl)
      rw [← List.append_assoc]
      exact head?_append_of_mem front more
  | blockComment noEnd _ ih => exact .blockComment noEnd (ih whole)

theorem IsLongest.shorten (longest : IsLongest spelling (rest ++ more)) :
    IsLongest spelling rest := by
  intro kind value other spells stands
  refine longest kind value other spells (stands.trans ?_)
  rw [← List.append_assoc]
  exact List.prefix_append _ _

theorem OpensNoComment.shorten (opens : OpensNoComment spelling (rest ++ more)) :
    OpensNoComment spelling rest :=
  fun slash c front => opens slash c (head?_append_of_mem front more)

/-- What leads up to a place leads up to it also if the text breaks off somewhere behind it. -/
theorem LeadsTo.shorten (leads : LeadsTo before pieces last (rest ++ more)) :
    LeadsTo before pieces last rest := by
  induction pieces generalizing before with
  | nil =>
      have isGap : Gap last (rest ++ more) := leads
      exact isGap.shorten
  | cons piece pieces ih =>
      obtain ⟨⟨isGap, spells, longest, opensNoComment, position⟩, others⟩ := leads
      rw [← List.append_assoc] at longest opensNoComment
      rw [← List.append_assoc, ← List.append_assoc, List.append_assoc piece.spelling] at isGap
      exact ⟨⟨isGap.shorten, spells, longest.shorten, opensNoComment.shorten, position⟩, ih others⟩

end Shortening

/-- A text is refused just if gaps and spellings by turns, each spelling as long as any token in its
    place, lead up to something that cannot be read; and then the error stands there, and is worded
    for what stands there. Wherever the pieces lead up to, the text before that place is read by
    itself, as their tokens. -/
theorem tokenize_refused_iff (source : String) :
    (∀ e, tokenize source = .error e ↔
      ∃ pieces last rest, source.toList = cutText pieces last ++ rest ∧
        LeadsTo [] pieces last rest ∧ Refused e.cause e.cause.text rest ∧
        e.position = .behind (cutText pieces last)) ∧
    ∀ pieces last rest, source.toList = cutText pieces last ++ rest →
      LeadsTo [] pieces last rest →
      tokenize (String.ofList (cutText pieces last)) = .ok (cutTokens [] pieces last) := by
  refine ⟨fun e => ⟨fun failed => ?_, ?_⟩, fun pieces last rest _ leads => ?_⟩
  · obtain ⟨pieces, last, rest, text, leads, ends⟩ := exists_leadsTo [] source.toList
    rcases ends with rfl | ⟨cause, wording, refused⟩
    · rw [leads.tokenize text, tokensFrom_nil] at failed
      cases failed
    · rw [leads.tokenize text, refused.tokensFrom] at failed
      cases failed
      exact ⟨pieces, last, rest, text, leads, refused.text_eq ▸ refused, rfl⟩
  · rintro ⟨pieces, last, rest, text, leads, refused, place⟩
    rw [leads.tokenize text, refused.tokensFrom, ← place]
  · have toEnd : LeadsTo [] pieces last [] := LeadsTo.shorten leads
    exact (isCut_iff_leadsTo.mpr toEnd).tokenize (by rw [String.toList_ofList])

/-- A minus at the start of a text. -/
def firstMinus : Piece :=
  ⟨[], ⟨.symbol .minus, "-", ⟨1, 1⟩⟩, ['-']⟩

/-- It may stand in front of everything. -/
theorem fits_firstMinus (rest : List Char) : firstMinus.Fits [] rest := by
  have cut : cutSymbol '-' rest = some (.minus, rest) := by
    cases rest with
    | nil => rfl
    | cons d others => simp [cutSymbol, Symbol.ofPair?, Symbol.ofChar?]
  have alone : Symbol.minus.lexeme.toList = ['-'] := rfl
  have scanned := scan_symbol alone cut
  exact
    { isGap := .none
      spells := .symbol .minus
      longest := scan_isLongest scanned
      opensNoComment := by simp [OpensNoComment, firstMinus]
      position := rfl }

/-- Behind a minus there is a string literal of which the last quote is escaped. -/
theorem tokenize_refused_iff_escapedQuote :
    tokenize "-\"\\\"" = .error ⟨.unterminatedText, ⟨1, 2⟩⟩ ∧
      tokenize "-" = .ok [⟨.symbol .minus, "-", ⟨1, 1⟩⟩, .endOfInput ⟨1, 2⟩] := by
  let rest : List Char := ['"', '\\', '"']
  have text : "-\"\\\"".toList = cutText [firstMinus] [] ++ rest := by decide
  have leads : LeadsTo [] [firstMinus] [] rest := ⟨fits_firstMinus rest, .none⟩
  have noEnd : closeText [] ['\\', '"'] = none := rfl
  have refused : Refused .unterminatedText LexCause.unterminatedText.text rest :=
    .openText (closeText_eq_none_iff.mp noEnd)
  obtain ⟨fails, before⟩ := tokenize_refused_iff "-\"\\\""
  exact ⟨(fails _).mpr ⟨[firstMinus], [], rest, text, leads, refused, rfl⟩,
    before [firstMinus] [] rest text leads⟩

end Lexical

end Kiss
