import Kiss.Proofs.Lexical.RoundTrip

/-!
# Reading two texts with a newline between them

A newline ends whatever stands at the end of a text: a word, a number, an operator that could
have been longer, a comment. So in front of a newline the pieces of a text that is read fit as they
do at its end (`IsCut.newline`), and what comes behind the newline is read as if it stood alone,
only further down, whether it can be read or not (`tokenize_behind_newline`). The end of the first
text is not seen.
-/

namespace Kiss

namespace Position

/-- The same column some lines further down. -/
def down (lines : Nat) (p : Position) : Position :=
  ⟨p.line + lines, p.column⟩

theorem advance_down (lines : Nat) (p : Position) (c : Char) :
    (p.down lines).advance c = (p.advance c).down lines := by
  unfold advance
  split
  · simp [down, Nat.add_right_comm]
  · rfl

theorem after_down (lines : Nat) (p : Position) (cs : List Char) :
    (p.down lines).after cs = (p.after cs).down lines := by
  induction cs generalizing p with
  | nil => rfl
  | cons c cs ih => rw [after_cons, after_cons, advance_down, ih]

/-- Behind a text and a newline, a position is as many lines further down. -/
theorem behind_newline (text more : List Char) :
    behind (text ++ '\n' :: more) = (behind more).down (1 + text.count '\n') := by
  have nextLine : (behind text).advance '\n' = start.down (1 + text.count '\n') := by
    simp only [advance, if_true, behind, down, start, Position.mk.injEq, and_true]
    omega
  rw [← after_behind, after_cons, nextLine, after_down, after_start]

end Position

/-- The same token at another place. -/
def Token.move (place : Position → Position) (t : Token) : Token :=
  { t with position := place t.position }

/-- The same error at another place. -/
def LexError.move (place : Position → Position) (e : LexError) : LexError :=
  { e with position := place e.position }

namespace Lexical

variable {gap spelling rest more : List Char}

/-- What is a gap at the end of a text is one in front of a newline. -/
theorem Gap.newline {others : List Char} (isGap : Gap gap []) (isOther : Gap others rest) :
    Gap (gap ++ '\n' :: others) rest := by
  generalize ends : ([] : List Char) = last at isGap
  induction isGap with
  | none => exact .blank (by decide) isOther
  | blank isBlank _ ih => exact .blank isBlank (ih ends)
  | @lineComment comment others last oneLine newlineNext _ ih =>
      subst ends
      rw [List.append_assoc]
      refine .lineComment oneLine ?_ (ih rfl)
      cases others with
      | nil => simp
      | cons c others => simpa using newlineNext
  | @blockComment comment others last noEnd _ ih =>
      rw [List.append_assoc]
      exact .blockComment noEnd (ih ends)

/-- A gap in front of something stands there whatever comes behind that. -/
theorem Gap.append (isGap : Gap gap rest) (notEmpty : rest ≠ []) (more : List Char) :
    Gap gap (rest ++ more) := by
  induction isGap with
  | none => exact .none
  | blank isBlank _ ih => exact .blank isBlank (ih notEmpty)
  | @lineComment comment others rest oneLine newlineNext _ ih =>
      refine .lineComment oneLine ?_ (ih notEmpty)
      obtain ⟨c, after, front⟩ :=
        List.exists_cons_of_ne_nil (List.append_ne_nil_of_right_ne_nil others notEmpty)
      rw [← List.append_assoc, front]
      simpa [front] using newlineNext
  | blockComment noEnd _ ih => exact .blockComment noEnd (ih notEmpty)

/-- The longest token at a place is the longest also if a newline comes behind the text. -/
theorem IsLongest.newline {kind : TokenKind} {value : String} (longest : IsLongest spelling rest)
    (spells : Spells kind value spelling) (more : List Char) :
    IsLongest spelling (rest ++ '\n' :: more) := by
  intro otherKind otherValue other otherSpells stands
  rw [← List.append_assoc] at stands
  by_cases inside : other.length ≤ (spelling ++ rest).length
  · exact longest _ _ _ otherSpells
      (List.prefix_of_prefix_length_le stands (List.prefix_append _ _) inside)
  · -- the other token would go on over the newline
    have crosses : spelling ++ rest ++ ['\n'] <+: other := by
      refine List.prefix_of_prefix_length_le ?_ stands ?_
      · exact ⟨more, by simp⟩
      · rw [List.length_append, List.length_singleton]
        omega
    obtain ⟨others, rfl⟩ := crosses
    rw [List.append_assoc, List.append_assoc] at otherSpells
    exact absurd (spells.goesOn_behind otherSpells '\n' (by simp)) (not_goesOn (by simp))

theorem OpensNoComment.newline (opens : OpensNoComment spelling rest) (more : List Char) :
    OpensNoComment spelling (rest ++ '\n' :: more) := by
  intro slash
  cases rest with
  | nil => simp
  | cons c rest => exact opens slash

/-- A piece further down. -/
def Piece.down (lines : Nat) (piece : Piece) : Piece :=
  { piece with token := piece.token.move (.down lines) }

variable {pieces : List Piece} {before last : List Char}

theorem cutText_down (lines : Nat) (pieces : List Piece) (last : List Char) :
    cutText (pieces.map (Piece.down lines)) last = cutText pieces last := by
  induction pieces with
  | nil => rfl
  | cons piece pieces ih => rw [List.map_cons, cutText, cutText, ih]; rfl

theorem Piece.Fits.down {piece : Piece} (fits : piece.Fits before rest) (text : List Char) :
    (piece.down (1 + text.count '\n')).Fits (text ++ '\n' :: before) rest :=
  { fits with
    position := by
      rw [List.append_assoc, List.cons_append]
      exact (congrArg _ fits.position).trans (Position.behind_newline text _).symm }

/-- Behind another text and a newline, pieces lead up to the same. -/
theorem LeadsTo.down (leads : LeadsTo before pieces last rest) (text : List Char) :
    LeadsTo (text ++ '\n' :: before) (pieces.map (Piece.down (1 + text.count '\n'))) last rest := by
  induction pieces generalizing before with
  | nil => exact leads
  | cons piece pieces ih =>
      obtain ⟨fits, further⟩ := leads
      refine ⟨by rw [cutText_down]; exact fits.down text, ?_⟩
      have there := ih further
      rwa [List.append_assoc, ← List.cons_append, ← List.append_assoc, ← List.append_assoc] at there

theorem cutText_append (pieces : List Piece) (last more : List Char) :
    cutText pieces (last ++ more) = cutText pieces last ++ more := by
  induction pieces with
  | nil => rfl
  | cons piece pieces ih => rw [cutText, cutText, ih, List.append_assoc _ _ more]

/-- The pieces of a text, and the newline as the end of its last gap, lead up to everything. -/
theorem IsCut.newline (isCut : IsCut before pieces last) (rest : List Char) :
    LeadsTo before pieces (last ++ ['\n']) rest := by
  induction pieces generalizing before with
  | nil =>
      have isGap : Gap last [] := isCut
      exact isGap.newline .none
  | cons piece pieces ih =>
      obtain ⟨fits, further⟩ := isCut
      refine ⟨?_, ih further⟩
      rw [cutText_append, List.append_assoc, List.singleton_append]
      exact { fits with
        isGap := by
          rw [← List.append_assoc]
          exact fits.isGap.append (by simp [fits.spells.ne_nil]) _
        longest := fits.longest.newline fits.spells rest
        opensNoComment := fits.opensNoComment.newline rest }

/-- Behind a text that is cut and a newline, another text is read as it is read by itself. -/
theorem IsCut.tokenize_newline {source : String} (isCut : IsCut [] pieces last)
    (text : source.toList = cutText pieces last) (other : String) :
    Kiss.tokenize (source ++ "\n" ++ other) =
      match Kiss.tokenize other with
      | .ok others =>
          .ok (pieces.map Piece.token ++
            others.map (Token.move (.down (1 + source.toList.count '\n'))))
      | .error e => .error (e.move (.down (1 + source.toList.count '\n'))) := by
  obtain ⟨otherPieces, otherLast, rest, otherText, leads, ends⟩ := exists_leadsTo [] other.toList
  have upTo := isCut.newline other.toList
  have whole : (source ++ "\n" ++ other).toList =
      cutText pieces (last ++ ['\n']) ++ other.toList := by
    rw [cutText_append, ← text]
    simp
  have lower := leads.down source.toList
  have tokens : ((otherPieces.map (Piece.down (1 + source.toList.count '\n'))).map Piece.token) =
      (otherPieces.map Piece.token).map (Token.move (.down (1 + source.toList.count '\n'))) := by
    simp [Piece.down]
  have further := lower.tokensFrom (pieces.map Piece.token).reverse
  rw [cutText_down, ← otherText, List.append_assoc, List.cons_append, List.nil_append, tokens]
    at further
  rw [upTo.tokenize whole, cutText_append, ← text, further, Position.behind_newline,
    leads.tokenize otherText]
  rcases ends with rfl | ⟨cause, wording, refused⟩
  · rw [tokensFrom_nil, tokensFrom_nil]
    simp [Token.move, Token.endOfInput]
  · rw [refused.tokensFrom, refused.tokensFrom]
    rfl

/-- The tokens of a text that is read, without its end, stand in front of whatever comes behind
    the text and a newline. -/
theorem exists_tokenize_newline {source : String} {ts : List Token}
    (read : tokenize source = .ok ts) :
    ∃ first p, ts = first ++ [.endOfInput p] ∧ (∀ t ∈ first, t.kind ≠ .endOfInput) ∧
      ∀ other, tokenize (source ++ "\n" ++ other) =
        match tokenize other with
        | .ok others =>
            .ok (first ++ others.map (Token.move (.down (1 + source.toList.count '\n'))))
        | .error e => .error (e.move (.down (1 + source.toList.count '\n'))) := by
  obtain ⟨pieces, last, text, isCut, rfl⟩ := exists_isCut_of_tokenize read
  exact ⟨pieces.map Piece.token, _, rfl, List.forall_mem_map.mpr isCut.kind_ne_endOfInput,
    isCut.tokenize_newline text⟩

/-- Whatever comes behind a text that is read and a newline is read as it is by itself, as many
    lines further down as the newlines are: to its tokens, its end among them, or to an error for
    the same cause in the same column. The tokens in front of it are those of the first text. -/
theorem tokenize_behind_newline {source : String} {ts : List Token}
    (read : tokenize source = .ok ts) (other : String) :
    ∃ first p, ts = first ++ [.endOfInput p] ∧ (∀ t ∈ first, t.kind ≠ .endOfInput) ∧
      match tokenize other with
      | .ok others => tokenize (source ++ "\n" ++ other) =
          .ok (first ++ others.map (Token.move (.down (1 + source.toList.count '\n'))))
      | .error e => tokenize (source ++ "\n" ++ other) =
          .error (e.move (.down (1 + source.toList.count '\n'))) := by
  obtain ⟨first, p, same, noEnd, joined⟩ := exists_tokenize_newline read
  refine ⟨first, p, same, noEnd, ?_⟩
  rw [joined other]
  cases tokenize other <;> rfl

/-- Behind a text that ends in a comment, what looks like a comment of its own has no end. -/
theorem tokenize_behind_newline_comment :
    tokenize "-//" = .ok [⟨.symbol .minus, "-", ⟨1, 1⟩⟩, .endOfInput ⟨1, 4⟩] ∧
      tokenize "-//\n/*/" = .error ⟨.unterminatedComment, ⟨2, 1⟩⟩ := by
  have oneLine : '\n' ∉ ([] : List Char) := by simp
  have isGap : Gap ['/', '/'] [] := .lineComment oneLine (by simp) .none
  have isCut : IsCut [] [firstMinus] ['/', '/'] := ⟨fits_firstMinus _, isGap⟩
  have read : tokenize "-//" = .ok (cutTokens [] [firstMinus] ['/', '/']) :=
    isCut.tokenize (by decide)
  have noEnd : ¬['*', '/'] <:+: ['/'] := by decide
  have refused : Refused .unterminatedComment LexCause.unterminatedComment.text "/*/".toList :=
    .openComment noEnd
  have otherRefused : tokenize "/*/" = .error ⟨.unterminatedComment, .start⟩ :=
    refused.tokensFrom [] .start
  obtain ⟨_, _, _, _, behind⟩ := tokenize_behind_newline read "/*/"
  rw [otherRefused] at behind
  exact ⟨read, behind⟩

end Lexical

end Kiss
