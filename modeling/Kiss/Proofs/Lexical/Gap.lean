import Kiss.Proofs.Lexical.Scan

/-!
# Skipping white space and comments

In front of every text there is a gap, and behind it a token may begin, or a comment that has no
end (`exists_gap`). A gap is skipped whatever is behind it, so skipping stops just there.
`Spells.beginsToken` says that a token may begin in front of every token.
-/

namespace Kiss.Lexical

open Lexer

variable {c : Char} {cs rest gap : List Char} {p q : Position}

/-- Neither white space nor a comment stands in front of a text. -/
def BeginsToken (cs : List Char) : Prop :=
  ∀ c ∈ cs.head?, Character.isWhiteSpace c = false ∧
    (c = '/' → ∀ d ∈ cs.tail.head?, d ≠ '/' ∧ d ≠ '*')

/-- A comment stands in front of a text that has no end. -/
def OpensComment (cs : List Char) : Prop :=
  ∃ inside, cs = '/' :: '*' :: inside ∧ ¬['*', '/'] <:+: inside

section Fronts

variable {kind : TokenKind} {value : String} {spelling others : List Char}

theorem isWhiteSpace_of_isDigit (digit : c.isDigit = true) :
    Character.isWhiteSpace c = false := by
  simp only [Char.isDigit, Bool.and_eq_true, decide_eq_true_eq] at digit
  have lower : 48 ≤ c.toNat := digit.1
  have upper : c.toNat ≤ 57 := digit.2
  rw [Bool.eq_false_iff, Character.isWhiteSpace, ne_eq,
    Character.inRanges_iff Character.whiteSpaceRanges_ascending]
  rintro ⟨range, member, bounds⟩
  simp only [Character.whiteSpaceRanges, List.mem_cons, List.not_mem_nil, or_false] at member
  rcases member with rfl | rfl | rfl | rfl | rfl | rfl | rfl | rfl | rfl | rfl <;> omega

/-- The two tables of characters have nothing in common. -/
theorem whiteSpace_not_alphabetic :
    ∀ range ∈ Character.whiteSpaceRanges, ∀ offset < range.2 + 1 - range.1,
      Character.inRanges Character.alphabeticRanges (range.1 + offset) = false := by
  decide +kernel

/-- No word begins with white space. -/
theorem isWhiteSpace_of_isWordStart (starts : isWordStart c = true) :
    Character.isWhiteSpace c = false := by
  rw [Bool.eq_false_iff, Character.isWhiteSpace, ne_eq,
    Character.inRanges_iff Character.whiteSpaceRanges_ascending]
  rintro ⟨range, member, lower, upper⟩
  have noLetter := whiteSpace_not_alphabetic range member (c.toNat - range.1) (by omega)
  rw [Nat.add_sub_cancel' lower] at noLetter
  rw [isWordStart, Character.isAlphabetic, noLetter, Bool.false_or, beq_iff_eq] at starts
  subst starts
  revert lower upper
  revert range
  decide

/-- No token begins with white space. -/
theorem Spells.front_not_blank (spells : Spells kind value spelling)
    (front : spelling = c :: others) : Character.isWhiteSpace c = false := by
  cases spells with
  | keyword k => cases k <;> cases front <;> decide
  | symbol s => cases s <;> cases front <;> decide
  | number isNumber => exact isWhiteSpace_of_isDigit (isNumber.front front)
  | word isWord =>
      subst front
      exact isWhiteSpace_of_isWordStart isWord.1
  | hexNumber | text =>
      cases front
      decide

/-- Only the slash is written with a slash in front. -/
theorem Spells.eq_slash (spells : Spells kind value spelling)
    (front : spelling = '/' :: others) : spelling = ['/'] := by
  cases spells with
  | keyword k => cases k <;> cases front
  | symbol s =>
      cases s <;> cases front
      rfl
  | number isNumber => exact absurd (isNumber.front front) (by decide)
  | word isWord =>
      subst front
      exact absurd isWord.1 (by decide)
  | hexNumber | text => cases front

theorem Spells.beginsToken (spells : Spells kind value spelling) {rest : List Char}
    (opens : OpensNoComment spelling rest) : BeginsToken (spelling ++ rest) := by
  obtain ⟨c, others, rfl⟩ := List.exists_cons_of_ne_nil spells.ne_nil
  rintro d member
  cases member
  refine ⟨spells.front_not_blank rfl, ?_⟩
  rintro rfl e next
  have alone := spells.eq_slash rfl
  have nothing : others = [] := (List.cons.inj alone).2
  subst nothing
  exact opens rfl e next

end Fronts

section Comments

variable {taken comment : List Char}

/-- A comment that is closed ends at its first end. -/
theorem closeComment_eq_some (closed : closeComment taken cs = some (comment, rest)) :
    ∃ inside, comment = taken.reverse ++ inside ++ ['*', '/'] ∧
      cs = inside ++ '*' :: '/' :: rest ∧ ¬['*', '/'] <:+: inside := by
  fun_induction closeComment taken cs with
  | case1 => cases closed
  | case2 taken after =>
      cases closed
      exact ⟨[], by simp, rfl, by simp⟩
  | case3 taken c after noEnd ih =>
      obtain ⟨inside, rfl, rfl, others⟩ := ih closed
      refine ⟨c :: inside, by simp, rfl, fun infixed => ?_⟩
      -- an end at the very front would have closed the comment here
      rcases List.infix_cons_iff.mp infixed with ⟨behind, front⟩ | infixed
      · obtain ⟨rfl, tail⟩ := List.cons.inj front
        exact noEnd (behind ++ '*' :: '/' :: rest) rfl (by rw [← tail]; rfl)
      · exact others infixed

/-- What has no comment end in it is read as the inside of a comment. -/
theorem closeComment_inside {inside : List Char} (noEnd : ¬['*', '/'] <:+: inside) :
    closeComment taken (inside ++ '*' :: '/' :: rest) =
      some (taken.reverse ++ inside ++ ['*', '/'], rest) := by
  induction inside generalizing taken with
  | nil => simp [closeComment]
  | cons c inside ih =>
      simp only [List.infix_cons_iff, not_or] at noEnd
      obtain ⟨notHere, notLater⟩ := noEnd
      rw [List.cons_append, closeComment.eq_3, ih notLater]
      · simp
      · rintro after rfl front
        cases inside with
        | nil => simp at front
        | cons d others =>
            obtain ⟨rfl, _⟩ := List.cons.inj front
            exact notHere ⟨others, rfl⟩

/-- A comment is not closed if it has no end at all. -/
theorem closeComment_eq_none_iff : closeComment taken cs = none ↔ ¬['*', '/'] <:+: cs := by
  fun_induction closeComment taken cs with
  | case1 => simp
  | case2 taken after =>
      have ended : ['*', '/'] <:+: '*' :: '/' :: after := ⟨[], after, rfl⟩
      simp [ended]
  | case3 taken c after noEnd ih =>
      have notHere : ¬['*', '/'] <+: c :: after := by
        rintro ⟨behind, front⟩
        obtain ⟨rfl, rfl⟩ := List.cons.inj front
        exact noEnd behind rfl rfl
      rw [ih, List.infix_cons_iff]
      simp [notHere]

/-- A comment to the end of the line is taken up to there. -/
theorem takeWhile_line {comment : List Char} (oneLine : '\n' ∉ comment)
    (ends : ∀ c ∈ rest.head?, c = '\n') :
    (comment ++ rest).takeWhile (fun c => decide (c ≠ '\n')) = comment ∧
      (comment ++ rest).dropWhile (fun c => decide (c ≠ '\n')) = rest := by
  have inside : ∀ c ∈ comment, decide (c ≠ '\n') = true := by
    intro c member
    exact decide_eq_true fun same => oneLine (same ▸ member)
  rw [List.takeWhile_append_of_pos inside, List.dropWhile_append_of_pos inside]
  cases rest with
  | nil => simp
  | cons c others => simp [ends c rfl]

end Comments

/-- In front of every text there is a gap that goes on up to a token or to a comment without an
    end. -/
theorem exists_gap (p : Position) (cs : List Char) :
    ∃ gap rest, cs = gap ++ rest ∧ Gap gap rest ∧ (BeginsToken rest ∨ OpensComment rest) := by
  induction p, cs using Lexer.skipTrivia.induct with
  | case1 => exact ⟨[], [], rfl, .none, .inl (by simp [BeginsToken])⟩
  | case2 p after comment ih =>
      obtain ⟨gap, rest, parts, isGap, stops⟩ := ih
      refine ⟨comment ++ gap, rest, ?_, ?_, stops⟩
      · rw [List.append_assoc, ← parts]
        simp [comment]
      · refine .lineComment (fun member => ?_) (fun d member => ?_) isGap
        · simpa using List.mem_takeWhile_imp member
        · have stop := List.head?_dropWhile_not (fun c => decide (c ≠ '\n')) after
          rw [← parts] at member
          rw [Option.mem_def.mp member] at stop
          simpa using stop
  | case3 p after comment left closed ih =>
      obtain ⟨gap, rest, parts, isGap, stops⟩ := ih
      obtain ⟨inside, rfl, rfl, noEnd⟩ := closeComment_eq_some closed
      exact ⟨'/' :: '*' :: inside ++ '*' :: '/' :: gap, rest, by simp [parts],
        .blockComment noEnd isGap, stops⟩
  | case4 p after closed =>
      exact ⟨[], _, rfl, .none, .inr ⟨after, rfl, closeComment_eq_none_iff.mp closed⟩⟩
  | case5 p c after _ _ blank ih =>
      obtain ⟨gap, rest, rfl, isGap, stops⟩ := ih
      exact ⟨c :: gap, rest, rfl, .blank blank isGap, stops⟩
  | case6 p c after noLine noBlock noBlank =>
      refine ⟨[], c :: after, rfl, .none, .inl ?_⟩
      rintro d member
      cases member
      refine ⟨by simpa using noBlank, fun slash d next => ?_⟩
      obtain ⟨others, rfl⟩ := List.head?_eq_some_iff.mp next
      constructor
      · rintro rfl
        exact noLine others slash rfl
      · rintro rfl
        exact noBlock others slash rfl

/-- Nothing is skipped where a token begins. -/
theorem BeginsToken.skipTrivia (begins : BeginsToken rest) (p : Position) :
    Lexer.skipTrivia p rest = .ok (p, rest) := by
  cases rest with
  | nil => rw [Lexer.skipTrivia.eq_1]
  | cons c others =>
      obtain ⟨noBlank, noComment⟩ := begins c rfl
      rw [Lexer.skipTrivia.eq_4, noBlank]
      · rfl
      · rintro after slash rfl
        exact (noComment slash '/' rfl).1 rfl
      · rintro after slash rfl
        exact (noComment slash '*' rfl).2 rfl

theorem OpensComment.skipTrivia (opens : OpensComment rest) (p : Position) :
    Lexer.skipTrivia p rest = .error ⟨.unterminatedComment, p⟩ := by
  obtain ⟨inside, rfl, noEnd⟩ := opens
  rw [Lexer.skipTrivia.eq_3, closeComment_eq_none_iff.mpr noEnd]

/-- A gap is skipped before all that is behind it. -/
theorem Gap.skipTrivia_append (isGap : Gap gap rest) :
    ∀ p, Lexer.skipTrivia p (gap ++ rest) = Lexer.skipTrivia (p.after gap) rest := by
  induction isGap with
  | none => exact fun p => rfl
  | @blank c others rest isBlank _ ih =>
      intro p
      have noSlash : c ≠ '/' := by
        rintro rfl
        exact absurd isBlank (by decide)
      rw [List.cons_append, Lexer.skipTrivia.eq_4, isBlank, if_pos rfl, ih]
      · rfl
      · exact fun _ slash _ => noSlash slash
      · exact fun _ slash _ => noSlash slash
  | @lineComment comment others rest oneLine ends _ ih =>
      intro p
      obtain ⟨taken, left⟩ := takeWhile_line oneLine ends
      rw [List.cons_append, List.cons_append, List.cons_append, List.cons_append,
        List.append_assoc, Lexer.skipTrivia.eq_2, taken, left, ih, ← Position.after_append]
      rfl
  | @blockComment comment others rest noEnd _ ih =>
      intro p
      have closed := @closeComment_inside (others ++ rest) ['*', '/'] comment noEnd
      simp only [List.cons_append, List.append_assoc]
      rw [Lexer.skipTrivia.eq_3, closed]
      simp only [ih, ← Position.after_append]
      simp

/-- A gap in front of a token is skipped as a whole. -/
theorem Gap.skipTrivia (isGap : Gap gap rest) (begins : BeginsToken rest) (p : Position) :
    Lexer.skipTrivia p (gap ++ rest) = .ok (p.after gap, rest) := by
  rw [isGap.skipTrivia_append, begins.skipTrivia]

end Kiss.Lexical
