import Kiss.Proofs.Lexical.Loop
import Kiss.Proofs.Lexical.Gap

/-!
# Skipping by index

The loops over rows of characters, over the inside of a comment, and over all that may stand in
front of a token: for each what a round comes to (one lemma for each front that the rest of the
source may have), that its rounds advance, and from both what the whole loop comes to. The last of
them, `skipTrivia_skips`, says that what is skipped is what the lexer skips.
-/

namespace Kiss.Lexical.Scanning

open Lexer

variable {c : Cursor} {d e : Char} {cs after : List Char} {rounds : Nat}

/-! ### Rows of characters -/

section Rows

variable {p : Char → Bool} {row : List Char}

theorem rowRound_nil (front : c.rest = []) : rowRound p row c = .ok (.done row, c) := by
  rw [rowRound, atEnd_nil front]
  rfl

theorem rowRound_cons (front : c.rest = d :: cs) :
    rowRound p row c =
      if p d then .ok (.yield (row ++ [d]), c.past [d]) else .ok (.done row, c) := by
  rw [rowRound, atEnd_cons front, peek_bind front]
  split
  · exact advance_bind front _
  · rfl

theorem rowRound_advances (p : Char → Bool) : Advances rounds (rowRound p) := by
  intro row c fits
  cases front : c.rest with
  | nil =>
      rw [rowRound_nil front]
      exact fits.reaches_self
  | cons d cs =>
      rw [rowRound_cons front]
      split
      · exact Cursor.reaches_past_singleton fits front
      · exact fits.reaches_self

/-- All characters of the class are taken that stand in front. -/
theorem loop_rowRound (fits : c.Fits rounds) (p : Char → Bool) (row : List Char) :
    loop (rowRound p) rounds row c =
      .ok (row ++ c.rest.takeWhile p, c.past (c.rest.takeWhile p)) := by
  refine (rowRound_advances p).loop (R := fun row c result =>
    result = .ok (row ++ c.rest.takeWhile p, c.past (c.rest.takeWhile p))) ?_ fits
    (length_rest_lt fits)
  intro row c fits
  cases front : c.rest with
  | nil =>
      rw [rowRound_nil front]
      simp [HandsOn, front]
  | cons d cs =>
      have behind : (c.past [d]).rest = cs := Cursor.rest_past_singleton front
      rw [rowRound_cons front]
      by_cases inside : p d = true
      · simp [HandsOn, inside, front, behind]
      · simp [HandsOn, inside, front]

end Rows

/-! ### White space and comments -/

section Comments

variable {opening : Position}

/-- What a comment goes on with: nothing, its end, or another character. -/
inductive CommentFront : List Char → Prop where
  | nil : CommentFront []
  | close {cs : List Char} : CommentFront ('*' :: '/' :: cs)
  | inside {d : Char} {cs : List Char} (noEnd : ¬(d = '*' ∧ cs.head? = some '/')) :
      CommentFront (d :: cs)

theorem commentFront (cs : List Char) : CommentFront cs := by
  rcases cs with _ | ⟨d, cs⟩
  · exact .nil
  by_cases ends : d = '*' ∧ cs.head? = some '/'
  · obtain ⟨rfl, next⟩ := ends
    obtain ⟨others, rfl⟩ := List.head?_eq_some_iff.mp next
    exact .close
  · exact .inside ends

theorem commentRound_nil (front : c.rest = []) :
    commentRound opening () c = .error (.refused ⟨.unterminatedComment, opening⟩) := by
  rw [commentRound, atEnd_nil front]
  rfl

theorem commentRound_close (front : c.rest = '*' :: '/' :: after) :
    commentRound opening () c = .ok (.done (), c.past ['*', '/']) := by
  have behind : (c.past ['*']).rest = '/' :: after := Cursor.rest_past_singleton front
  rw [commentRound, atEnd_cons front, peek_bind front, ahead_bind front, if_pos ⟨rfl, rfl⟩,
    advance_bind front, advance_bind behind, Cursor.past_past]
  rfl

theorem commentRound_inside (front : c.rest = d :: cs)
    (noEnd : ¬(d = '*' ∧ cs.head? = some '/')) :
    commentRound opening () c = .ok (.yield (), c.past [d]) := by
  rw [commentRound, atEnd_cons front, peek_bind front, ahead_bind front, if_neg noEnd,
    advance_bind front]
  rfl

theorem commentRound_advances (opening : Position) : Advances rounds (commentRound opening) := by
  rintro ⟨⟩ c fits
  generalize front : c.rest = cs
  cases commentFront cs with
  | nil =>
      rw [commentRound_nil front]
      exact ⟨_, rfl⟩
  | close =>
      rw [commentRound_close front]
      exact (Cursor.reaches_past fits (show c.rest = ['*', '/'] ++ _ from front)).mono
        (Nat.zero_le _)
  | inside noEnd =>
      rw [commentRound_inside front noEnd]
      exact Cursor.reaches_past_singleton fits front

/-- A comment is passed with its end if it has one, and else refused. -/
def ClosesComment (opening : Position) (c : Cursor) (result : Except Halt (Unit × Cursor)) : Prop :=
  ∀ taken, match closeComment taken c.rest with
    | some (comment, _) =>
        ∃ inside, comment = taken.reverse ++ inside ∧ result = .ok ((), c.past inside)
    | none => result = .error (.refused ⟨.unterminatedComment, opening⟩)

theorem loop_commentRound (fits : c.Fits rounds) (opening : Position) :
    ClosesComment opening c (loop (commentRound opening) rounds () c) := by
  refine (commentRound_advances opening).loop (R := fun _ => ClosesComment opening) ?_ fits
    (length_rest_lt fits)
  rintro ⟨⟩ c fits
  generalize front : c.rest = cs
  cases commentFront cs with
  | nil =>
      rw [commentRound_nil front]
      intro taken
      rw [front]
      rfl
  | close =>
      rw [commentRound_close front]
      intro taken
      rw [front]
      exact ⟨['*', '/'], by simp, rfl⟩
  | @inside d cs noEnd =>
      rw [commentRound_inside front noEnd]
      intro result closes taken
      have same : closeComment taken (d :: cs) = closeComment (d :: taken) cs := by
        refine closeComment.eq_3 taken d cs fun others star slash => noEnd ⟨star, ?_⟩
        rw [slash]
        rfl
      have handed := closes (d :: taken)
      rw [Cursor.rest_past_singleton front] at handed
      rw [front, same]
      cases closed : closeComment (d :: taken) cs with
      | none =>
          rw [closed] at handed
          exact handed
      | some parts =>
          obtain ⟨comment, behind⟩ := parts
          rw [closed] at handed
          obtain ⟨inside, whole, rfl⟩ := handed
          exact ⟨d :: inside, by simp [whole], by simp⟩

theorem skipComment_eq (fits : c.Fits rounds) (front : c.rest = '/' :: '*' :: cs) :
    skipComment rounds c =
      match closeComment ['*', '/'] cs with
      | some (comment, _) => .ok ((), c.past comment)
      | none => .error (.refused ⟨.unterminatedComment, c.place⟩) := by
  have opened : c.rest = ['/', '*'] ++ cs := front
  have inside : (c.past ['/']).rest = '*' :: cs := Cursor.rest_past_singleton front
  have closes := loop_commentRound (Cursor.fits_past fits opened) c.place ['*', '/']
  rw [Cursor.rest_past opened] at closes
  rw [skipComment, place_bind, advance_bind front, advance_bind inside, Cursor.past_past]
  cases closed : closeComment ['*', '/'] cs with
  | none =>
      rw [closed] at closes
      exact closes
  | some parts =>
      obtain ⟨comment, behind⟩ := parts
      rw [closed] at closes
      obtain ⟨inside, whole, ends⟩ := closes
      show loop (commentRound c.place) rounds () (c.past ['/', '*']) = _
      rw [ends, Cursor.past_past, whole]
      rfl

end Comments

section Trivia

/-- What may stand in front of a token: nothing, white space, one of the two kinds of comment, or
    the token itself. -/
inductive TriviaFront : List Char → Prop where
  | nil : TriviaFront []
  | blank {d : Char} {cs : List Char} (isBlank : Character.isWhiteSpace d = true) :
      TriviaFront (d :: cs)
  | line {cs : List Char} : TriviaFront ('/' :: '/' :: cs)
  | comment {cs : List Char} : TriviaFront ('/' :: '*' :: cs)
  | token {d : Char} {cs : List Char} (noBlank : Character.isWhiteSpace d = false)
      (noLine : ¬(d = '/' ∧ cs.head? = some '/')) (noComment : ¬(d = '/' ∧ cs.head? = some '*')) :
      TriviaFront (d :: cs)

theorem triviaFront (cs : List Char) : TriviaFront cs := by
  rcases cs with _ | ⟨d, cs⟩
  · exact .nil
  by_cases isBlank : Character.isWhiteSpace d = true
  · exact .blank isBlank
  by_cases isLine : d = '/' ∧ cs.head? = some '/'
  · obtain ⟨rfl, next⟩ := isLine
    obtain ⟨others, rfl⟩ := List.head?_eq_some_iff.mp next
    exact .line
  by_cases isComment : d = '/' ∧ cs.head? = some '*'
  · obtain ⟨rfl, next⟩ := isComment
    obtain ⟨others, rfl⟩ := List.head?_eq_some_iff.mp next
    exact .comment
  exact .token (Bool.eq_false_iff.mpr isBlank) isLine isComment

theorem triviaRound_nil (front : c.rest = []) : triviaRound rounds () c = .ok (.done (), c) := by
  rw [triviaRound, atEnd_nil front]
  rfl

theorem triviaRound_blank (front : c.rest = d :: cs) (isBlank : Character.isWhiteSpace d = true) :
    triviaRound rounds () c = .ok (.yield (), c.past [d]) := by
  rw [triviaRound, atEnd_cons front, peek_bind front, if_pos isBlank, advance_bind front]
  rfl

theorem triviaRound_line (fits : c.Fits rounds) (front : c.rest = '/' :: '/' :: cs) :
    triviaRound rounds () c =
      .ok (.yield (), c.past ('/' :: '/' :: cs.takeWhile fun d => decide (d ≠ '\n'))) := by
  have taken := loop_rowRound fits (fun d => decide (d ≠ '\n')) []
  rw [front] at taken
  rw [triviaRound, atEnd_cons front, peek_bind front, if_neg (by decide), ahead_bind front,
    if_pos ⟨rfl, rfl⟩, bind_ok taken]
  rfl

theorem triviaRound_comment (fits : c.Fits rounds) (front : c.rest = '/' :: '*' :: cs) :
    triviaRound rounds () c =
      match closeComment ['*', '/'] cs with
      | some (comment, _) => .ok (.yield (), c.past comment)
      | none => .error (.refused ⟨.unterminatedComment, c.place⟩) := by
  have skipped := skipComment_eq fits front
  rw [triviaRound, atEnd_cons front, peek_bind front, if_neg (by decide), ahead_bind front,
    if_neg (by simp), ahead_bind front, if_pos ⟨rfl, rfl⟩]
  cases closed : closeComment ['*', '/'] cs with
  | none =>
      rw [closed] at skipped
      exact bind_error skipped
  | some parts =>
      rw [closed] at skipped
      exact bind_ok skipped

theorem triviaRound_token (front : c.rest = d :: cs) (noBlank : Character.isWhiteSpace d = false)
    (noLine : ¬(d = '/' ∧ cs.head? = some '/')) (noComment : ¬(d = '/' ∧ cs.head? = some '*')) :
    triviaRound rounds () c = .ok (.done (), c) := by
  rw [triviaRound, atEnd_cons front, peek_bind front, if_neg (by simp [noBlank]),
    ahead_bind front, if_neg noLine, ahead_bind front, if_neg noComment]
  rfl

theorem rest_line (front : c.rest = '/' :: '/' :: cs) :
    c.rest = ('/' :: '/' :: cs.takeWhile fun d => decide (d ≠ '\n')) ++
      cs.dropWhile fun d => decide (d ≠ '\n') := by
  rw [List.cons_append, List.cons_append, List.takeWhile_append_dropWhile]
  exact front

theorem rest_comment {comment behind : List Char} (front : c.rest = '/' :: '*' :: cs)
    (closed : closeComment ['*', '/'] cs = some (comment, behind)) :
    c.rest = comment ++ behind := by
  obtain ⟨inside, rfl, rfl, _⟩ := closeComment_eq_some closed
  simpa using front

theorem triviaRound_advances (rounds : Nat) : Advances rounds (triviaRound rounds) := by
  rintro ⟨⟩ c fits
  generalize front : c.rest = cs
  cases triviaFront cs with
  | nil =>
      rw [triviaRound_nil front]
      exact fits.reaches_self
  | blank isBlank =>
      rw [triviaRound_blank front isBlank]
      exact Cursor.reaches_past_singleton fits front
  | @line cs =>
      rw [triviaRound_line fits front]
      exact (Cursor.reaches_past fits (rest_line front)).mono (by simp)
  | comment =>
      rw [triviaRound_comment fits front]
      split
      · rename_i comment behind closed
        have notEmpty : 1 ≤ comment.length := by
          obtain ⟨inside, rfl, _⟩ := closeComment_eq_some closed
          simp
        exact (Cursor.reaches_past fits (rest_comment front closed)).mono notEmpty
      · exact ⟨_, rfl⟩
  | token noBlank noLine noComment =>
      rw [triviaRound_token front noBlank noLine noComment]
      exact fits.reaches_self

/-- The cursor is moved as far as the lexer skips, and the source is refused if the lexer refuses
    it. -/
def Skips (c : Cursor) (result : Except Halt (Unit × Cursor)) : Prop :=
  match Lexer.skipTrivia c.place c.rest with
  | .ok (p, behind) => ∃ gap, c.rest = gap ++ behind ∧ p = c.place.after gap ∧
      result = .ok ((), c.past gap)
  | .error e => result = .error (.refused e)

/-- What is skipped behind characters that are skipped is skipped with them. -/
theorem Skips.of_past {taken behind : List Char} {result : Except Halt (Unit × Cursor)}
    (front : c.rest = taken ++ behind)
    (same : Lexer.skipTrivia c.place c.rest = Lexer.skipTrivia (c.place.after taken) behind)
    (skips : Skips (c.past taken) result) : Skips c result := by
  rw [Skips, Cursor.rest_past front] at skips
  rw [Skips, same]
  show match Lexer.skipTrivia (c.past taken).place behind with
    | .ok (p, behind) => _
    | .error e => _
  cases left : Lexer.skipTrivia (c.past taken).place behind with
  | error e =>
      rw [left] at skips
      exact skips
  | ok reached =>
      obtain ⟨p, last⟩ := reached
      rw [left] at skips
      obtain ⟨gap, rfl, rfl, rfl⟩ := skips
      refine ⟨taken ++ gap, ?_, ?_, ?_⟩
      · rw [front, List.append_assoc]
      · rw [Position.after_append]
        rfl
      · rw [Cursor.past_past]

theorem skipTrivia_skips (fits : c.Fits rounds) : Skips c (skipTrivia rounds c) := by
  refine (triviaRound_advances rounds).loop (R := fun _ => Skips) ?_ fits (length_rest_lt fits)
  rintro ⟨⟩ c fits
  generalize front : c.rest = cs
  cases triviaFront cs with
  | nil =>
      rw [triviaRound_nil front]
      show Skips c _
      rw [Skips, front, Lexer.skipTrivia.eq_1]
      exact ⟨[], rfl, rfl, rfl⟩
  | @blank d cs isBlank =>
      rw [triviaRound_blank front isBlank]
      have noSlash : d ≠ '/' := by
        rintro rfl
        exact absurd isBlank (by decide)
      refine fun result => Skips.of_past front ?_
      rw [front, Lexer.skipTrivia.eq_4, if_pos isBlank]
      · rfl
      · exact fun _ slash _ => noSlash slash
      · exact fun _ slash _ => noSlash slash
  | @line cs =>
      rw [triviaRound_line fits front]
      refine fun result => Skips.of_past (rest_line front) ?_
      rw [front, Lexer.skipTrivia.eq_2]
  | @comment cs =>
      rw [triviaRound_comment fits front]
      cases closed : closeComment ['*', '/'] cs with
      | none =>
          show Skips c _
          rw [Skips, front, Lexer.skipTrivia.eq_3, closed]
      | some parts =>
          obtain ⟨comment, behind⟩ := parts
          refine fun result => Skips.of_past (rest_comment front closed) ?_
          rw [front, Lexer.skipTrivia.eq_3, closed]
  | @token d cs noBlank noLine noComment =>
      rw [triviaRound_token front noBlank noLine noComment]
      show Skips c _
      rw [Skips, front, Lexer.skipTrivia.eq_4, noBlank]
      · exact ⟨[], rfl, rfl, rfl⟩
      · rintro others slash rfl
        exact noLine ⟨slash, rfl⟩
      · rintro others slash rfl
        exact noComment ⟨slash, rfl⟩

end Trivia

end Kiss.Lexical.Scanning
