import Kiss.Proofs.Lexical.Scan
import Kiss.Proofs.Lexical.Skipping

/-!
# Literals by index

The loops over the items of a string literal and over the digits of a number, in the same way as
those over white space and comments: rounds by fronts, progress, and what the whole loop comes to.
A backslash takes the character behind it along if there is one, and a point needs a digit behind
it; both are looked for in the source before they are read.
-/

namespace Kiss.Lexical.Scanning

open Lexer

variable {c : Cursor} {d e : Char} {cs : List Char} {rounds : Nat}

/-! ### String literals -/

section Texts

variable {meant : List Char}

/-- What a string literal goes on with: nothing, its end, a backslash with or without a character
    behind it, or another character. -/
inductive TextFront : List Char → Prop where
  | nil : TextFront []
  | close {cs : List Char} : TextFront ('"' :: cs)
  | escaped {e : Char} {cs : List Char} : TextFront ('\\' :: e :: cs)
  | backslash : TextFront ['\\']
  | plain {d : Char} {cs : List Char} (noQuote : d ≠ '"') (noBackslash : d ≠ '\\') :
      TextFront (d :: cs)

theorem textFront (cs : List Char) : TextFront cs := by
  rcases cs with _ | ⟨d, cs⟩
  · exact .nil
  by_cases quote : d = '"'
  · subst quote
    exact .close
  by_cases backslash : d = '\\'
  · subst backslash
    cases cs with
    | nil => exact .backslash
    | cons e cs => exact .escaped
  exact .plain quote backslash

theorem textRound_nil (front : c.rest = []) : textRound meant c = .ok (.done meant, c) := by
  rw [textRound, atEnd_nil front]
  rfl

theorem textRound_close (front : c.rest = '"' :: cs) :
    textRound meant c = .ok (.done meant, c) := by
  rw [textRound, atEnd_cons front, peek_bind front, if_pos rfl]
  rfl

theorem textRound_escaped (front : c.rest = '\\' :: e :: cs) :
    textRound meant c =
      .ok (.yield (meant ++ (TextItem.escaped e).meaning), c.past ['\\', e]) := by
  have behind : (c.past ['\\']).rest = e :: cs := Cursor.rest_past_singleton front
  rw [textRound, atEnd_cons front, peek_bind front, if_neg (by decide), if_pos rfl,
    advance_bind front, atEnd_cons behind, peek_bind behind, advance_bind behind, Cursor.past_past]
  rfl

theorem textRound_backslash (front : c.rest = ['\\']) :
    textRound meant c = .ok (.done meant, c.past ['\\']) := by
  have behind : (c.past ['\\']).rest = [] := Cursor.rest_past_singleton front
  rw [textRound, atEnd_cons front, peek_bind front, if_neg (by decide), if_pos rfl,
    advance_bind front, atEnd_nil behind]
  rfl

theorem textRound_plain (front : c.rest = d :: cs) (noQuote : d ≠ '"') (noBackslash : d ≠ '\\') :
    textRound meant c = .ok (.yield (meant ++ [d]), c.past [d]) := by
  rw [textRound, atEnd_cons front, peek_bind front, if_neg noQuote, if_neg noBackslash,
    advance_bind front]
  rfl

theorem textRound_advances : Advances rounds textRound := by
  intro meant c fits
  generalize front : c.rest = cs
  cases textFront cs with
  | nil =>
      rw [textRound_nil front]
      exact fits.reaches_self
  | close =>
      rw [textRound_close front]
      exact fits.reaches_self
  | escaped =>
      rw [textRound_escaped front]
      exact (Cursor.reaches_past fits (show c.rest = ['\\', _] ++ _ from front)).mono (by simp)
  | backslash =>
      rw [textRound_backslash front]
      exact (Cursor.reaches_past_singleton fits front).mono (Nat.zero_le _)
  | plain noQuote noBackslash =>
      rw [textRound_plain front noQuote noBackslash]
      exact Cursor.reaches_past_singleton fits front

/-- The cursor is moved to the closing quote if there is one, and else to the end of the source. -/
def ReadsText (meant : List Char) (c : Cursor) (result : Except Halt (List Char × Cursor)) : Prop :=
  ∀ taken, match closeText taken c.rest with
    | some (items, behind) => ∃ new, items = taken.reverse ++ new ∧
        c.rest = new.flatMap TextItem.spelling ++ '"' :: behind ∧
        result = .ok (meant ++ new.flatMap TextItem.meaning, c.past (new.flatMap TextItem.spelling))
    | none => ∃ last d, result = .ok (last, d) ∧ d.rest = []

/-- An item in front of a text is read with it. -/
theorem ReadsText.of_item {item : TextItem} {behind : List Char}
    {result : Except Halt (List Char × Cursor)} (front : c.rest = item.spelling ++ behind)
    (same : ∀ taken, closeText taken c.rest = closeText (item :: taken) behind)
    (reads : ReadsText (meant ++ item.meaning) (c.past item.spelling) result) :
    ReadsText meant c result := by
  intro taken
  have handed := reads (item :: taken)
  rw [Cursor.rest_past front] at handed
  rw [same]
  cases closed : closeText (item :: taken) behind with
  | none =>
      rw [closed] at handed
      exact handed
  | some parts =>
      obtain ⟨items, last⟩ := parts
      rw [closed] at handed
      obtain ⟨new, rfl, rfl, rfl⟩ := handed
      exact ⟨item :: new, by simp, by simp [front], by simp⟩

theorem loop_textRound (fits : c.Fits rounds) (meant : List Char) :
    ReadsText meant c (loop textRound rounds meant c) := by
  refine textRound_advances.loop ?_ fits (length_rest_lt fits)
  intro meant c fits
  generalize front : c.rest = cs
  cases textFront cs with
  | nil =>
      rw [textRound_nil front]
      intro taken
      rw [front]
      exact ⟨meant, c, rfl, front⟩
  | close =>
      rw [textRound_close front]
      intro taken
      rw [front]
      exact ⟨[], by simp, rfl, by simp⟩
  | @escaped e cs =>
      rw [textRound_escaped front]
      have whole : c.rest = (TextItem.escaped e).spelling ++ cs := front
      refine fun result => ReadsText.of_item whole fun taken => ?_
      rw [front, closeText]
  | backslash =>
      rw [textRound_backslash front]
      intro taken
      rw [front]
      exact ⟨meant, _, rfl, Cursor.rest_past_singleton front⟩
  | @plain d cs noQuote noBackslash =>
      rw [textRound_plain front noQuote noBackslash]
      have whole : c.rest = (TextItem.plain d).spelling ++ cs := front
      refine fun result => ReadsText.of_item whole fun taken => ?_
      rw [front, closeText_plain noQuote noBackslash]

end Texts

/-! ### Numbers and words -/

section Numbers

variable {digits : List Char} {hasPoint : Bool}

/-- How a number goes on that has its point already or has not. -/
def numberTail (hasPoint : Bool) (cs : List Char) : List Char :=
  if hasPoint then cs.takeWhile Char.isDigit else (cutNumber cs).1

theorem isDigit_point : Char.isDigit '.' = false := by decide

/-- What a number goes on with: nothing, a digit, a point in front of a digit, or what does not
    belong to it. -/
inductive NumberFront (hasPoint : Bool) : List Char → Prop where
  | nil : NumberFront hasPoint []
  | digit {d : Char} {cs : List Char} (digit : d.isDigit = true) : NumberFront hasPoint (d :: cs)
  | point {e : Char} {cs : List Char} (first : hasPoint = false) (digit : e.isDigit = true) :
      NumberFront hasPoint ('.' :: e :: cs)
  | lastPoint {cs : List Char} (last : (hasPoint || cs.head?.all fun d => !d.isDigit) = true) :
      NumberFront hasPoint ('.' :: cs)
  | other {d : Char} {cs : List Char} (noDigit : d.isDigit = false) (noPoint : d ≠ '.') :
      NumberFront hasPoint (d :: cs)

theorem numberFront (hasPoint : Bool) (cs : List Char) : NumberFront hasPoint cs := by
  rcases cs with _ | ⟨d, cs⟩
  · exact .nil
  by_cases digit : d.isDigit = true
  · exact .digit digit
  by_cases point : d = '.'
  · subst point
    by_cases last : (hasPoint || cs.head?.all fun d => !d.isDigit) = true
    · exact .lastPoint last
    · rcases cs with _ | ⟨e, cs⟩
      · simp at last
      · simp only [List.head?_cons, Option.all_some, Bool.or_eq_true, not_or,
          Bool.not_eq_true, Bool.not_eq_false'] at last
        exact .point last.1 last.2
  exact .other (Bool.eq_false_iff.mpr digit) point

theorem numberRound_nil (front : c.rest = []) :
    numberRound (digits, hasPoint) c = .ok (.done (digits, hasPoint), c) := by
  rw [numberRound, atEnd_nil front]
  rfl

theorem numberRound_digit (front : c.rest = d :: cs) (digit : d.isDigit = true) :
    numberRound (digits, hasPoint) c = .ok (.yield (digits ++ [d], hasPoint), c.past [d]) := by
  rw [numberRound, atEnd_cons front, peek_bind front, if_pos digit, advance_bind front]
  rfl

theorem numberRound_point (front : c.rest = '.' :: cs) :
    numberRound (digits, hasPoint) c =
      if hasPoint || cs.head?.all fun d => !d.isDigit then .ok (.done (digits, hasPoint), c)
      else .ok (.yield (digits ++ ['.'], true), c.past ['.']) := by
  rw [numberRound, atEnd_cons front, peek_bind front, if_neg (by decide), if_pos rfl,
    ahead_bind front]
  split
  · rfl
  · exact advance_bind front _

theorem numberRound_other (front : c.rest = d :: cs) (noDigit : d.isDigit = false)
    (noPoint : d ≠ '.') :
    numberRound (digits, hasPoint) c = .ok (.done (digits, hasPoint), c) := by
  rw [numberRound, atEnd_cons front, peek_bind front, if_neg (by simp [noDigit]), if_neg noPoint]
  rfl

theorem numberRound_advances : Advances rounds numberRound := by
  rintro ⟨digits, hasPoint⟩ c fits
  generalize front : c.rest = cs
  cases numberFront hasPoint cs with
  | nil =>
      rw [numberRound_nil front]
      exact fits.reaches_self
  | digit digit =>
      rw [numberRound_digit front digit]
      exact Cursor.reaches_past_singleton fits front
  | point first digit =>
      rw [numberRound_point front, if_neg (by simp [first, digit])]
      exact Cursor.reaches_past_singleton fits front
  | lastPoint last =>
      rw [numberRound_point front, if_pos last]
      exact fits.reaches_self
  | other noDigit noPoint =>
      rw [numberRound_other front noDigit noPoint]
      exact fits.reaches_self

theorem numberTail_digit (digit : d.isDigit = true) :
    numberTail hasPoint (d :: cs) = d :: numberTail hasPoint cs := by
  cases hasPoint with
  | true => simp [numberTail, digit]
  | false =>
      simp only [numberTail, Bool.false_eq_true, if_false, cutNumber, List.takeWhile_cons,
        List.dropWhile_cons, digit, if_true]
      split
      · split <;> rfl
      · rfl

theorem numberTail_point (digit : e.isDigit = true) :
    numberTail false ('.' :: e :: cs) = '.' :: numberTail true (e :: cs) := by
  simp [numberTail, cutNumber, isDigit_point, digit]

theorem numberTail_lastPoint (last : (hasPoint || cs.head?.all fun d => !d.isDigit) = true) :
    numberTail hasPoint ('.' :: cs) = [] := by
  cases hasPoint with
  | true => simp [numberTail, isDigit_point]
  | false =>
      rcases cs with _ | ⟨e, cs⟩
      · simp [numberTail, cutNumber, isDigit_point]
      · have noDigit : e.isDigit = false := by simpa using last
        simp [numberTail, cutNumber, isDigit_point, noDigit]

theorem numberTail_other (noDigit : d.isDigit = false) (noPoint : d ≠ '.') :
    numberTail hasPoint (d :: cs) = [] := by
  cases hasPoint with
  | true => simp [numberTail, noDigit]
  | false =>
      simp only [numberTail, Bool.false_eq_true, if_false, cutNumber, List.takeWhile_cons,
        List.dropWhile_cons, noDigit]
      split
      · rename_i point
        exact absurd (List.cons.inj point).1 noPoint
      · rfl

/-- The digits that a number goes on with are taken, and its point. -/
def ReadsNumber (number : List Char × Bool) (c : Cursor)
    (result : Except Halt ((List Char × Bool) × Cursor)) : Prop :=
  ∃ last, result =
    .ok ((number.1 ++ numberTail number.2 c.rest, last), c.past (numberTail number.2 c.rest))

theorem loop_numberRound (fits : c.Fits rounds) (number : List Char × Bool) :
    ReadsNumber number c (loop numberRound rounds number c) := by
  refine numberRound_advances.loop ?_ fits (length_rest_lt fits)
  rintro ⟨digits, hasPoint⟩ c fits
  generalize front : c.rest = cs
  cases numberFront hasPoint cs with
  | nil =>
      rw [numberRound_nil front]
      refine ⟨hasPoint, ?_⟩
      cases hasPoint <;> simp [front, numberTail, cutNumber]
  | digit digit =>
      rw [numberRound_digit front digit]
      rintro result ⟨last, rfl⟩
      refine ⟨last, ?_⟩
      simp [front, numberTail_digit digit, Cursor.rest_past_singleton front]
  | point first digit =>
      subst first
      rw [numberRound_point front, if_neg (by simp [digit])]
      rintro result ⟨last, rfl⟩
      refine ⟨last, ?_⟩
      simp [front, numberTail_point digit, Cursor.rest_past_singleton front]
  | lastPoint last =>
      rw [numberRound_point front, if_pos last]
      refine ⟨hasPoint, ?_⟩
      simp [front, numberTail_lastPoint last]
  | other noDigit noPoint =>
      rw [numberRound_other front noDigit noPoint]
      refine ⟨hasPoint, ?_⟩
      simp [front, numberTail_other noDigit noPoint]

end Numbers

end Kiss.Lexical.Scanning
