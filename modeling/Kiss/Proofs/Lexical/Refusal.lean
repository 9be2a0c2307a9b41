import Kiss.Proofs.Lexical.Gap

/-!
# What cannot be read

There are four things that end the reading of a text where they stand: a string literal or a
comment without an end, a hash without a digit, and a character with which no token begins.
`Refused` says what they are without a scanner, and that they are what a scanner stops at:
`refused_of_scan` for what stands where a token may begin, `Refused.tokensFrom` the other way
round. A quote closes a string literal unless it is escaped, and that is told from the number of
backslashes in front of it (`closeText_eq_none_iff`).
-/

namespace Kiss.Lexical

open Lexer

variable {c : Char} {cs rest : List Char} {cause : LexCause} {wording : String}

/-- A text that escapes the character behind it: the backslashes at its end are odd in number. -/
def EscapesNext (inside : List Char) : Prop :=
  (inside.reverse.takeWhile fun c => decide (c = '\\')).length % 2 = 1

/-- What cannot be read stands at the front of a text: the cause, and the words for it. No quote
    closes the string literal; nothing ends the comment; no digit follows the hash; no token is
    written with this character in front, and it is no white space. A comment begins with a slash,
    which is a token by itself. -/
inductive Refused : LexCause → String → List Char → Prop where
  | openText {cs : List Char}
      (noEnd : ∀ inside after, cs = inside ++ '"' :: after → EscapesNext inside) :
      Refused .unterminatedText "Unterminated string literal" ('"' :: cs)
  | openComment {cs : List Char} (noEnd : ¬['*', '/'] <:+: cs) :
      Refused .unterminatedComment "Unterminated block comment" ('/' :: '*' :: cs)
  | noDigit {cs : List Char} (noDigit : ∀ d ∈ cs.head?, Number.isHexDigit d = false) :
      Refused .emptyHexNumber "Hex literal needs at least one digit after '#'" ('#' :: cs)
  | noToken {c : Char} {cs : List Char} (noBlank : Character.isWhiteSpace c = false)
      (noToken : ∀ kind value others, ¬Spells kind value (c :: others)) :
      Refused (.unexpectedCharacter c) ("Unexpected character: " ++ Text.quotedChar c) (c :: cs)

/-- The words are those of the cause. -/
theorem Refused.text_eq (refused : Refused cause wording rest) : cause.text = wording := by
  cases refused <;> rfl

section Texts

variable {inside : List Char} {taken : List TextItem}

theorem escapesNext_cons (noBackslash : c ≠ '\\') :
    EscapesNext (c :: inside) ↔ EscapesNext inside := by
  simp only [EscapesNext, List.reverse_cons, List.takeWhile_append]
  split
  · rename_i all
    simp [noBackslash, all]
  · rfl

/-- An escaped character at the front makes no difference. -/
theorem escapesNext_escaped : EscapesNext ('\\' :: c :: inside) ↔ EscapesNext inside := by
  simp only [EscapesNext, List.reverse_cons, List.append_assoc, List.takeWhile_append]
  split
  · rename_i all
    by_cases backslash : c = '\\'
    · simp [backslash, all]
    · simp [backslash, all]
  · rfl

/-- A string literal is not closed if every quote behind its opening is escaped. -/
theorem closeText_eq_none_iff :
    closeText taken cs = none ↔
      ∀ inside after, cs = inside ++ '"' :: after → EscapesNext inside := by
  fun_induction closeText taken cs with
  | case1 => simp
  | case2 taken after =>
      simp only [reduceCtorEq, false_iff]
      exact fun escaped => absurd (escaped [] after rfl) (by simp [EscapesNext])
  | case3 taken c after ih =>
      rw [ih]
      constructor
      · intro escaped inside behind parts
        -- the quote is the escaped character itself, or comes behind it
        rcases inside with _ | ⟨d, _ | ⟨e, more⟩⟩
        · cases parts
        · cases parts
          rfl
        · cases parts
          exact escapesNext_escaped.mpr (escaped more behind rfl)
      · intro escaped inside behind parts
        subst parts
        exact escapesNext_escaped.mp (escaped ('\\' :: c :: inside) behind rfl)
  | case4 taken c after noQuote noEscape ih =>
      -- a backslash would have taken the next character with it
      have noBackslash : after ≠ [] → c ≠ '\\' := by
        rintro notEmpty rfl
        obtain ⟨d, others, rfl⟩ := List.exists_cons_of_ne_nil notEmpty
        exact noEscape d others rfl rfl
      rw [ih]
      constructor
      · intro escaped inside behind parts
        cases inside with
        | nil => exact absurd (List.cons.inj parts).1 noQuote
        | cons d more =>
            cases parts
            exact (escapesNext_cons (noBackslash (by simp))).mpr (escaped more behind rfl)
      · intro escaped inside behind parts
        subst parts
        exact (escapesNext_cons (noBackslash (by simp))).mp (escaped (c :: inside) behind rfl)

end Texts

section Characters

theorem exists_ofChar?_of_ofPair? {d : Char} {s : Symbol} (pair : Symbol.ofPair? c d = some s) :
    ∃ t, Symbol.ofChar? c = some t := by
  unfold Symbol.ofPair? at pair
  split at pair <;> first | exact ⟨_, rfl⟩ | cases pair

/-- Every character that a symbol begins with is a symbol by itself. -/
theorem cutSymbol_eq_none_iff : cutSymbol c cs = none ↔ Symbol.ofChar? c = none := by
  cases cs with
  | nil => simp [cutSymbol]
  | cons d others =>
      rw [cutSymbol]
      split
      · rename_i s pair
        obtain ⟨t, single⟩ := exists_ofChar?_of_ofPair? pair
        simp [single]
      · simp

/-- The characters with which tokens begin. -/
theorem exists_spells_iff :
    (∃ kind value others, Spells kind value (c :: others)) ↔
      c = '"' ∨ c.isDigit = true ∨ c = '#' ∨ isWordStart c = true ∨ Symbol.ofChar? c ≠ none := by
  constructor
  · rintro ⟨kind, value, others, spells⟩
    generalize front : c :: others = spelling at spells
    cases spells with
    | keyword k =>
        have isWord := isWord_lexeme k
        rw [← front] at isWord
        exact .inr (.inr (.inr (.inl isWord.1)))
    | symbol s =>
        obtain ⟨taken, left, cut, _⟩ := exists_cutSymbol front.symm []
        refine .inr (.inr (.inr (.inr fun none => ?_)))
        rw [cutSymbol_eq_none_iff.mpr none] at cut
        cases cut
    | number isNumber => exact .inr (.inl (isNumber.front front.symm))
    | hexNumber => exact .inr (.inr (.inl (List.cons.inj front).1))
    | word isWord =>
        subst front
        exact .inr (.inr (.inr (.inl isWord.1)))
    | text => exact .inl (List.cons.inj front).1
  · rintro (rfl | digit | rfl | starts | found)
    · exact ⟨_, _, _, .text .nil⟩
    · exact ⟨_, _, [], .number (.inl ⟨by simp, by simpa using digit⟩)⟩
    · have isRow : IsRow Number.isHexDigit ['0'] := ⟨by simp, List.forall_mem_singleton.mpr rfl⟩
      exact ⟨_, _, _, .hexNumber isRow⟩
    · exact ⟨_, _, [], spells_ofWord ⟨starts, by simp⟩⟩
    · obtain ⟨s, single⟩ := Option.ne_none_iff_exists'.mp found
      have spells := Spells.symbol s
      rw [ofChar?_eq_some.mp single] at spells
      exact ⟨_, _, _, spells⟩

theorem scan_noToken (noToken : ∀ kind value others, ¬Spells kind value (c :: others)) :
    scan c cs = .error (.unexpectedCharacter c) := by
  have begins := mt exists_spells_iff.mpr fun ⟨kind, value, others, spells⟩ =>
    noToken kind value others spells
  simp only [not_or, not_not] at begins
  obtain ⟨noQuote, noDigit, noHash, noWord, noSymbol⟩ := begins
  rw [scan, if_neg noQuote, if_neg noDigit, if_neg noHash, if_neg noWord,
    cutSymbol_eq_none_iff.mpr noSymbol]

end Characters

/-- What the scanner stops at cannot be read. -/
theorem refused_of_scan (begins : BeginsToken (c :: cs)) (failed : scan c cs = .error cause) :
    Refused cause cause.text (c :: cs) := by
  unfold scan at failed
  split at failed
  · rename_i quote
    subst quote
    split at failed
    · cases failed
    · rename_i noEnd
      cases failed
      exact .openText (closeText_eq_none_iff.mp noEnd)
  · rename_i noQuote
    split at failed
    · cases failed
    · rename_i noDigit
      split at failed
      · rename_i hash
        subst hash
        split at failed
        · rename_i noDigits
          cases failed
          refine .noDigit fun d next => ?_
          obtain ⟨others, rfl⟩ := List.head?_eq_some_iff.mp next
          by_contra digit
          simp [List.takeWhile_cons, digit] at noDigits
        · cases failed
      · rename_i noHash
        split at failed
        · cases failed
        · rename_i noWord
          split at failed
          · cases failed
          · rename_i noSymbol
            cases failed
            refine .noToken (begins c rfl).1 fun kind value others spells => ?_
            have known := exists_spells_iff.mp ⟨kind, value, others, spells⟩
            simp [noQuote, noDigit, noHash, noWord, cutSymbol_eq_none_iff.mp noSymbol] at known

/-- What cannot be read is a comment without an end, or stands where a token may begin and is what
    the scanner stops at. -/
theorem Refused.stops (refused : Refused cause wording rest) :
    OpensComment rest ∧ cause = .unterminatedComment ∨
      ∃ c cs, rest = c :: cs ∧ BeginsToken rest ∧ scan c cs = .error cause := by
  have begins {c : Char} {cs : List Char} (noBlank : Character.isWhiteSpace c = false)
      (noSlash : c ≠ '/') : BeginsToken (c :: cs) := by
    rintro d member
    cases member
    exact ⟨noBlank, fun slash => absurd slash noSlash⟩
  cases refused with
  | @openText cs noEnd =>
      refine .inr ⟨_, cs, rfl, begins (by decide) (by decide), ?_⟩
      rw [scan, if_pos rfl, closeText_eq_none_iff.mpr noEnd]
  | @openComment cs noEnd => exact .inl ⟨⟨cs, rfl, noEnd⟩, rfl⟩
  | @noDigit cs noDigit =>
      have noDigits : cs.takeWhile Number.isHexDigit = [] := by
        cases cs with
        | nil => rfl
        | cons d others => simp [noDigit d rfl]
      refine .inr ⟨_, cs, rfl, begins (by decide) (by decide), ?_⟩
      rw [scan, if_neg (by decide), if_neg (by decide), if_pos rfl, noDigits]
  | @noToken c cs noBlank noToken =>
      have noSlash : c ≠ '/' := by
        rintro rfl
        exact noToken _ _ _ (.symbol .slash)
      exact .inr ⟨c, cs, rfl, begins noBlank noSlash, scan_noToken noToken⟩

/-- What cannot be read ends the reading where it stands. -/
theorem Refused.tokensFrom (refused : Refused cause wording rest) (found : List Token)
    (p : Position) : Lexer.tokensFrom found p rest = .error ⟨cause, p⟩ := by
  rcases refused.stops with ⟨opens, rfl⟩ | ⟨c, cs, rfl, begins, failed⟩
  · rw [Lexer.tokensFrom, opens.skipTrivia]
  · rw [Lexer.tokensFrom, begins.skipTrivia]
    simp only
    rw [failed]

end Kiss.Lexical
