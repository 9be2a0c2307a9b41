import Kiss.Proofs.Lexical.Cut
import Kiss.Proofs.Lexical.LiteralLoops

/-!
# Scanning by index goes on and comes to an end

A scan of one token takes what the lexer takes (`scanToken_eq`): the characters with which a word or
a number begins are such as it goes on with, so at least one is taken. `tokenRound_cases` says all
that a round over tokens can come to. From both, a whole source comes to the tokens of the lexer or
to its refusal (`scanAll_eq`), and so to nothing that would have been read outside of it.
-/

namespace Kiss

/-- Without a newline the line stays the same. -/
theorem Position.line_after {cs : List Char} (oneLine : '\n' ∉ cs) (p : Position) :
    (p.after cs).line = p.line := by
  induction cs generalizing p with
  | nil => rfl
  | cons c cs ih =>
      simp only [List.mem_cons, not_or] at oneLine
      rw [after_cons, ih oneLine.2, advance, if_neg (Ne.symm oneLine.1)]

namespace Lexical

open Lexer

/-- The same cursor with one more token in front of it. -/
def Cursor.add (c : Cursor) (t : Token) : Cursor := { c with found := t :: c.found }

/-- The cursor behind a token that is added. -/
def Cursor.take (c : Cursor) (lexeme : Lexeme) : Cursor :=
  (c.past lexeme.spelling).add ⟨lexeme.kind, lexeme.value, c.place⟩

/-- Where a scan has to come to for what the lexer takes in front of the rest of the source. -/
def Cursor.behind (c : Cursor) : Except LexCause Lexeme → Except Halt (Unit × Cursor)
  | .ok lexeme => .ok ((), c.take lexeme)
  | .error cause => .error (.refused ⟨cause, c.place⟩)

namespace Scanning

variable {c : Cursor} {d : Char} {cs : List Char} {rounds : Nat}

theorem scanText_eq (fits : c.Fits rounds) (front : c.rest = '"' :: cs) :
    scanText rounds c = c.behind (scan '"' cs) := by
  have opened : c.rest = ['"'] ++ cs := front
  have reads := loop_textRound (Cursor.fits_past fits opened) [] []
  rw [Cursor.rest_past opened] at reads
  rw [scanText, place_bind, advance_bind front, scan, if_pos rfl]
  cases closed : closeText [] cs with
  | none =>
      rw [closed] at reads
      obtain ⟨meant, d, ended, front⟩ := reads
      rw [bind_ok ended, atEnd_nil front]
      rfl
  | some parts =>
      obtain ⟨items, behind⟩ := parts
      rw [closed] at reads
      obtain ⟨new, same, whole, ended⟩ := reads
      rw [List.reverse_nil, List.nil_append] at same
      subst same
      have left : ((c.past ['"']).past (items.flatMap TextItem.spelling)).rest = '"' :: behind := by
        rw [Cursor.past_past]
        exact Cursor.rest_past (by rw [front, whole]; simp)
      rw [bind_ok ended, atEnd_cons left, advance_bind left, Cursor.past_past, Cursor.past_past]
      rfl

theorem push_bind {α : Type} {kind : TokenKind} {value : List Char} {p : Position}
    (f : Unit → Scanning α) :
    (push kind value p >>= f) c = f () (c.add ⟨kind, String.ofList value, p⟩) := rfl

/-- A token without a newline is added in the line in which it begins. -/
theorem pushInLine_past {kind : TokenKind} {value spelling : List Char} (oneLine : '\n' ∉ spelling)
    (behind : List Char) :
    pushInLine kind value c.place.column (c.past spelling) =
      .ok ((), c.take ⟨kind, String.ofList value, spelling, behind⟩) := by
  rw [pushInLine, place_bind, Cursor.past, Position.line_after oneLine]
  rfl

theorem newline_notMem_takeWhile {p : Char → Bool} (outside : p '\n' = false) :
    '\n' ∉ cs.takeWhile p := by
  intro member
  rw [List.mem_takeWhile_imp member] at outside
  cases outside

theorem newline_notMem_cutNumber (digit : d.isDigit = true) :
    '\n' ∉ (cutNumber (d :: cs)).1 := by
  intro member
  rcases (isNumber_cutNumber digit).1 with ⟨_, digits⟩ | ⟨whole, part, same, whole, part⟩
  · exact absurd (digits _ member) (by decide)
  · rw [same, List.mem_append, List.mem_cons] at member
    rcases member with inWhole | point | inPart
    · exact absurd (whole.2 _ inWhole) (by decide)
    · cases point
    · exact absurd (part.2 _ inPart) (by decide)

theorem scanNumber_eq (fits : c.Fits rounds) (front : c.rest = d :: cs)
    (digit : d.isDigit = true) :
    scanNumber rounds c = c.behind (scan d cs) := by
  obtain ⟨last, ended⟩ := loop_numberRound fits ([], false)
  rw [front] at ended
  rw [scan_digit digit, scanNumber, place_bind, bind_ok ended]
  exact pushInLine_past (newline_notMem_cutNumber digit) _

theorem scanHexNumber_eq (fits : c.Fits rounds) (front : c.rest = '#' :: cs) :
    scanHexNumber rounds c = c.behind (scan '#' cs) := by
  have opened : c.rest = ['#'] ++ cs := front
  have taken := loop_rowRound (Cursor.fits_past fits opened) Number.isHexDigit []
  rw [Cursor.rest_past opened] at taken
  cases row : cs.takeWhile Number.isHexDigit with
  | nil =>
      have noDigit : scan '#' cs = .error .emptyHexNumber := by
        rw [scan, if_neg (by decide), if_neg (by decide), if_pos rfl, row]
      rw [row] at taken
      rw [noDigit, scanHexNumber, place_bind, advance_bind front, bind_ok taken]
      rfl
  | cons digit digits =>
      have oneLine : '\n' ∉ '#' :: digit :: digits := by
        rw [← row, List.mem_cons, not_or]
        exact ⟨by decide, newline_notMem_takeWhile (by decide)⟩
      rw [row] at taken
      rw [scanHexNumber, place_bind, advance_bind front, bind_ok taken, scan_hash row,
        Cursor.past_past]
      exact pushInLine_past oneLine _

theorem scanWord_eq (fits : c.Fits rounds) (front : c.rest = d :: cs)
    (starts : isWordStart d = true) :
    scanWord rounds c = c.behind (scan d cs) := by
  -- the class with which a word begins is within the class with which it goes on
  have row : (d :: cs).takeWhile isWordPart = d :: cs.takeWhile isWordPart :=
    List.takeWhile_cons_of_pos (isWordPart_of_isWordStart starts)
  have taken := loop_rowRound fits isWordPart []
  rw [front, row] at taken
  have oneLine : '\n' ∉ d :: cs.takeWhile isWordPart := by
    rw [← row]
    exact newline_notMem_takeWhile (by decide)
  rw [scan_word starts, scanWord, place_bind, bind_ok taken]
  exact pushInLine_past oneLine _

/-- Where no symbol of two characters stands in front, one of a single character is looked for. -/
theorem cutSymbol_of_noPair (noPair : cs.head?.bind (Symbol.ofPair? d) = none) :
    cutSymbol d cs = (Symbol.ofChar? d).map fun s => (s, cs) := by
  cases cs with
  | nil => rfl
  | cons e others =>
      rw [cutSymbol, show Symbol.ofPair? d e = none from noPair]

theorem scanSymbol_eq (front : c.rest = d :: cs) (noQuote : d ≠ '"') (noDigit : ¬d.isDigit = true)
    (noHash : d ≠ '#') (noWord : ¬isWordStart d = true) :
    scanSymbol d c = c.behind (scan d cs) := by
  rw [scan, if_neg noQuote, if_neg noDigit, if_neg noHash, if_neg noWord, scanSymbol,
    ahead_bind front]
  cases pair : cs.head?.bind (Symbol.ofPair? d) with
  | some s =>
      obtain ⟨e, next, found⟩ := Option.bind_eq_some_iff.mp pair
      obtain ⟨others, rfl⟩ := List.head?_eq_some_iff.mp next
      have written : s.lexeme.toList = [d, e] := ofPair?_eq_some.mp found
      have value : String.ofList [d, e] = s.lexeme := by rw [← written, String.ofList_toList]
      have cut : cutSymbol d (e :: others) = some (s, others) := by rw [cutSymbol, found]
      have first : (c.add ⟨.symbol s, s.lexeme, c.place⟩).rest = d :: e :: others := front
      have second := Cursor.rest_past_singleton first
      simp only
      rw [peekPair_bind front, place_bind, push_bind, value, advance_bind first,
        advance_eq second, Cursor.past_past, cut]
      simp only [Cursor.behind, Cursor.take, written]
      rfl
  | none =>
      rw [cutSymbol_of_noPair pair]
      cases single : Symbol.ofChar? d with
      | some s =>
          have written : s.lexeme.toList = [d] := ofChar?_eq_some.mp single
          have value : String.ofList [d] = s.lexeme := by rw [← written, String.ofList_toList]
          have first : (c.add ⟨.symbol s, s.lexeme, c.place⟩).rest = d :: cs := front
          simp only
          rw [place_bind, push_bind, value, advance_eq first]
          simp only [Option.map_some, Cursor.behind, Cursor.take, written]
          rfl
      | none => rfl

theorem scanToken_eq (fits : c.Fits rounds) (front : c.rest = d :: cs) :
    scanToken rounds c = c.behind (scan d cs) := by
  rw [scanToken, peek_bind front]
  split
  · rename_i quote
    subst quote
    exact scanText_eq fits front
  rename_i noQuote
  split
  · rename_i digit
    exact scanNumber_eq fits front digit
  rename_i noDigit
  split
  · rename_i hash
    subst hash
    exact scanHexNumber_eq fits front
  rename_i noHash
  split
  · rename_i starts
    exact scanWord_eq fits front starts
  rename_i noWord
  exact scanSymbol_eq front noQuote noDigit noHash noWord

/-! ### Whole sources -/

/-- Where a scan of one token comes to: a place further on in the source, with exactly one token
    more, unless the source is refused. -/
def TakesToken (c : Cursor) : Except Halt (Unit × Cursor) → Prop
  | .ok (_, d) => c.Reaches 1 d ∧ ∃ t, d.found = t :: c.found
  | .error why => ∃ e, why = .refused e

theorem takesToken_behind (fits : c.Fits rounds) (front : c.rest = d :: cs) :
    TakesToken c (c.behind (scan d cs)) := by
  cases scanned : scan d cs with
  | error cause => exact ⟨_, rfl⟩
  | ok lexeme =>
      obtain ⟨spells, parts⟩ := scan_spells scanned
      have moved := Cursor.reaches_past fits (front.trans parts.symm)
      have reaches := moved.mono (List.length_pos_iff.mpr spells.ne_nil)
      exact ⟨⟨reaches.source, reaches.further, reaches.inside⟩, _, rfl⟩

/-- What a round over tokens comes to, told from what the lexer skips and takes. -/
inductive TokenRound (c : Cursor) : Except Halt (ForInStep Unit × Cursor) → Prop where
  | openComment {e : LexError} (refused : Lexer.skipTrivia c.place c.rest = .error e) :
      TokenRound c (.error (.refused e))
  | ended {gap : List Char} (front : c.rest = gap)
      (skipped : Lexer.skipTrivia c.place c.rest = .ok (c.place.after gap, [])) :
      TokenRound c (.ok (.done (), c.past gap))
  | noToken {gap cs : List Char} {d : Char} {cause : LexCause}
      (skipped : Lexer.skipTrivia c.place c.rest = .ok (c.place.after gap, d :: cs))
      (failed : scan d cs = .error cause) :
      TokenRound c (.error (.refused ⟨cause, c.place.after gap⟩))
  | token {gap cs : List Char} {d : Char} {lexeme : Lexeme} (front : c.rest = gap ++ d :: cs)
      (skipped : Lexer.skipTrivia c.place c.rest = .ok (c.place.after gap, d :: cs))
      (scanned : scan d cs = .ok lexeme) :
      TokenRound c (.ok (.yield (), (c.past gap).take lexeme))

theorem tokenRound_cases (fits : c.Fits rounds) : TokenRound c (tokenRound rounds () c) := by
  have skips := skipTrivia_skips fits
  rw [Skips] at skips
  cases skipped : Lexer.skipTrivia c.place c.rest with
  | error e =>
      rw [skipped] at skips
      rw [tokenRound, bind_error skips]
      exact .openComment skipped
  | ok reached =>
      obtain ⟨p, behind⟩ := reached
      rw [skipped] at skips
      obtain ⟨gap, front, rfl, moved⟩ := skips
      have left : (c.past gap).rest = behind := Cursor.rest_past front
      rw [tokenRound, bind_ok moved]
      cases behind with
      | nil =>
          rw [atEnd_nil left]
          exact .ended (front.trans (List.append_nil gap)) skipped
      | cons d cs =>
          have taken := scanToken_eq (Cursor.fits_past fits front) left
          rw [atEnd_cons left]
          cases scanned : scan d cs with
          | error cause =>
              rw [scanned] at taken
              rw [bind_error taken]
              exact .noToken skipped scanned
          | ok lexeme =>
              rw [scanned] at taken
              rw [bind_ok taken]
              exact .token front skipped scanned

theorem tokenRound_advances (rounds : Nat) : Advances rounds (tokenRound rounds) := by
  rintro ⟨⟩ c fits
  generalize result : tokenRound rounds () c = reached
  cases result ▸ tokenRound_cases fits with
  | openComment => exact ⟨_, rfl⟩
  | noToken => exact ⟨_, rfl⟩
  | @ended gap front =>
      have whole : c.rest = gap ++ [] := front.trans (List.append_nil gap).symm
      exact (Cursor.reaches_past fits whole).mono (Nat.zero_le _)
  | token front _ scanned =>
      have moved := (Cursor.reaches_past fits front).mono (Nat.zero_le _)
      have taken := takesToken_behind (Cursor.fits_past fits front) (Cursor.rest_past front)
      rw [scanned] at taken
      exact moved.trans taken.1

/-- The cursor has found the tokens that the lexer finds, up to the end of the source. -/
def FindsTokens (c : Cursor) (result : Except Halt (Unit × Cursor)) : Prop :=
  match tokensFrom c.found c.place c.rest with
  | .ok tokens => ∃ d, result = .ok ((), d) ∧
      tokens = (Token.endOfInput d.place :: d.found).reverse
  | .error e => result = .error (.refused e)

theorem scanTokens_findsTokens (fits : c.Fits rounds) : FindsTokens c (scanTokens rounds c) := by
  refine (tokenRound_advances rounds).loop (R := fun _ => FindsTokens) ?_ fits (length_rest_lt fits)
  rintro ⟨⟩ c fits
  generalize result : tokenRound rounds () c = reached
  cases result ▸ tokenRound_cases fits with
  | openComment refused =>
      show FindsTokens c _
      rw [FindsTokens, tokensFrom, refused]
  | ended front skipped =>
      show FindsTokens c _
      rw [FindsTokens, tokensFrom, skipped]
      exact ⟨_, rfl, rfl⟩
  | noToken skipped failed =>
      show FindsTokens c _
      rw [FindsTokens, tokensFrom, skipped]
      simp only
      rw [failed]
  | @token gap cs d lexeme front skipped scanned =>
      intro result finds
      have parts := (scan_spells scanned).2
      have left : ((c.past gap).take lexeme).rest = lexeme.rest := by
        have behind : (c.past gap).rest = lexeme.spelling ++ lexeme.rest :=
          (Cursor.rest_past front).trans parts.symm
        exact Cursor.rest_past behind
      rw [FindsTokens, left] at finds
      rw [FindsTokens, tokensFrom_of_scan c.found skipped scanned]
      exact finds

theorem scanAll_eq {source : String} (enough : source.length < rounds) :
    scanAll rounds source = (tokenize source).mapError .refused := by
  have fits : (Cursor.ofSource source).Fits rounds :=
    ⟨Nat.zero_le _, by rwa [Cursor.ofSource, String.length_toList]⟩
  have finds : match tokenize source with
      | .ok tokens => ∃ d, scanTokens rounds (.ofSource source) = .ok ((), d) ∧
          tokens = (Token.endOfInput d.place :: d.found).reverse
      | .error e => scanTokens rounds (.ofSource source) = .error (.refused e) :=
    scanTokens_findsTokens fits
  rw [scanAll]
  cases same : tokenize source with
  | error e =>
      rw [same] at finds
      rw [finds]
      rfl
  | ok tokens =>
      rw [same] at finds
      obtain ⟨d, ended, rfl⟩ := finds
      rw [ended]
      rfl

/-- A quote that only a backslash follows is refused where it stands, and nothing is read behind
    it. -/
example : scanAll 3 "\"\\" = .error (.refused ⟨.unterminatedText, .start⟩) := by decide

end Scanning

open Scanning

/-- Scanning by index goes on and stays inside of the source. If each loop may go round once more
    than the source has characters, a whole source comes to what the lexer makes of it, so no loop
    is out of rounds and nothing is read outside of the source. Wherever the cursor stands in a
    source, each round of each loop reads only inside of it and ends the loop or moves the cursor
    further. A scan of a token that is not refused moves the cursor further and adds one token. -/
theorem scanning_advances (rounds : Nat) :
    (∀ source : String, source.length < rounds →
      scanAll rounds source = (tokenize source).mapError .refused) ∧
    (Advances rounds (tokenRound rounds) ∧
      Advances rounds (triviaRound rounds) ∧
      (∀ opening, Advances rounds (commentRound opening)) ∧
      (∀ p, Advances rounds (rowRound p)) ∧
      Advances rounds textRound ∧
      Advances rounds numberRound) ∧
    ∀ c : Cursor, c.Fits rounds → c.index < c.source.length →
      TakesToken c (scanToken rounds c) := by
  refine ⟨fun source enough => scanAll_eq enough,
    ⟨tokenRound_advances rounds, triviaRound_advances rounds, commentRound_advances,
      rowRound_advances, textRound_advances, numberRound_advances⟩, fun c fits inside => ?_⟩
  have notEmpty : c.rest ≠ [] := by
    intro front
    have := List.drop_eq_nil_iff.mp front
    omega
  obtain ⟨d, cs, front⟩ := List.exists_cons_of_ne_nil notEmpty
  rw [scanToken_eq fits front]
  exact takesToken_behind fits front

/-- In front of a quote that only a backslash follows. -/
theorem scanning_advances_openText :
    scanAll 3 "\"\\" = (tokenize "\"\\").mapError .refused ∧
      TakesToken (.ofSource "\"\\") (scanToken 3 (.ofSource "\"\\")) :=
  ⟨(scanning_advances 3).1 _ (by decide),
    (scanning_advances 3).2.2 _ ⟨by decide, by decide⟩ (by decide)⟩

end Lexical

end Kiss
