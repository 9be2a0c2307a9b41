import Mathlib.Data.List.TakeWhile
import Kiss.Proofs.Lexical.Spelling

/-!
# Taking the longest token

`scan_spells` says that what is taken is a token that is written in front of the text, and
`Spells.scan` that at least as much is taken as any token has there. Together they say that
the longest token is taken, whatever its kind.
-/

namespace Kiss.Lexical

open Lexer

variable {c : Char} {cs rest : List Char}

/-- Words begin with a letter or an underscore, all of which come behind the digits. -/
theorem isWordStart_eq_false (early : c.toNat < 0x41) : isWordStart c = false := by
  have noLetter : Character.isAlphabetic c = false := if_pos early
  have noUnderscore : c ≠ '_' := by
    rintro rfl
    exact absurd early (by decide)
  rw [isWordStart, noLetter, Bool.false_or]
  exact beq_false_of_ne noUnderscore

theorem toNat_lt_of_isDigit (digit : c.isDigit = true) : c.toNat < 0x41 := by
  simp only [Char.isDigit, Bool.and_eq_true, decide_eq_true_eq] at digit
  have upper : c.val.toNat ≤ 57 := digit.2
  exact Nat.lt_of_le_of_lt upper (by decide)

theorem scan_quote {items : List TextItem} (closed : closeText [] cs = some (items, rest)) :
    scan '"' cs =
      .ok
        { kind := .text
          value := String.ofList (items.flatMap TextItem.meaning)
          spelling := '"' :: items.flatMap TextItem.spelling ++ ['"']
          rest } := by
  rw [scan, if_pos rfl, closed]

theorem scan_digit (digit : c.isDigit = true) : scan c cs =
    .ok
      { kind := .number
        value := String.ofList (cutNumber (c :: cs)).1
        spelling := (cutNumber (c :: cs)).1
        rest := (cutNumber (c :: cs)).2 } := by
  have noQuote : c ≠ '"' := by
    rintro rfl
    exact absurd digit (by decide)
  rw [scan, if_neg noQuote, if_pos digit]

theorem scan_word (starts : isWordStart c = true) : scan c cs =
    .ok (Lexeme.ofWord (c :: cs.takeWhile isWordPart) (cs.dropWhile isWordPart)) := by
  have late : ¬c.toNat < 0x41 := fun early => by simp [isWordStart_eq_false early] at starts
  have noQuote : c ≠ '"' := by
    rintro rfl
    exact late (by decide)
  have noDigit : ¬c.isDigit = true := fun digit => late (toNat_lt_of_isDigit digit)
  have noHash : c ≠ '#' := by
    rintro rfl
    exact late (by decide)
  rw [scan, if_neg noQuote, if_neg noDigit, if_neg noHash, if_pos starts]

theorem scan_hash {d : Char} {digits : List Char}
    (front : cs.takeWhile Number.isHexDigit = d :: digits) : scan '#' cs =
      .ok
        { kind := .hexNumber
          value := String.ofList (d :: digits)
          spelling := '#' :: d :: digits
          rest := cs.dropWhile Number.isHexDigit } := by
  rw [scan, if_neg (by decide), if_neg (by decide), if_pos rfl, front]

/-- No symbol begins like a token of another kind. -/
theorem scan_symbol {s taken : Symbol} {others : List Char}
    (front : s.lexeme.toList = c :: others) (cut : cutSymbol c cs = some (taken, rest)) :
    scan c cs =
      .ok
        { kind := .symbol taken
          value := taken.lexeme
          spelling := taken.lexeme.toList
          rest } := by
  have other : c ≠ '"' ∧ ¬c.isDigit = true ∧ c ≠ '#' ∧ ¬isWordStart c = true := by
    cases s <;> cases front <;> decide
  obtain ⟨noQuote, noDigit, noHash, noWord⟩ := other
  rw [scan, if_neg noQuote, if_neg noDigit, if_neg noHash, if_neg noWord, cut]

section Texts

variable {written meant : List Char} {items taken : List TextItem}

/-- A backslash in front of most characters stands for itself. -/
theorem meaning_escaped (noMeaning : c ∉ ['n', 't', '\\', '"']) :
    (TextItem.escaped c).meaning = ['\\', c] := by
  simp only [List.mem_cons, List.not_mem_nil, or_false, not_or] at noMeaning
  rw [TextItem.meaning] <;> simp [noMeaning]

/-- A backslash and the character behind it. -/
theorem Unquotes.escaped (c : Char) (others : Unquotes written meant) :
    Unquotes ('\\' :: c :: written) ((TextItem.escaped c).meaning ++ meant) := by
  by_cases noMeaning : c ∈ ['n', 't', '\\', '"']
  · simp only [List.mem_cons, List.not_mem_nil, or_false] at noMeaning
    rcases noMeaning with rfl | rfl | rfl | rfl
    · exact .newline others
    · exact .tab others
    · exact .backslash others
    · exact .quote others
  · rw [meaning_escaped noMeaning]
    exact .unknown noMeaning others

/-- What is read up to the closing quote is what the text between the quotes denotes. -/
theorem closeText_unquotes (closed : closeText taken cs = some (items, rest)) :
    ∃ new, items = taken.reverse ++ new ∧ cs = new.flatMap TextItem.spelling ++ '"' :: rest ∧
      Unquotes (new.flatMap TextItem.spelling) (new.flatMap TextItem.meaning) := by
  fun_induction closeText taken cs with
  | case1 => cases closed
  | case2 taken after =>
      cases closed
      exact ⟨[], by simp, rfl, .nil⟩
  | case3 taken c after ih =>
      obtain ⟨new, rfl, rfl, unquotes⟩ := ih closed
      exact ⟨.escaped c :: new, by simp, by simp [TextItem.spelling],
        by simpa [TextItem.spelling] using unquotes.escaped c⟩
  | case4 taken c after noQuote noEscape ih =>
      obtain ⟨new, rfl, rfl, unquotes⟩ := ih closed
      refine ⟨.plain c :: new, by simp, by simp [TextItem.spelling], ?_⟩
      -- a backslash would have taken the next character with it, and the quote is one
      have noBackslash : c ≠ '\\' := by
        rintro rfl
        cases front : new.flatMap TextItem.spelling ++ '"' :: rest with
        | nil => simp at front
        | cons d others => exact noEscape d others rfl front
      simpa [TextItem.spelling, TextItem.meaning] using
        Unquotes.plain (fun same => noQuote same) noBackslash unquotes

theorem closeText_plain (noQuote : c ≠ '"') (noBackslash : c ≠ '\\') :
    closeText taken (c :: cs) = closeText (.plain c :: taken) cs := by
  rw [closeText]
  · exact noQuote
  · exact fun _ _ same _ => noBackslash same

/-- A text between quotes is read up to the closing one, as what it denotes. -/
def Closes (written meant : List Char) : Prop :=
  ∃ items, items.flatMap TextItem.spelling = written ∧ items.flatMap TextItem.meaning = meant ∧
    ∀ taken rest, closeText taken (written ++ '"' :: rest) = some (taken.reverse ++ items, rest)

theorem Closes.escaped (c : Char) (closes : Closes written meant) :
    Closes ('\\' :: c :: written) ((TextItem.escaped c).meaning ++ meant) := by
  obtain ⟨items, rfl, rfl, closes⟩ := closes
  refine ⟨.escaped c :: items, rfl, rfl, fun taken rest => ?_⟩
  rw [List.cons_append, List.cons_append, closeText, closes]
  simp

theorem Unquotes.closes (unquotes : Unquotes written meant) : Closes written meant := by
  induction unquotes with
  | nil => exact ⟨[], rfl, rfl, fun taken rest => by simp [closeText]⟩
  | @plain c _ _ noQuote noBackslash _ ih =>
      obtain ⟨items, rfl, rfl, closes⟩ := ih
      refine ⟨.plain c :: items, rfl, rfl, fun taken rest => ?_⟩
      rw [List.cons_append, closeText_plain noQuote noBackslash, closes]
      simp
  | newline _ ih => exact ih.escaped 'n'
  | tab _ ih => exact ih.escaped 't'
  | backslash _ ih => exact ih.escaped '\\'
  | quote _ ih => exact ih.escaped '"'
  | @unknown c _ _ noMeaning _ ih =>
      have closes := ih.escaped c
      rwa [meaning_escaped noMeaning] at closes

end Texts

section Rows

variable {p : Char → Bool} {row : List Char}

theorem isRow_takeWhile (notEmpty : cs.takeWhile p ≠ []) : IsRow p (cs.takeWhile p) :=
  ⟨notEmpty, fun _ member => List.mem_takeWhile_imp member⟩

/-- A row of characters of a class is taken, and perhaps more. -/
theorem length_le_takeWhile (areInside : ∀ c ∈ row, p c = true) (rest : List Char) :
    row.length ≤ ((row ++ rest).takeWhile p).length := by
  rw [List.takeWhile_append_of_pos areInside, List.length_append]
  exact Nat.le_add_right _ _

/-- What is cut off as a number is one. -/
theorem isNumber_cutNumber (digit : c.isDigit = true) :
    IsNumber (cutNumber (c :: cs)).1 ∧
      (cutNumber (c :: cs)).1 ++ (cutNumber (c :: cs)).2 = c :: cs := by
  have whole : IsRow Char.isDigit ((c :: cs).takeWhile Char.isDigit) :=
    isRow_takeWhile (by simp [digit])
  have parts := List.takeWhile_append_dropWhile (p := Char.isDigit) (l := c :: cs)
  unfold cutNumber
  split
  · rename_i d others point
    rw [point] at parts
    split
    · rename_i partDigit
      refine ⟨.inr ⟨_, _, rfl, whole, by simp, ?_⟩, ?_⟩
      · intro e member
        rcases List.mem_cons.mp member with rfl | member
        · exact partDigit
        · exact List.mem_takeWhile_imp member
      · simp only [List.append_assoc, List.cons_append, List.takeWhile_append_dropWhile]
        exact parts
    · exact ⟨.inl whole, parts⟩
  · exact ⟨.inl whole, parts⟩

/-- At least the digits in front are cut off as a number. -/
theorem length_takeWhile_le_cutNumber (cs : List Char) :
    (cs.takeWhile Char.isDigit).length ≤ (cutNumber cs).1.length := by
  unfold cutNumber
  split
  · split
    · simp
    · exact Nat.le_refl _
  · exact Nat.le_refl _

/-- At least as much is cut off as any number takes that stands in front. -/
theorem IsNumber.length_le_cutNumber (isNumber : IsNumber row) (rest : List Char) :
    row.length ≤ (cutNumber (row ++ rest)).1.length := by
  rcases isNumber with ⟨_, digits⟩ | ⟨whole, part, rfl, ⟨_, digits⟩, ⟨notEmpty, partDigits⟩⟩
  · exact Nat.le_trans (length_le_takeWhile digits rest) (length_takeWhile_le_cutNumber _)
  · obtain ⟨d, others, rfl⟩ := List.exists_cons_of_ne_nil notEmpty
    have partDigit : d.isDigit = true := partDigits d (by simp)
    have othersDigits : ∀ e ∈ others, e.isDigit = true := fun e member =>
      partDigits e (List.mem_cons_of_mem d member)
    have more := length_le_takeWhile othersDigits rest
    have point : Char.isDigit '.' = false := by decide
    simp only [List.append_assoc, List.cons_append, cutNumber,
      List.takeWhile_append_of_pos digits, List.dropWhile_append_of_pos digits,
      List.takeWhile_cons, List.dropWhile_cons, point, partDigit, if_true, List.length_append,
      List.length_cons, Bool.false_eq_true, if_false, List.append_nil]
    omega

end Rows

section Symbols

variable {d : Char} {s other : Symbol}

theorem ofChar?_eq_some : Symbol.ofChar? c = some s ↔ s.lexeme.toList = [c] := by
  constructor
  · intro found
    unfold Symbol.ofChar? at found
    split at found <;> cases found <;> rfl
  · intro written
    cases s <;> cases written <;> rfl

theorem ofPair?_eq_some : Symbol.ofPair? c d = some s ↔ s.lexeme.toList = [c, d] := by
  constructor
  · intro found
    unfold Symbol.ofPair? at found
    split at found <;> cases found <;> rfl
  · intro written
    cases s <;> cases written <;> rfl

/-- Every symbol is written with one character or with two. -/
theorem lexeme_one_or_two (s : Symbol) :
    (∃ c, s.lexeme.toList = [c]) ∨ ∃ c d, s.lexeme.toList = [c, d] := by
  cases s <;> simp [Symbol.lexeme]

theorem eq_of_lexeme (same : s.lexeme.toList = other.lexeme.toList) : s = other := by
  rcases lexeme_one_or_two s with ⟨c, front⟩ | ⟨c, d, front⟩
  · have found := ofChar?_eq_some.mpr front
    have again := ofChar?_eq_some.mpr (same ▸ front)
    exact Option.some.inj (found.symm.trans again)
  · have found := ofPair?_eq_some.mpr front
    have again := ofPair?_eq_some.mpr (same ▸ front)
    exact Option.some.inj (found.symm.trans again)

/-- What is cut off as a symbol stands in front. -/
theorem lexeme_append_cutSymbol (cut : cutSymbol c cs = some (s, rest)) :
    s.lexeme.toList ++ rest = c :: cs := by
  have single : (Symbol.ofChar? c).map (fun s => (s, cs)) = some (s, rest) →
      s.lexeme.toList ++ rest = c :: cs := by
    intro found
    obtain ⟨_, alone, same⟩ := Option.map_eq_some_iff.mp found
    cases same
    rw [ofChar?_eq_some.mp alone]
    rfl
  cases cs with
  | nil => exact single cut
  | cons d others =>
      rw [cutSymbol] at cut
      split at cut
      · rename_i found
        cases cut
        rw [ofPair?_eq_some.mp found]
        rfl
      · exact single cut

/-- At least as much is cut off as any symbol takes that stands in front. -/
theorem exists_cutSymbol {others : List Char} (front : s.lexeme.toList = c :: others)
    (rest : List Char) :
    ∃ taken left, cutSymbol c (others ++ rest) = some (taken, left) ∧
      s.lexeme.toList.length ≤ taken.lexeme.toList.length := by
  rcases lexeme_one_or_two s with ⟨e, written⟩ | ⟨e, d, written⟩
  · obtain ⟨rfl, rfl⟩ := List.cons.inj (front.symm.trans written)
    have alone := ofChar?_eq_some.mpr written
    cases rest with
    | nil => exact ⟨s, [], by simp [cutSymbol, alone], Nat.le_refl _⟩
    | cons d after =>
        cases pair : Symbol.ofPair? c d with
        | none => exact ⟨s, d :: after, by simp [cutSymbol, pair, alone], Nat.le_refl _⟩
        | some taken =>
            refine ⟨taken, after, by simp [cutSymbol, pair], ?_⟩
            rw [written, ofPair?_eq_some.mp pair]
            simp
  · obtain ⟨rfl, rfl⟩ := List.cons.inj (front.symm.trans written)
    refine ⟨s, rest, ?_, Nat.le_refl _⟩
    rw [List.cons_append, cutSymbol, ofPair?_eq_some.mpr written]
    rfl

end Symbols

section Words

theorem isWordStart_of_isLower (isLower : c.isLower = true) : isWordStart c = true := by
  obtain ⟨lower, upper⟩ := Bool.and_eq_true_iff.mp isLower
  have isLetter : Character.isAlphabetic c = true :=
    (Character.inRanges_iff Character.alphabeticRanges_ascending).mpr
      ⟨(0x61, 0x7A), .tail _ (.head _), of_decide_eq_true lower, of_decide_eq_true upper⟩
  rw [isWordStart, isLetter, Bool.true_or]

theorem isWordPart_of_isWordStart (starts : isWordStart c = true) : isWordPart c = true := by
  simp only [isWordStart, isWordPart, Bool.or_eq_true] at *
  rcases starts with isLetter | underscore
  · exact .inl (.inl isLetter)
  · exact .inr underscore

/-- Keywords obey the rule for words. -/
theorem isWord_lexeme (k : Keyword) : IsWord k.lexeme.toList := by
  have areLower : k.lexeme.toList.all Char.isLower = true := by
    cases k <;> decide
  rw [List.all_eq_true] at areLower
  obtain ⟨c, others, front⟩ := List.exists_cons_of_ne_nil k.lexeme_ne_nil
  rw [front] at areLower ⊢
  refine ⟨isWordStart_of_isLower (areLower c (.head _)), fun d member => ?_⟩
  exact isWordPart_of_isWordStart (isWordStart_of_isLower (areLower d (.tail _ member)))

theorem ofWord_lexeme (k : Keyword) : TokenKind.ofWord k.lexeme = .keyword k := by
  cases k <;> rfl

theorem ofWord_eq_word {word : String} (noKeyword : ∀ k : Keyword, k.lexeme ≠ word) :
    TokenKind.ofWord word = .word := by
  have none : Keyword.ofWord? word = none := by
    simp [Keyword.ofWord?, noKeyword]
  rw [TokenKind.ofWord, none]

/-- What is cut off as a word is a keyword or an ordinary word. -/
theorem spells_ofWord {word : List Char} (isWord : IsWord word) :
    Spells (TokenKind.ofWord (String.ofList word)) (String.ofList word) word := by
  by_cases noKeyword : ∀ k : Keyword, k.lexeme ≠ String.ofList word
  · rw [ofWord_eq_word noKeyword]
    exact .word isWord noKeyword
  · simp only [not_forall, not_not] at noKeyword
    obtain ⟨k, same⟩ := noKeyword
    have written : k.lexeme.toList = word := by rw [same, String.toList_ofList]
    rw [← same, ofWord_lexeme, ← written]
    exact .keyword k

end Words

/-- What is taken is a token, and it stands in front of the text. -/
theorem scan_spells {lexeme : Lexeme} (scanned : scan c cs = .ok lexeme) :
    Spells lexeme.kind lexeme.value lexeme.spelling ∧
      lexeme.spelling ++ lexeme.rest = c :: cs := by
  unfold scan at scanned
  split at scanned
  · rename_i quote
    subst quote
    split at scanned
    · rename_i items rest closed
      cases scanned
      obtain ⟨new, same, rfl, unquotes⟩ := closeText_unquotes closed
      rw [List.reverse_nil, List.nil_append] at same
      subst same
      exact ⟨.text unquotes, by simp⟩
    · cases scanned
  · split at scanned
    · rename_i digit
      cases scanned
      have cut := @isNumber_cutNumber c cs digit
      exact ⟨.number cut.1, cut.2⟩
    · split at scanned
      · rename_i hash
        subst hash
        split at scanned
        · cases scanned
        · rename_i d digits front
          cases scanned
          have row : IsRow Number.isHexDigit (cs.takeWhile Number.isHexDigit) :=
            isRow_takeWhile (by simp [front])
          rw [front] at row
          have parts := List.takeWhile_append_dropWhile (p := Number.isHexDigit) (l := cs)
          rw [front] at parts
          exact ⟨.hexNumber row, congrArg ('#' :: ·) parts⟩
      · split at scanned
        · rename_i starts
          cases scanned
          have isWord : IsWord (c :: cs.takeWhile isWordPart) :=
            ⟨starts, fun _ member => List.mem_takeWhile_imp member⟩
          exact ⟨spells_ofWord isWord,
            congrArg (c :: ·) List.takeWhile_append_dropWhile⟩
        · split at scanned
          · rename_i s rest cut
            cases scanned
            exact ⟨.symbol s, lexeme_append_cutSymbol cut⟩
          · cases scanned

/-- Where a word stands in front, a word is taken that is at least as long. -/
theorem IsWord.scan {others : List Char} (isWord : IsWord (c :: others)) (rest : List Char) :
    ∃ word left, scan c (others ++ rest) = .ok (Lexeme.ofWord word left) ∧
      (c :: others).length ≤ word.length :=
  ⟨_, _, scan_word isWord.1, Nat.succ_le_succ (length_le_takeWhile isWord.2 rest)⟩

/-- Where a token stands in front, a token is taken that is at least as long; and if it is not
    longer, it is the same token. -/
theorem Spells.scan {kind : TokenKind} {value : String} {spelling others : List Char}
    (spells : Spells kind value spelling) (front : spelling = c :: others) (rest : List Char) :
    ∃ lexeme, scan c (others ++ rest) = .ok lexeme ∧
      spelling.length ≤ lexeme.spelling.length ∧
      (lexeme.spelling = spelling → lexeme.kind = kind ∧ lexeme.value = value) := by
  cases spells with
  | keyword k =>
      have isWord := isWord_lexeme k
      rw [front] at isWord
      obtain ⟨word, left, scanned, le⟩ := isWord.scan rest
      refine ⟨_, scanned, front ▸ le, fun same => ?_⟩
      have whole : String.ofList word = k.lexeme := by
        rw [show word = k.lexeme.toList from same, String.ofList_toList]
      exact ⟨by rw [Lexeme.ofWord, whole, ofWord_lexeme], whole⟩
  | symbol s =>
      obtain ⟨taken, left, cut, le⟩ := exists_cutSymbol front rest
      refine ⟨_, scan_symbol front cut, le, fun same => ?_⟩
      cases eq_of_lexeme same
      exact ⟨rfl, rfl⟩
  | number isNumber =>
      have digit := isNumber.front front
      have le := isNumber.length_le_cutNumber rest
      rw [front] at le
      exact ⟨_, scan_digit digit, front ▸ le, fun same => ⟨rfl, congrArg String.ofList same⟩⟩
  | @hexNumber digits areDigits =>
      cases front
      have le := length_le_takeWhile areDigits.2 rest
      have notEmpty : (others ++ rest).takeWhile Number.isHexDigit ≠ [] := by
        intro empty
        rw [empty] at le
        exact areDigits.1 (List.eq_nil_of_length_eq_zero (Nat.le_zero.mp le))
      obtain ⟨d, more, found⟩ := List.exists_cons_of_ne_nil notEmpty
      rw [found] at le
      refine ⟨_, scan_hash found, Nat.succ_le_succ le, fun same => ⟨rfl, ?_⟩⟩
      exact congrArg String.ofList (List.cons.inj same).2
  | word isWord noKeyword =>
      subst front
      obtain ⟨word, left, scanned, le⟩ := isWord.scan rest
      refine ⟨_, scanned, le, fun same => ?_⟩
      have whole : word = c :: others := same
      subst whole
      exact ⟨ofWord_eq_word noKeyword, rfl⟩
  | @text written meant unquotes =>
      cases front
      obtain ⟨items, rfl, rfl, closes⟩ := unquotes.closes
      have scanned := scan_quote (closes [] rest)
      have same : items.flatMap TextItem.spelling ++ ['"'] ++ rest =
          items.flatMap TextItem.spelling ++ '"' :: rest := List.append_assoc _ _ _
      exact ⟨_, same ▸ scanned, Nat.le_refl _, fun _ => ⟨rfl, rfl⟩⟩

variable {kind : TokenKind} {value : String} {spelling : List Char}

/-- What is taken is the longest token in front of the text. -/
theorem scan_isLongest {lexeme : Lexeme} (scanned : scan c cs = .ok lexeme) :
    IsLongest lexeme.spelling lexeme.rest := by
  intro kind value other spells stands
  rw [(scan_spells scanned).2] at stands
  obtain ⟨d, others, rfl⟩ := List.exists_cons_of_ne_nil spells.ne_nil
  obtain ⟨rest, parts⟩ := stands
  obtain ⟨rfl, after⟩ := List.cons.inj parts
  obtain ⟨taken, again, le, _⟩ := spells.scan rfl rest
  rw [show others ++ rest = cs from after, scanned] at again
  cases again
  exact le

/-- The longest token in front of a text is the one that is taken. -/
theorem IsLongest.scan {others : List Char} (longest : IsLongest (c :: others) rest)
    (spells : Spells kind value (c :: others)) :
    Lexer.scan c (others ++ rest) = .ok ⟨kind, value, c :: others, rest⟩ := by
  obtain ⟨lexeme, scanned, le, same⟩ := spells.scan rfl rest
  obtain ⟨taken, parts⟩ := scan_spells scanned
  have stands : lexeme.spelling <+: (c :: others) ++ rest := ⟨lexeme.rest, parts⟩
  -- two prefixes of one text that are equally long are the same
  have length := Nat.le_antisymm (longest _ _ _ taken stands) le
  obtain ⟨spelled, left⟩ := List.append_inj parts length
  obtain ⟨rfl, rfl⟩ := same spelled
  rw [scanned, ← spelled, ← left]

end Kiss.Lexical
