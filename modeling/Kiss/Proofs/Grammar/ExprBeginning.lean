import Mathlib
import Kiss.Proofs.Grammar.Tallest

/-!
# What is read of an expression before it fails begins one

A reader stops at the first token that does not go on with what it reads: whatever stands in
front of a fault could have become a phrase with other tokens behind it. `Begins` says so of a
place among some tokens, and `Outcome.Reads` says of an outcome that it takes a word of a
language or fails behind the beginning of one. Readers that are put together read the products
of their languages, so what is left to show for each reader is an inclusion, which is a rule of
the grammar.
-/

namespace Kiss

namespace Grammar

variable {part whole : Language Token} {ts place before : List Token}

/-- The tokens in front of a place begin a word of a language: with some tokens behind them they
    are one. -/
def Begins (whole : Language Token) (ts place : List Token) : Prop :=
  ∃ taken more, taken ++ place = ts ∧ taken ++ more ∈ whole

namespace Begins

/-- In front of the first token there is nothing, which begins every word. -/
theorem atFront {word : List Token} (mem : word ∈ whole) (ts : List Token) : Begins whole ts ts :=
  ⟨[], word, rfl, mem⟩

theorem mono (begins : Begins part ts place) (le : part ≤ whole) : Begins whole ts place := by
  obtain ⟨taken, more, same, mem⟩ := begins
  exact ⟨taken, more, same, le mem⟩

/-- A word and the beginning of another one behind it. -/
theorem behind (begins : Begins whole ts place) (mem : before ∈ part) :
    Begins (part * whole) (before ++ ts) place := by
  obtain ⟨taken, more, rfl, also⟩ := begins
  refine ⟨before ++ taken, more, List.append_assoc .., ?_⟩
  rw [List.append_assoc]
  exact Language.append_mem_mul mem also

/-- The beginning of a word begins whatever words may stand behind that one. -/
theorem first (begins : Begins part ts place) {word : List Token} (mem : word ∈ whole) :
    Begins (part * whole) ts place := by
  obtain ⟨taken, more, same, also⟩ := begins
  refine ⟨taken, more ++ word, same, ?_⟩
  rw [← List.append_assoc]
  exact Language.append_mem_mul also mem

theorem length_le (begins : Begins whole ts place) : place.length ≤ ts.length := by
  obtain ⟨taken, _, rfl, _⟩ := begins
  simp

end Begins

end Grammar

namespace Parser.Outcome

open Kiss.Grammar (Begins)

variable {α β : Type} {part whole : Language Token} {ts before word : List Token}

/-- What is read from the front of some tokens is a word of a language, or it fails behind the
    beginning of one. -/
def Reads (whole : Language Token) (ts : List Token) : Outcome α → Prop
  | .ok _ rest => ∃ taken ∈ whole, taken ++ rest = ts
  | .fail fault _ _ => Begins whole ts fault.place

theorem Reads.mono {outcome : Outcome α} (reads : outcome.Reads part ts) (le : part ≤ whole) :
    outcome.Reads whole ts := by
  cases outcome with
  | ok value rest =>
      obtain ⟨taken, mem, same⟩ := reads
      exact ⟨taken, le mem, same⟩
  | fail fault => exact Begins.mono reads le

theorem Reads.leave {outcome : Outcome α} (reads : outcome.Reads whole ts) :
    outcome.leave.Reads whole ts := by
  cases outcome with
  | ok => exact reads
  | fail => exact reads

theorem Reads.map {outcome : Outcome α} {f : α → β} (reads : outcome.Reads whole ts) :
    (outcome.map f).Reads whole ts := by
  cases outcome with
  | ok => exact reads
  | fail => exact reads

/-- Behind a word that has been taken before. -/
theorem Reads.behind {outcome : Outcome α} (reads : outcome.Reads whole ts)
    (mem : before ∈ part) : outcome.Reads (part * whole) (before ++ ts) := by
  cases outcome with
  | ok value rest =>
      obtain ⟨taken, also, rfl⟩ := reads
      exact ⟨before ++ taken, Language.append_mem_mul mem also, List.append_assoc ..⟩
  | fail => exact Begins.behind reads mem

/-- Two constructs, one behind the other. If there are words for the second one, then a fault in
    the first one stands behind the beginning of both. -/
theorem Reads.andThen {outcome : Outcome α} {next : α → List Token → Outcome β}
    (first : outcome.Reads part ts) (mem : word ∈ whole)
    (second : ∀ value rest, (next value rest).Reads whole rest) :
    (outcome.andThen next).Reads (part * whole) ts := by
  cases outcome with
  | ok value rest =>
      obtain ⟨taken, also, rfl⟩ := first
      exact (second value rest).behind also
  | fail => exact Begins.first first mem

end Parser.Outcome

namespace Grammar

open Kiss.Parser (Level Outcome frontKind)

variable {α : Type} {part : ExprPart} {level : Level} {ts rest : List Token}

theorem failHere_reads {whole : Language Token} {word : List Token} (mem : word ∈ whole)
    (cause : ParseCause) (depth : Nat) (ts : List Token) :
    (Parser.failHere cause depth ts : Outcome α).Reads whole ts :=
  Begins.atFront mem ts

/-- The tokens of a kind. -/
def terminals (kind : TokenKind) : Language Token :=
  {us | ∃ t : Terminal kind, [t.token] = us}

/-- The phrases of a part of an expression, as tokens. -/
def ExprPart.language (part : ExprPart) : Language Token :=
  {us | ∃ phrase : ExprPhrase part, phrase.tokens = us}

theorem Terminal.mem {kind : TokenKind} (t : Terminal kind) : [t.token] ∈ terminals kind :=
  ⟨t, rfl⟩

theorem ExprPhrase.mem (phrase : ExprPhrase part) : phrase.tokens ∈ part.language :=
  ⟨phrase, rfl⟩

/-- A token of a known kind at the front is a terminal, and tokens stand behind it. -/
theorem exists_cons {kind : TokenKind} (front : frontKind ts = kind)
    (different : kind ≠ .endOfInput) :
    ∃ (t : Terminal kind) (rest : List Token), ts = t.token :: rest := by
  obtain ⟨t, split⟩ := exists_terminal front different
  exact ⟨t, ts.tail, split⟩

/-- What stands behind a token that has been looked at. -/
theorem reads_cons {kind : TokenKind} {whole : Language Token} {outcome : Outcome α}
    (t : Terminal kind) (reads : outcome.Reads whole rest) :
    outcome.Reads (terminals kind * whole) (t.token :: rest) :=
  Outcome.Reads.behind reads t.mem

theorem expect_reads (kind : TokenKind) (depth : Nat) (ts : List Token) :
    (Parser.expect kind depth ts).Reads (terminals kind) ts := by
  let wanted : Terminal kind := ⟨⟨kind, "", .start⟩, rfl⟩
  have missing := Begins.atFront wanted.mem ts
  cases ts with
  | nil => exact missing
  | cons t rest =>
      simp only [Parser.expect]
      split
      · rename_i hasKind
        exact ⟨[t], Terminal.mem ⟨t, hasKind⟩, rfl⟩
      · exact missing

/-- What may stand behind a run of a level, whatever run it is, to make a chain. -/
def tails (level : Level) : Language Token :=
  {us | ∀ run : ExprPhrase (.run level), run.tokens ++ us ∈ (ExprPart.chain level).language}

/-! ### The rules of the grammar -/

theorem nil_mem_tails (level : Level) : [] ∈ tails level :=
  fun run => ⟨.whole run, (List.append_nil _).symm⟩

theorem operand_tails_le (level : Level) :
    (operandOf level).language * tails level ≤ (ExprPart.chain level).language := by
  rintro _ ⟨_, ⟨phrase, rfl⟩, rest, isTail, rfl⟩
  exact isTail (.operand phrase)

/-- A repeating operator and its right side make a longer run. -/
theorem joiner_tails_le {symbol : Symbol} {op : BinaryOp} (joins : (symbol, op) ∈ joiners level) :
    terminals (.symbol symbol) * ((operandOf level).language * tails level) ≤ tails level := by
  rintro _ ⟨_, ⟨operator, rfl⟩, _, ⟨_, ⟨right, rfl⟩, rest, isTail, rfl⟩, rfl⟩ run
  have longer := isTail (.joined op run operator joins right)
  simpa [ExprPhrase.tokens] using longer

theorem singleOr_le_tails :
    terminals (.symbol .singleOr) * (ExprPart.chain .conjunction).language ≤
      tails .disjunction := by
  rintro _ ⟨_, ⟨operator, rfl⟩, _, ⟨right, rfl⟩, rfl⟩ run
  exact ⟨.strictOr run operator right, rfl⟩

theorem singleAnd_le_tails :
    terminals (.symbol .singleAnd) * (ExprPart.chain .conjunction).language ≤
      tails .conjunction := by
  rintro _ ⟨_, ⟨operator, rfl⟩, _, ⟨right, rfl⟩, rfl⟩ run
  exact ⟨.strictAnd run operator right, rfl⟩

theorem primary_le_unary : ExprPart.primary.language ≤ ExprPart.unary.language := by
  rintro _ ⟨inner, rfl⟩
  exact ⟨.bare inner, rfl⟩

/-- A sign of any operator or a plus may stand in front of a primary expression. -/
theorem signed_le_unary {sign : Symbol} (isSign : sign ∈ [Symbol.minus, .plus, .bang]) :
    terminals (.symbol sign) * ExprPart.primary.language ≤ ExprPart.unary.language := by
  rintro _ ⟨_, ⟨t, rfl⟩, _, ⟨inner, rfl⟩, rfl⟩
  simp only [List.mem_cons, List.not_mem_nil, or_false] at isSign
  rcases isSign with rfl | rfl | rfl
  · exact ⟨.negated t inner, rfl⟩
  · exact ⟨.positive t inner, rfl⟩
  · exact ⟨.inverted t inner, rfl⟩

theorem group_le_primary :
    terminals (.symbol .leftParen) * ((ExprPart.chain .sum).language *
      terminals (.symbol .rightParen)) ≤ ExprPart.primary.language := by
  rintro _ ⟨_, ⟨left, rfl⟩, _, ⟨_, ⟨inner, rfl⟩, _, ⟨right, rfl⟩, rfl⟩, rfl⟩
  exact ⟨.group left inner right, rfl⟩

theorem emptyObject_le_primary :
    terminals (.symbol .leftBrace) * terminals (.symbol .rightBrace) ≤
      ExprPart.primary.language := by
  rintro _ ⟨_, ⟨left, rfl⟩, _, ⟨right, rfl⟩, rfl⟩
  exact ⟨.emptyObject left right, rfl⟩

theorem field_le_primary :
    terminals .word * (terminals (.symbol .dot) * terminals .word) ≤
      ExprPart.primary.language := by
  rintro _ ⟨_, ⟨object, rfl⟩, _, ⟨_, ⟨dot, rfl⟩, _, ⟨name, rfl⟩, rfl⟩, rfl⟩
  exact ⟨.field object dot name, rfl⟩

/-! ### The readers -/

theorem nameOrField_reads (depth : Nat) (t : Terminal .word) (rest : List Token) :
    (Parser.nameOrField depth t.token.value rest).Reads ExprPart.primary.language
      (t.token :: rest) := by
  simp only [Parser.nameOrField]
  split
  · rename_i front
    obtain ⟨dot, rest, rfl⟩ := exists_cons front (by decide)
    exact (reads_cons t (reads_cons dot (expect_reads .word depth rest).map)).mono
      field_le_primary
  · exact ⟨[t.token], (ExprPhrase.var t).mem, rfl⟩

theorem emptyObject_reads (depth : Nat) (left : Terminal (.symbol .leftBrace))
    (rest : List Token) :
    (Parser.emptyObject depth rest).Reads ExprPart.primary.language (left.token :: rest) :=
  (reads_cons left (expect_reads (.symbol .rightBrace) depth rest).map).mono
    emptyObject_le_primary

/-- A literal that denotes no number is where a primary expression could have begun. -/
theorem numberLiteral_reads (depth : Nat) (t : Terminal .number) (rest : List Token) :
    (Parser.numberLiteral depth t.token rest).Reads ExprPart.primary.language
      (t.token :: rest) := by
  simp only [Parser.numberLiteral]
  split
  · exact ⟨[t.token], (ExprPhrase.number t).mem, rfl⟩
  · exact Begins.atFront ExprPhrase.truth.mem _

theorem hexLiteral_reads (depth : Nat) (t : Terminal .hexNumber) (rest : List Token) :
    (Parser.hexLiteral depth t.token rest).Reads ExprPart.primary.language (t.token :: rest) := by
  simp only [Parser.hexLiteral]
  split
  · exact ⟨[t.token], (ExprPhrase.hexNumber t).mem, rfl⟩
  · exact Begins.atFront ExprPhrase.truth.mem _

/-- What each reader of a part of an expression reads. -/
theorem expression_levels_read :
    (∀ depth ts, (Parser.expression depth ts).Reads (ExprPart.chain .sum).language ts) ∧
    (∀ level depth ts,
      (Parser.chainAt level depth ts).Reads (ExprPart.chain level).language ts) ∧
    (∀ level depth left ts, (Parser.chainRest level depth left ts).Reads (tails level) ts) ∧
    (∀ level depth ts, (Parser.operand level depth ts).Reads (operandOf level).language ts) ∧
    (∀ depth ts, (Parser.unary depth ts).Reads ExprPart.unary.language ts) ∧
    (∀ depth ts, (Parser.primary depth ts).Reads ExprPart.primary.language ts) := by
  apply Parser.expression_induction
  case inside =>
    intro depth ts within inner
    rw [Parser.expression, if_pos within]
    exact inner.leave
  case beyond =>
    intro depth ts beyond
    rw [Parser.expression, if_neg beyond]
    exact failHere_reads (ExprPhrase.shortest .sum).raise.mem _ _ _
  case chain =>
    intro level depth ts first more
    rw [Parser.chainAt]
    exact (first.andThen (nil_mem_tails level) more).mono (operand_tails_le level)
  case ended =>
    intro level depth left ts found
    rw [Parser.chainRest_ended found]
    exact ⟨[], nil_mem_tails level, rfl⟩
  case again =>
    intro level depth left ts op found within first more
    obtain ⟨sign, front, joins⟩ := joins_of_step? found
    rw [Parser.chainRest_again found within]
    obtain ⟨operator, rest, rfl⟩ := exists_cons front (by simp)
    exact (reads_cons operator (first.andThen (nil_mem_tails level) more)).mono
      (joiner_tails_le joins)
  case againBeyond =>
    intro level depth left ts op found beyond
    obtain ⟨sign, front, joins⟩ := joins_of_step? found
    rw [Parser.chainRest_again_beyond found beyond]
    obtain ⟨operator, rest, rfl⟩ := exists_cons front (by simp)
    have operand := Language.append_mem_mul (ExprPhrase.shortest level).mem (nil_mem_tails level)
    exact (reads_cons operator (failHere_reads operand _ _ rest)).mono (joiner_tails_le joins)
  case last =>
    intro level depth left ts op found right
    rw [Parser.chainRest_last found]
    obtain ⟨rfl, front, rfl⟩ := strictOr_of_step? found
    obtain ⟨operator, rest, rfl⟩ := exists_cons front (by simp)
    exact (reads_cons operator right.map).mono singleOr_le_tails
  case nested =>
    intro level depth left ts op found within right
    rw [Parser.chainRest_nested found within]
    obtain ⟨rfl, front, rfl⟩ := strictAnd_of_step? found
    obtain ⟨operator, rest, rfl⟩ := exists_cons front (by simp)
    exact (reads_cons operator right.map).mono singleAnd_le_tails
  case nestedBeyond =>
    intro level depth left ts op found beyond
    rw [Parser.chainRest_nested_beyond found beyond]
    obtain ⟨rfl, front, rfl⟩ := strictAnd_of_step? found
    obtain ⟨operator, rest, rfl⟩ := exists_cons front (by simp)
    have operand := (ExprPhrase.shortest .conjunction).raise.mem
    exact (reads_cons operator (failHere_reads operand _ _ rest)).mono singleAnd_le_tails
  case minus | bang =>
    intro depth ts front inner
    rw [Parser.unary, front]
    obtain ⟨sign, rest, rfl⟩ := exists_cons front (by simp)
    exact (reads_cons sign inner.map).mono (signed_le_unary (by decide))
  case plus =>
    intro depth ts front inner
    rw [Parser.unary, front]
    obtain ⟨sign, rest, rfl⟩ := exists_cons front (by simp)
    exact (reads_cons sign inner).mono (signed_le_unary (by decide))
  case unsigned =>
    intro depth ts noMinus noPlus noBang inner
    rw [Parser.unary_unsigned noMinus noPlus noBang]
    exact inner.mono primary_le_unary
  case number =>
    intro depth t rest kind
    rw [Parser.primary, kind]
    exact numberLiteral_reads depth ⟨t, kind⟩ rest
  case hexNumber =>
    intro depth t rest kind
    rw [Parser.primary, kind]
    exact hexLiteral_reads depth ⟨t, kind⟩ rest
  case text =>
    intro depth t rest kind
    rw [Parser.primary, kind]
    exact ⟨[t], (ExprPhrase.text ⟨t, kind⟩).mem, rfl⟩
  case word =>
    intro depth t rest kind
    rw [Parser.primary, kind]
    exact nameOrField_reads depth ⟨t, kind⟩ rest
  case trueWord =>
    intro depth t rest kind
    rw [Parser.primary, kind]
    exact ⟨[t], (ExprPhrase.trueWord ⟨t, kind⟩).mem, rfl⟩
  case falseWord =>
    intro depth t rest kind
    rw [Parser.primary, kind]
    exact ⟨[t], (ExprPhrase.falseWord ⟨t, kind⟩).mem, rfl⟩
  case leftBrace =>
    intro depth t rest kind
    rw [Parser.primary, kind]
    exact emptyObject_reads depth ⟨t, kind⟩ rest
  case leftParen =>
    intro depth t rest kind inner
    rw [Parser.primary, kind]
    have closed := inner.andThen (Terminal.ofSymbol .rightParen).mem fun value rest =>
      (expect_reads (.symbol .rightParen) depth rest).map (f := fun _ => value)
    exact (reads_cons ⟨t, kind⟩ closed).mono group_le_primary
  case noPrimary =>
    intro depth ts different
    rw [Parser.primary_of_not_begins different]
    exact failHere_reads ExprPhrase.truth.mem _ _ _
  all_goals
    intro depth ts inner
    rw [Parser.operand]
    exact inner

/-- What is read as an expression is one, and what is read in front of a fault begins one. -/
theorem expression_reads (depth : Nat) (ts : List Token) :
    (Parser.expression depth ts).Reads (ExprPart.chain .sum).language ts :=
  expression_levels_read.1 depth ts

end Grammar

end Kiss
