import Kiss.Proofs.Grammar.Phrase

/-!
# What may stand behind an expression

A reader takes the longest phrase that it can, so what it reads is a given phrase only if the
token behind that phrase does not go on with it. `Stops` says so for the parts of expressions.
The operators of two levels differ, which is why the operator behind an operand ends it, and
no statement begins with an operator, which is why statements need nothing between them.
-/

namespace Kiss.Grammar

open Kiss.Parser (Level Step frontKind)

variable {level : Level} {symbol : Symbol} {op : BinaryOp} {part : ExprPart} {ts : List Token}

/-- The grammar's list of repeating operators is the one that readers go by. -/
theorem step?_of_joins (joins : (symbol, op) ∈ joiners level) :
    level.step? (.symbol symbol) = some (.again op) := by
  have listed : ∀ joiner ∈ joiners level,
      level.step? (.symbol joiner.1) = some (.again joiner.2) := by
    cases level <;> decide
  exact listed _ joins

/-- Readers know no other operators than those of the grammar: the repeating ones, the single
    `|` of a disjunction and the single `&` of a conjunction. -/
theorem step?_eq_some {kind : TokenKind} {step : Step} (found : level.step? kind = some step) :
    (∃ symbol op, kind = .symbol symbol ∧ (symbol, op) ∈ joiners level ∧ step = .again op) ∨
    (level = .disjunction ∧ kind = .symbol .singleOr ∧ step = .last (.logical .strictOr)) ∨
    (level = .conjunction ∧ kind = .symbol .singleAnd ∧ step = .nested (.logical .strictAnd)) := by
  unfold Level.step? at found
  split at found <;> cases found
  case h_12 => exact .inr (.inl ⟨rfl, rfl, rfl⟩)
  case h_14 => exact .inr (.inr ⟨rfl, rfl, rfl⟩)
  all_goals exact .inl ⟨_, _, rfl, by simp [joiners], rfl⟩

theorem joins_of_step? {kind : TokenKind} (found : level.step? kind = some (.again op)) :
    ∃ symbol, kind = .symbol symbol ∧ (symbol, op) ∈ joiners level := by
  obtain ⟨symbol, _, front, joins, same⟩ | ⟨_, _, same⟩ | ⟨_, _, same⟩ := step?_eq_some found
  · cases same
    exact ⟨symbol, front, joins⟩
  all_goals cases same

/-- Only a disjunction has an operator that takes a last operand. -/
theorem strictOr_of_step? {kind : TokenKind} (found : level.step? kind = some (.last op)) :
    level = .disjunction ∧ kind = .symbol .singleOr ∧ op = .logical .strictOr := by
  obtain ⟨_, _, _, _, same⟩ | ⟨disjunction, front, same⟩ | ⟨_, _, same⟩ := step?_eq_some found
  · cases same
  · cases same
    exact ⟨disjunction, front, rfl⟩
  · cases same

/-- Only a conjunction has an operator that takes another chain. -/
theorem strictAnd_of_step? {kind : TokenKind} (found : level.step? kind = some (.nested op)) :
    level = .conjunction ∧ kind = .symbol .singleAnd ∧ op = .logical .strictAnd := by
  obtain ⟨_, _, _, _, same⟩ | ⟨_, _, same⟩ | ⟨conjunction, front, same⟩ := step?_eq_some found
  · cases same
  · cases same
  · cases same
    exact ⟨conjunction, front, rfl⟩

/-- No operator belongs to two levels. -/
theorem step?_unique {other : Level} {kind : TokenKind} {step : Step}
    (found : level.step? kind = some step) (different : other ≠ level) :
    other.step? kind = none := by
  unfold Level.step? at found
  split at found <;> cases found <;> cases other <;> first | rfl | contradiction

/-- A dot is not an operator. -/
theorem ne_dot_of_step {kind : TokenKind} {step : Step} (found : level.step? kind = some step) :
    kind ≠ .symbol .dot := by
  rintro rfl
  cases level <;> cases found

/-- The token at the front of these does not go on with such a part of an expression. -/
def Stops : ExprPart → List Token → Prop
  | .primary, ts => frontKind ts ≠ .symbol .dot
  | .unary, ts => frontKind ts ≠ .symbol .dot
  | .run level, ts =>
      frontKind ts ≠ .symbol .dot ∧
        ∀ other : Level, other.tightness < level.tightness → other.step? (frontKind ts) = none
  | .chain level, ts =>
      frontKind ts ≠ .symbol .dot ∧
        ∀ other : Level, other.tightness ≤ level.tightness → other.step? (frontKind ts) = none

/-- What ends a chain has no operator of its level. -/
theorem Stops.step? (stops : Stops (.chain level) ts) : level.step? (frontKind ts) = none :=
  stops.2 level (Nat.le_refl _)

/-- What ends a chain ends a run of its level. -/
theorem Stops.run (stops : Stops (.chain level) ts) : Stops (.run level) ts :=
  ⟨stops.1, fun other tighter => stops.2 other (Nat.le_of_lt tighter)⟩

/-- What ends a run ends the last operand in it. -/
theorem Stops.operand (stops : Stops (.run level) ts) : Stops (operandOf level) ts := by
  cases level with
  | conjunction => exact stops.1
  | sum | comparison | product | disjunction =>
      exact ⟨stops.1, fun other tighter => stops.2 other (Nat.lt_succ_of_le tighter)⟩

/-- An operator of a level ends a run of the level. -/
theorem stops_of_step {step : Step} (found : level.step? (frontKind ts) = some step) :
    Stops (.run level) ts := by
  refine ⟨ne_dot_of_step found, fun other tighter => step?_unique found ?_⟩
  rintro rfl
  omega

/-- The kinds of token that are no part of the middle of an expression. -/
def endsExpression (kind : TokenKind) : Prop :=
  kind ≠ .symbol .dot ∧ ∀ level : Level, level.step? kind = none

theorem stops_of_ends (ends : endsExpression (frontKind ts)) : Stops (.chain level) ts :=
  ⟨ends.1, fun other _ => ends.2 other⟩

theorem endsExpression_keyword (k : Keyword) : endsExpression (.keyword k) :=
  ⟨by simp, fun level => by cases level <;> rfl⟩

theorem endsExpression_word : endsExpression .word :=
  ⟨by simp, fun level => by cases level <;> rfl⟩

theorem endsExpression_endOfInput : endsExpression .endOfInput :=
  ⟨by simp, fun level => by cases level <;> rfl⟩

/-- The punctuation that may stand behind an expression. -/
theorem endsExpression_symbol
    (punctuation : symbol ∈ [.rightParen, .leftBrace, .rightBrace, .semicolon]) :
    endsExpression (.symbol symbol) := by
  simp only [List.mem_cons, List.not_mem_nil, or_false] at punctuation
  rcases punctuation with rfl | rfl | rfl | rfl <;>
    exact ⟨by decide, fun level => by cases level <;> rfl⟩

@[simp]
theorem frontKind_terminal {kind : TokenKind} (t : Terminal kind) (rest : List Token) :
    frontKind (t.token :: rest) = kind :=
  t.hasKind

/-- The kinds of token that a statement may begin with. -/
def beginsStatement (kind : TokenKind) : Prop :=
  kind = .word ∨ ∃ k ∈ [.printWord, .ifWord, .whileWord, .forWord], kind = .keyword k

theorem beginsStatement_keyword {k : Keyword}
    (member : k ∈ [.printWord, .ifWord, .whileWord, .forWord]) :
    beginsStatement (.keyword k) :=
  .inr ⟨k, member, rfl⟩

theorem endsExpression_of_beginsStatement {kind : TokenKind} (begins : beginsStatement kind) :
    endsExpression kind := by
  rcases begins with rfl | ⟨k, _, rfl⟩
  · exact endsExpression_word
  · exact endsExpression_keyword k

theorem StmtPhrase.front_assignment (phrase : StmtPhrase .assignment) (rest : List Token) :
    frontKind (phrase.tokens ++ rest) = .word := by
  cases phrase with
  | assign name => exact name.hasKind
  | assignField object => exact object.hasKind

/-- Every statement begins with a name or a keyword. -/
theorem StmtPhrase.front_statement {ending : Ending} (phrase : StmtPhrase (.statement ending))
    (rest : List Token) : beginsStatement (frontKind (phrase.tokens ++ rest)) := by
  cases phrase with
  | print =>
      rw [tokens, List.cons_append, frontKind_terminal]
      exact beginsStatement_keyword (by decide)
  | assignment inner => exact .inl (inner.front_assignment rest)
  | ifThen | ifElse | whileLoop | forLoop =>
      rw [tokens, List.cons_append, frontKind_terminal]
      exact beginsStatement_keyword (by decide)

/-- An `else` does not begin a statement. -/
theorem ne_else_of_beginsStatement {kind : TokenKind} (begins : beginsStatement kind) :
    kind ≠ .keyword .elseWord := by
  rintro rfl
  simp [beginsStatement] at begins

/-- The body of an `if` or a loop ends the condition in front of it. -/
theorem StmtPhrase.ends_body {ending : Ending} (phrase : StmtPhrase (.body ending))
    (rest : List Token) : endsExpression (frontKind (phrase.tokens ++ rest)) := by
  cases phrase with
  | block =>
      rw [tokens, List.cons_append, frontKind_terminal]
      exact endsExpression_symbol (by decide)
  | single inner => exact endsExpression_of_beginsStatement (inner.front_statement rest)

/-- More statements end the expression in front of them if what follows these does so too. -/
theorem StmtPhrase.ends_statements (phrase : StmtPhrase .statements) {rest : List Token}
    (ends : endsExpression (frontKind rest)) :
    endsExpression (frontKind (phrase.tokens ++ rest)) := by
  cases phrase with
  | none => exact ends
  | more first others =>
      rw [StmtPhrase.tokens, List.append_assoc]
      exact endsExpression_of_beginsStatement (first.front_statement _)

/-- More statements do not begin with an `else` if what follows these does not. -/
theorem StmtPhrase.ne_else_statements (phrase : StmtPhrase .statements) {rest : List Token}
    (different : frontKind rest ≠ .keyword .elseWord) :
    frontKind (phrase.tokens ++ rest) ≠ .keyword .elseWord := by
  cases phrase with
  | none => exact different
  | more first others =>
      rw [StmtPhrase.tokens, List.append_assoc]
      exact ne_else_of_beginsStatement (first.front_statement _)

end Kiss.Grammar
