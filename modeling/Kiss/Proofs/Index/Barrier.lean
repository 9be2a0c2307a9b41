import Kiss.Proofs.Index.Parser

/-!
# The index goes on up to the next end of the input

From the index of a parser on there is a first place at which the input is at its end, among the
tokens or behind them (`IndexedParser.barrier`). As long as that is not passed it stays the same, so
the ways that are gone one behind another add up (`IndexedParser.Reaches`). No procedure takes an
end of the input but the one that reads a program, for each looks at a token before it takes it. So
none goes back or beyond that place, with a value or with an error, and one that comes to a value
has taken as many tokens as it has at least (`Indexed.Moves`). Both are proved of all procedures at
once, by induction on the calls that they may make.
-/

namespace Kiss

open Kiss.Parser (Level)

namespace IndexedParser

variable {p q : IndexedParser} {place : Nat}

theorem index_le_barrier (p : IndexedParser) : p.index ≤ p.barrier :=
  (Nat.find_spec p.exists_end).1

theorem kindAt_barrier (p : IndexedParser) : p.kindAt p.barrier = .endOfInput :=
  (Nat.find_spec p.exists_end).2

theorem barrier_le (fromIndex : p.index ≤ place) (atEnd : p.kindAt place = .endOfInput) :
    p.barrier ≤ place :=
  Nat.find_min' p.exists_end ⟨fromIndex, atEnd⟩

theorem kindAt_congr (tokens : q.tokens = p.tokens) :
    q.kindAt place = .endOfInput ↔ p.kindAt place = .endOfInput := by
  have ends (r : IndexedParser) : r.kindAt place = .endOfInput ↔
      ∀ t, r.tokens[place]? = some t → t.kind = .endOfInput := by
    rw [kindAt, tokenAt]
    cases r.tokens[place]? with
    | none => simp [r.isEnd]
    | some t => simp
  rw [ends, ends, tokens]

/-- Between an index and the next end of the input there is no other. -/
theorem barrier_eq (tokens : q.tokens = p.tokens) (forward : p.index ≤ q.index)
    (within : q.index ≤ p.barrier) : q.barrier = p.barrier := by
  apply Nat.le_antisymm
  · exact barrier_le within ((kindAt_congr tokens).mpr p.kindAt_barrier)
  · exact barrier_le (Nat.le_trans forward q.index_le_barrier)
      ((kindAt_congr tokens).mp q.kindAt_barrier)

/-- One parser has gone on to another, at least so many tokens further and not beyond the next end
    of the input. -/
structure Reaches (p : IndexedParser) (count : Nat) (q : IndexedParser) : Prop where
  tokens : q.tokens = p.tokens
  forward : p.index + count ≤ q.index
  within : q.index ≤ p.barrier

variable {r : IndexedParser} {m n : Nat}

theorem reaches_self (p : IndexedParser) : p.Reaches 0 p :=
  ⟨rfl, Nat.le_refl _, p.index_le_barrier⟩

/-- The next token can be passed unless the input is at its end. -/
theorem reaches_next (noEnd : p.kindAt p.index ≠ .endOfInput) : p.Reaches 1 p.next := by
  refine ⟨rfl, Nat.le_refl _, Nat.lt_of_le_of_ne p.index_le_barrier fun same => noEnd ?_⟩
  rw [same]
  exact p.kindAt_barrier

theorem Reaches.barrier (reaches : p.Reaches n q) : q.barrier = p.barrier :=
  barrier_eq reaches.tokens (Nat.le_of_add_right_le reaches.forward) reaches.within

theorem Reaches.trans (first : p.Reaches m q) (second : q.Reaches n r) : p.Reaches (m + n) r := by
  refine ⟨second.tokens.trans first.tokens, ?_, first.barrier ▸ second.within⟩
  have := first.forward
  have := second.forward
  omega

theorem Reaches.mono (reaches : p.Reaches n q) (fewer : m ≤ n) : p.Reaches m q :=
  ⟨reaches.tokens, Nat.le_trans (Nat.add_le_add_left fewer _) reaches.forward, reaches.within⟩

/-- The depth makes no difference. -/
theorem Reaches.withDepth (reaches : p.Reaches n q) (depth : Nat) :
    p.Reaches n { q with depth } :=
  ⟨reaches.tokens, reaches.forward, reaches.within⟩

end IndexedParser

namespace Indexed

variable {α β : Type} {p : IndexedParser} {m : Indexed α} {f : α → Indexed β} {n k : Nat}

/-- Where a computation gets from a parser, if it has a result: whether it comes to a value or to an
    error, not back and not beyond the next end of the input; and if to a value, at least so many
    tokens further. -/
def Moves (p : IndexedParser) (count : Nat) (m : Indexed α) : Prop :=
  ∀ result q, m p = some (result, q) →
    p.Reaches 0 q ∧ ∀ value, result = .ok value → p.Reaches count q

theorem Moves.mono (moves : Moves p n m) (fewer : k ≤ n) : Moves p k m := fun result q reached =>
  (moves result q reached).imp_right fun further value same => (further value same).mono fewer

theorem outOfCalls_moves (p : IndexedParser) (n : Nat) : Moves p n (outOfCalls : Indexed α) :=
  fun _ _ impossible => nomatch impossible

theorem pure_moves (p : IndexedParser) (value : α) : Moves p 0 (pure value : Indexed α) := by
  rintro _ _ ⟨⟩
  exact ⟨p.reaches_self, fun _ _ => p.reaches_self⟩

theorem throw_moves (p : IndexedParser) (n : Nat) (e : ParseError) :
    Moves p n (throw e : Indexed α) := by
  rintro _ _ ⟨⟩
  exact ⟨p.reaches_self, nofun⟩

theorem refuse_moves (p : IndexedParser) (n : Nat) (cause : ParseCause) :
    Moves p n (refuse cause : Indexed α) := by
  rintro _ _ ⟨⟩
  exact ⟨p.reaches_self, nofun⟩

/-- A computation behind another is made from the parser that the other leaves with a value; an
    error of the other is the error of both. -/
theorem bind_eq_some {result : Except ParseError β} {r : IndexedParser}
    (reached : (m >>= f) p = some (result, r)) :
    (∃ value q, m p = some (.ok value, q) ∧ f value q = some (result, r)) ∨
      ∃ e, m p = some (.error e, r) ∧ result = .error e := by
  obtain ⟨⟨outcome, q⟩, left, rest⟩ := Option.bind_eq_some_iff.mp reached
  cases outcome with
  | ok value => exact .inl ⟨value, q, left, rest⟩
  | error e =>
      cases rest
      exact .inr ⟨e, left, rfl⟩

/-- Behind a value it is gone on from where that was reached. -/
theorem Moves.bind (first : Moves p n m) (second : ∀ value q, p.Reaches n q → Moves q k (f value)) :
    Moves p (n + k) (m >>= f) := by
  intro result r reached
  rcases bind_eq_some reached with ⟨value, q, left, rest⟩ | ⟨e, left, rfl⟩
  · have here := (first _ q left).2 value rfl
    obtain ⟨back, further⟩ := second value q here result r rest
    exact ⟨(here.mono (Nat.zero_le n)).trans back, fun last same => here.trans (further last same)⟩
  · exact ⟨(first _ r left).1, nofun⟩

/-- Whatever is done with a value that was reached takes no tokens. -/
theorem Moves.map {f : α → β} (moves : Moves p n m) :
    Moves p n (m >>= fun value => pure (f value)) :=
  moves.bind fun _ q _ => pure_moves q _

theorem current_moves {f : Token → Indexed α} :
    Moves p n (current >>= f) ↔ Moves p n (f (p.tokenAt p.index)) := Iff.rfl

theorem kindAhead_moves {offset : Nat} {f : TokenKind → Indexed α} :
    Moves p n (kindAhead offset >>= f) ↔ Moves p n (f (p.kindAt (p.index + offset))) := Iff.rfl

theorem counter_moves {f : Nat → Indexed α} :
    Moves p n (counter >>= f) ↔ Moves p n (f p.depth) := Iff.rfl

theorem restore_moves (p : IndexedParser) (depth : Nat) : Moves p 0 (restore depth) := by
  rintro _ _ ⟨⟩
  have stays := p.reaches_self.withDepth depth
  exact ⟨stays, fun _ _ => stays⟩

theorem enter_moves (p : IndexedParser) : Moves p 0 enter := by
  refine counter_moves.mpr ?_
  refine (restore_moves p _).bind (k := 0) fun _ q _ => counter_moves.mpr ?_
  split
  · exact refuse_moves q 0 _
  · exact pure_moves q ()

theorem leaving_moves (moves : Moves p n m) : Moves p n (leaving m) := by
  intro result r reached
  obtain ⟨⟨outcome, q⟩, inner, left⟩ := Option.bind_eq_some_iff.mp reached
  obtain ⟨back, further⟩ := moves outcome q inner
  rw [leave] at left
  split at left
  · cases left
  · cases left
    exact ⟨back.withDepth _, fun value same => (further value same).withDepth _⟩

/-- Behind the next token, which is not the end of the input, it is gone on one further. -/
theorem advance_moves {f : Token → Indexed α} (noEnd : p.kindAt p.index ≠ .endOfInput)
    (more : Moves p.next n (f (p.tokenAt p.index))) : Moves p (1 + n) (advance >>= f) := by
  intro result r reached
  have passed := IndexedParser.reaches_next noEnd
  obtain ⟨back, further⟩ := more result r reached
  exact ⟨(passed.trans back).mono (Nat.zero_le _), fun value same =>
    passed.trans (further value same)⟩

section Eat

variable {kind : TokenKind} {yes no : Indexed α}

theorem eat_of_eq (found : p.kindAt p.index = kind) :
    (eat kind >>= fun found => if found = true then yes else no) p =
      (advance >>= fun _ => yes) p := by
  show ((if p.kindAt p.index = kind then do
      let _ ← advance
      return true
    else return false : Indexed Bool) >>= _) p = _
  rw [if_pos found]
  rfl

theorem eat_of_ne (missing : p.kindAt p.index ≠ kind) :
    (eat kind >>= fun found => if found = true then yes else no) p = no p := by
  show ((if p.kindAt p.index = kind then do
      let _ ← advance
      return true
    else return false : Indexed Bool) >>= _) p = _
  rw [if_neg missing]
  rfl

/-- Taking a token or not decides how to go on. -/
theorem eat_moves (different : kind ≠ .endOfInput) (taken : Moves p.next n yes) (fewer : k ≤ 1 + n)
    (untaken : Moves p k no) :
    Moves p k (eat kind >>= fun found => if found = true then yes else no) := by
  by_cases found : p.kindAt p.index = kind
  · have passed : Moves p (1 + n) (advance >>= fun _ => yes) :=
      advance_moves (found ▸ different) taken
    rw [Moves, eat_of_eq found]
    exact passed.mono fewer
  · rw [Moves, eat_of_ne found]
    exact untaken

end Eat

theorem expect_moves {kind : TokenKind} (different : kind ≠ .endOfInput) (p : IndexedParser) :
    Moves p 1 (expect kind) := by
  refine current_moves.mpr ?_
  split
  · rename_i found
    have noEnd : p.kindAt p.index ≠ .endOfInput := by
      rw [IndexedParser.kindAt, found]
      exact different
    exact advance_moves noEnd (pure_moves p.next _)
  · exact refuse_moves p 1 _

/-! ### Expressions -/

theorem numberLiteral_moves (p : IndexedParser) (t : Token) : Moves p 0 (numberLiteral t) := by
  rw [numberLiteral]
  split
  · exact pure_moves p _
  · exact throw_moves p 0 _

theorem hexLiteral_moves (p : IndexedParser) (t : Token) : Moves p 0 (hexLiteral t) := by
  rw [hexLiteral]
  split
  · exact pure_moves p _
  · exact throw_moves p 0 _

theorem nameOrField_moves (p : IndexedParser) (name : String) :
    Moves p 0 (nameOrField name) := by
  exact eat_moves (by decide) (expect_moves (by decide) _).map (Nat.zero_le _) (pure_moves p _)

theorem ne_end_of_step {level : Level} {step : Parser.Step} {kind : TokenKind}
    (found : level.step? kind = some step) : kind ≠ .endOfInput := by
  rintro rfl
  cases level <;> cases found

/-- How far the parts of an expression go at least, whatever the calls that may be made. -/
structure ExpressionMoves (calls : Nat) : Prop where
  expression : ∀ p, Moves p 1 (expression calls)
  chainAt : ∀ p level, Moves p 1 (chainAt calls level)
  chainRest : ∀ p level left, Moves p 0 (chainRest calls level left)
  operand : ∀ p level, Moves p 1 (operand calls level)
  unary : ∀ p, Moves p 1 (unary calls)
  primary : ∀ p, Moves p 1 (primary calls)

theorem expression_levels_move (calls : Nat) : ExpressionMoves calls := by
  induction calls with
  | zero =>
      exact
        { expression := fun p => outOfCalls_moves p 1
          chainAt := fun p _ => outOfCalls_moves p 1
          chainRest := fun p _ _ => outOfCalls_moves p 0
          operand := fun p _ => outOfCalls_moves p 1
          unary := fun p => outOfCalls_moves p 1
          primary := fun p => outOfCalls_moves p 1 }
  | succ calls ih =>
      constructor
      case expression =>
        intro p
        exact (enter_moves p).bind (k := 1) fun _ q _ => leaving_moves (ih.chainAt q .sum)
      case chainAt =>
        intro p level
        refine (counter_moves.mpr ?_)
        refine (ih.operand p level).bind (k := 0) fun left q _ => ?_
        refine (ih.chainRest q level left).bind (k := 0) fun whole r _ => ?_
        exact (restore_moves r _).bind (k := 0) fun _ s _ => pure_moves s whole
      case chainRest =>
        intro p level left
        refine current_moves.mpr ?_
        split
        · exact pure_moves p left
        · rename_i op found
          refine (advance_moves (n := 1) (ne_end_of_step found) ?_).mono (Nat.zero_le _)
          refine (enter_moves _).bind (k := 1) fun _ q _ => ?_
          exact (ih.operand q level).bind (k := 0) fun right r _ => ih.chainRest r level _
        · rename_i op found
          exact (advance_moves (ne_end_of_step found) (ih.operand _ level).map).mono
            (Nat.zero_le _)
        · rename_i op found
          refine (advance_moves (n := 1) (ne_end_of_step found) ?_).mono (Nat.zero_le _)
          exact (enter_moves _).bind (k := 1) fun _ q _ => (ih.chainAt q level).map
      case operand =>
        intro p level
        cases level with
        | sum => exact ih.chainAt p .comparison
        | comparison => exact ih.chainAt p .product
        | product => exact ih.chainAt p .disjunction
        | disjunction => exact ih.chainAt p .conjunction
        | conjunction => exact ih.unary p
      case unary =>
        intro p
        refine eat_moves (by decide) (ih.primary _).map (by decide) ?_
        refine eat_moves (by decide) (ih.primary _) (by decide) ?_
        exact eat_moves (by decide) (ih.primary _).map (by decide) (ih.primary p)
      case primary =>
        intro p
        refine current_moves.mpr ?_
        have passes {kind : TokenKind} {f : Token → Indexed Expr} {n : Nat}
            (found : (p.tokenAt p.index).kind = kind) (different : kind ≠ .endOfInput)
            (more : Moves p.next n (f (p.tokenAt p.index))) : Moves p 1 (advance >>= f) := by
          have noEnd : p.kindAt p.index ≠ .endOfInput := by
            rw [IndexedParser.kindAt, found]
            exact different
          exact (advance_moves noEnd more).mono (Nat.le_add_right 1 n)
        split
        · rename_i found
          exact passes found (by decide) (numberLiteral_moves _ _)
        · rename_i found
          exact passes found (by decide) (hexLiteral_moves _ _)
        · rename_i found
          exact passes found (by decide) (pure_moves _ _)
        · rename_i found
          exact passes found (by decide) (nameOrField_moves _ _)
        · rename_i found
          exact passes found (by decide) (pure_moves _ _)
        · rename_i found
          exact passes found (by decide) (pure_moves _ _)
        · rename_i found
          exact passes found (by decide) (expect_moves (by decide) _).map
        · rename_i found
          refine passes (n := 2) found (by decide) ?_
          exact (ih.expression _).bind fun _ q _ => (expect_moves (by decide) q).map
        · exact refuse_moves p 1 _

/-! ### Statements -/

theorem expression_moves (calls : Nat) (p : IndexedParser) : Moves p 1 (expression calls) :=
  (expression_levels_move calls).expression p

theorem assignment_moves (calls : Nat) (p : IndexedParser) : Moves p 3 (assignment calls) := by
  have noEnd {place : Nat} {kind : TokenKind} (found : p.kindAt place = kind)
      (different : kind ≠ .endOfInput) : p.kindAt place ≠ .endOfInput := found ▸ different
  refine kindAhead_moves.mpr (kindAhead_moves.mpr ?_)
  split
  · rename_i isVariable
    refine advance_moves (n := 2) (noEnd isVariable.1 (by decide)) ?_
    refine advance_moves (n := 1) (noEnd isVariable.2 (by decide)) ?_
    exact (expression_moves calls _).map
  refine kindAhead_moves.mpr (kindAhead_moves.mpr (kindAhead_moves.mpr (kindAhead_moves.mpr ?_)))
  split
  · rename_i isField
    obtain ⟨isWord, isDot, isName, isSign⟩ := isField
    refine Moves.mono (n := 5) ?_ (by decide)
    refine advance_moves (n := 4) (noEnd isWord (by decide)) ?_
    refine advance_moves (n := 3) (noEnd isDot (by decide)) ?_
    refine advance_moves (n := 2) (noEnd isName (by decide)) ?_
    refine advance_moves (n := 1) (noEnd isSign (by decide)) ?_
    exact (expression_moves calls _).map
  · exact refuse_moves p 3 _

theorem forHead_moves (calls : Nat) (p : IndexedParser) : Moves p 1 (forHead calls) :=
  ((expect_moves (by decide) p).bind fun _ _ _ =>
    (assignment_moves calls _).bind fun _ _ _ =>
    (expect_moves (by decide) _).bind fun _ _ _ =>
    (expression_moves calls _).bind fun _ _ _ =>
    (expect_moves (by decide) _).bind fun _ _ _ =>
    (assignment_moves calls _).bind fun _ _ _ => (expect_moves (by decide) _).map).mono (by decide)

/-- How far the parts of a statement go at least, whatever the calls that may be made. -/
structure StatementMoves (calls : Nat) : Prop where
  statement : ∀ p, Moves p 2 (statement calls)
  unnested : ∀ p, Moves p 2 (unnested calls)
  elseBranch : ∀ p condition thenBranch, Moves p 0 (elseBranch calls condition thenBranch)
  body : ∀ p, Moves p 2 (body calls)
  blockRest : ∀ p found, Moves p 1 (blockRest calls found)

theorem statement_levels_move (calls : Nat) : StatementMoves calls := by
  induction calls with
  | zero =>
      exact
        { statement := fun p => outOfCalls_moves p 2
          unnested := fun p => outOfCalls_moves p 2
          elseBranch := fun p _ _ => outOfCalls_moves p 0
          body := fun p => outOfCalls_moves p 2
          blockRest := fun p _ => outOfCalls_moves p 1 }
  | succ calls ih =>
      have value := expression_moves calls
      constructor
      case statement =>
        intro p
        exact (enter_moves p).bind (k := 2) fun _ q _ => leaving_moves (ih.unnested q)
      case unnested =>
        intro p
        refine eat_moves (by decide) (value _).map (by decide) ?_
        refine eat_moves (n := 3) (by decide) ?_ (by decide) ?_
        · refine (value _).bind (k := 2) fun condition q _ => ?_
          exact (ih.body q).bind fun thenBranch r _ => ih.elseBranch r condition thenBranch
        refine eat_moves (n := 3) (by decide) ?_ (by decide) ?_
        · exact (value _).bind fun condition q _ => (ih.body q).map
        refine eat_moves (n := 3) (by decide) ?_ (by decide) ?_
        · exact (forHead_moves calls _).bind fun head q _ => (ih.body q).map
        · exact (assignment_moves calls p).mono (by decide)
      case elseBranch =>
        intro p condition thenBranch
        exact eat_moves (by decide) (ih.body _).map (Nat.zero_le _) (pure_moves p _)
      case body =>
        intro p
        refine current_moves.mpr ?_
        split
        · exact (expect_moves (by decide) p).bind fun _ q _ => ih.blockRest q []
        · exact ih.statement p
      case blockRest =>
        intro p found
        refine eat_moves (by decide) (pure_moves _ _) (by decide) (current_moves.mpr ?_)
        split
        · exact refuse_moves p 1 _
        · refine ((ih.statement p).bind (k := 1) fun next q _ => ?_).mono (by decide)
          exact ih.blockRest q (next :: found)

theorem block_moves (calls : Nat) (p : IndexedParser) : Moves p 2 (block calls) :=
  (expect_moves (by decide) p).bind fun _ q _ => (statement_levels_move calls).blockRest q []

/-! ### Programs -/

/-- A program that is read ends with the next end of the input, which is passed, and no other goes
    as far. -/
def EndsAt (p : IndexedParser) : Except ParseError Stmt × IndexedParser → Prop
  | (.ok _, q) => q.tokens = p.tokens ∧ q.index = p.barrier + 1
  | (.error _, q) => p.Reaches 0 q

theorem program_endsAt {calls : Nat} {found : List Stmt}
    {reached : Except ParseError Stmt × IndexedParser}
    (ended : program calls found p = some reached) : EndsAt p reached := by
  induction calls generalizing found p with
  | zero => cases ended
  | succ calls ih =>
      rw [program] at ended
      by_cases atEnd : p.kindAt p.index = .endOfInput
      · rw [eat_of_eq atEnd] at ended
        cases ended
        have here := Nat.le_antisymm p.index_le_barrier
          (IndexedParser.barrier_le (Nat.le_refl _) atEnd)
        exact ⟨rfl, congrArg (· + 1) here⟩
      · rw [eat_of_ne atEnd] at ended
        obtain ⟨result, r⟩ := reached
        have moves := (statement_levels_move calls).statement p
        rcases bind_eq_some ended with ⟨next, q, first, rest⟩ | ⟨e, failed, rfl⟩
        · have here := (moves _ q first).1
          have others := ih rest
          cases result with
          | ok tree =>
              exact ⟨others.1.trans here.tokens, here.barrier ▸ others.2⟩
          | error e => exact here.trans others
        · exact (moves _ r failed).1

end Indexed

end Kiss
