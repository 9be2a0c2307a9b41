import Kiss.Proofs.Grammar.Follow

/-!
# Phrases are read as what they are

The tokens of a phrase, with tokens behind them that do not go on with it, are read as the
tree of the phrase, and reading stops just behind them; unless the phrase nests deeper than
the greatest depth, and then reading fails for that reason. `Outcome.Gives` says this of one
outcome, with the condition on the depth as a proposition, and its laws follow the ways in
which outcomes are put together. The induction over expressions carries a statement of its
own for runs: a reader in the middle of a chain has folded a run and is about to look at what
stands behind it.
-/

namespace Kiss

namespace Parser.Outcome

variable {α β : Type} {enough more : Prop} {value : α} {rest : List Token}

/-- The outcome is just this value and these tokens if there are levels enough, and a failure
    for the lack of levels otherwise. -/
def Gives (enough : Prop) (value : α) (rest : List Token) : Outcome α → Prop
  | .ok found left => enough ∧ found = value ∧ left = rest
  | .fail fault _ _ => ¬enough ∧ fault.cause = .tooDeep

theorem Gives.congr {outcome : Outcome α} (gives : outcome.Gives enough value rest)
    (same : enough ↔ more) : outcome.Gives more value rest := by
  rwa [← propext same]

theorem Gives.leave {outcome : Outcome α} (gives : outcome.Gives enough value rest) :
    outcome.leave.Gives enough value rest := by
  cases outcome with
  | ok => exact gives
  | fail => exact gives

theorem Gives.andThen {outcome : Outcome α} {next : α → List Token → Outcome β} {result : β}
    {left : List Token} (first : outcome.Gives enough value rest)
    (second : enough → (next value rest).Gives more result left) :
    (outcome.andThen next).Gives (enough ∧ more) result left := by
  cases outcome with
  | fail => exact ⟨fun both => first.1 both.1, first.2⟩
  | ok =>
      obtain ⟨holds, rfl, rfl⟩ := first
      exact (second holds).congr ⟨fun also => ⟨holds, also⟩, And.right⟩

theorem Gives.map {outcome : Outcome α} (f : α → β) (gives : outcome.Gives enough value rest) :
    (outcome.map f).Gives enough (f value) rest := by
  cases outcome with
  | fail => exact gives
  | ok =>
      obtain ⟨holds, rfl, rfl⟩ := gives
      exact ⟨holds, rfl, rfl⟩

theorem ok_andThen (value : α) (rest : List Token) (next : α → List Token → Outcome β) :
    (ok value rest).andThen next = next value rest :=
  rfl

/-- The order in which three readers are put together does not matter. -/
theorem andThen_andThen {γ : Type} (outcome : Outcome α) (f : α → List Token → Outcome β)
    (g : β → List Token → Outcome γ) :
    (outcome.andThen f).andThen g = outcome.andThen fun value rest => (f value rest).andThen g := by
  cases outcome <;> rfl

/-- Only what follows the given value matters. -/
theorem Gives.andThen_congr {outcome : Outcome α} {f g : α → List Token → Outcome β}
    (gives : outcome.Gives enough value rest) (same : f value rest = g value rest) :
    outcome.andThen f = outcome.andThen g := by
  cases outcome with
  | fail => rfl
  | ok =>
      obtain ⟨_, rfl, rfl⟩ := gives
      exact same

end Parser.Outcome

namespace Grammar

open Kiss.Parser (Level Outcome frontKind)

variable {part : ExprPart} {level : Level} {depth : Nat} {tree : Expr} {rest : List Token}

theorem gives_ok {α : Type} {enough : Prop} (value : α) (rest : List Token) (holds : enough) :
    (Outcome.ok value rest).Gives enough value rest :=
  ⟨holds, rfl, rfl⟩

/-- What needs a level that there is not fails for lack of levels. -/
theorem gives_tooDeep {α : Type} {enough : Prop} (value : α) (ts rest : List Token)
    (beyond : ¬enough) : (Parser.tooDeep depth ts : Outcome α).Gives enough value rest :=
  ⟨beyond, rfl⟩

theorem expect_terminal {kind : TokenKind} (t : Terminal kind) (depth : Nat)
    (rest : List Token) : Parser.expect kind depth (t.token :: rest) = .ok t.token rest := by
  simp [Parser.expect, t.hasKind]

namespace ExprPhrase

/-- A run reaches one level for each of its operators above the level at which it stands. -/
theorem operators_le_reach (phrase : ExprPhrase part) :
    ∀ depth, depth + phrase.operators ≤ phrase.reach depth := by
  induction phrase with
  | group _ inner _ ih => exact fun depth => Nat.le_trans (by simp [operators]) (ih (depth + 1))
  | bare _ ih | operand _ ih | whole _ ih | positive _ _ ih | negated _ _ ih
  | inverted _ _ ih =>
      exact fun depth => Nat.le_trans (by simp [operators]) (ih depth)
  | joined _ left _ _ right ihLeft ihRight =>
      intro depth
      have last := ihRight (depth + left.operators + 1)
      simp only [operators, reach]
      omega
  | strictOr left _ _ ihLeft _ | strictAnd left _ _ ihLeft _ =>
      intro depth
      have first := ihLeft depth
      simp only [operators, reach]
      omega
  | _ => exact fun depth => Nat.le_refl depth

/-- An expression reaches the level at which it stands. -/
theorem le_reach (phrase : ExprPhrase part) (depth : Nat) : depth ≤ phrase.reach depth :=
  Nat.le_trans (Nat.le_add_right _ _) (phrase.operators_le_reach depth)

theorem pair_eq_some {op : BinaryOp} {left right : Option Expr}
    (found : pair op left right = some tree) :
    ∃ l r, left = some l ∧ right = some r ∧ tree = .binary op l r := by
  simp only [pair, Option.bind_eq_some_iff, Option.map_eq_some_iff] at found
  obtain ⟨l, leftFound, r, rightFound, rfl⟩ := found
  exact ⟨l, r, leftFound, rightFound, rfl⟩

/-- How a phrase is read from a depth, in front of given tokens. A run is read as the
    beginning of a chain: what follows its last operand is still to be looked at. -/
def IsReadFrom (phrase : ExprPhrase part) (depth : Nat) (tree : Expr) (rest : List Token) :
    Prop :=
  match part with
  | .primary =>
      (Parser.primary depth (phrase.tokens ++ rest)).Gives (phrase.reach depth ≤ maxDepth) tree rest
  | .unary =>
      (Parser.unary depth (phrase.tokens ++ rest)).Gives (phrase.reach depth ≤ maxDepth) tree rest
  | .run level =>
      ∃ first : Outcome Expr, first.Gives (phrase.reach depth ≤ maxDepth) tree rest ∧
        Parser.chainAt level depth (phrase.tokens ++ rest) =
          first.andThen fun left rest =>
            Parser.chainRest level (depth + phrase.operators) left rest
  | .chain level =>
      (Parser.chainAt level depth (phrase.tokens ++ rest)).Gives (phrase.reach depth ≤ maxDepth)
        tree rest

/-- How a phrase is read wherever there is room for it. -/
def IsRead (phrase : ExprPhrase part) : Prop :=
  ∀ {depth tree rest}, depth ≤ maxDepth → phrase.tree? = some tree → Stops part rest →
    phrase.IsReadFrom depth tree rest

/-- An expression is read one level deeper than its place. -/
theorem expression_gives {phrase : Expression} (isRead : phrase.IsRead)
    (within : depth ≤ maxDepth) (found : phrase.tree? = some tree)
    (stops : Stops (.chain .sum) rest) :
    (Parser.expression depth (phrase.tokens ++ rest)).Gives (phrase.reach (depth + 1) ≤ maxDepth)
      tree rest := by
  have reaches := phrase.le_reach (depth + 1)
  rw [Parser.expression]
  split
  · rename_i room
    exact Outcome.Gives.leave (isRead (Nat.succ_le_of_lt room) found stops)
  · exact gives_tooDeep _ _ _ (by omega)

/-- An operand of a level is read as the phrase that it is. -/
theorem operand_gives (level : Level) {phrase : ExprPhrase (operandOf level)}
    (isRead : phrase.IsRead) (within : depth ≤ maxDepth) (found : phrase.tree? = some tree)
    (stops : Stops (.run level) rest) :
    (Parser.operand level depth (phrase.tokens ++ rest)).Gives (phrase.reach depth ≤ maxDepth)
      tree rest := by
  have read := isRead within found stops.operand
  cases level with
  | sum | comparison | product | disjunction | conjunction =>
      rw [Parser.operand]
      exact read

/-- A chain ends behind a run that nothing goes on with. -/
theorem whole_isRead {inner : ExprPhrase (.run level)} (isRead : inner.IsRead) :
    (whole inner).IsRead := by
  intro depth tree rest within found stops
  obtain ⟨first, gives, same⟩ := isRead within found stops.run
  simp only [IsReadFrom, tokens, reach, same]
  refine (gives.andThen fun _ => ?_).congr (by rw [and_true])
  rw [Parser.chainRest_ended stops.step?]
  exact gives_ok _ _ trivial

/-- One more operand is folded into the run in front of it. -/
theorem joined_isRead {symbol : Symbol} {op : BinaryOp} {left : ExprPhrase (.run level)}
    {operator : Terminal (.symbol symbol)} {joins : (symbol, op) ∈ joiners level}
    {right : ExprPhrase (operandOf level)} (leftRead : left.IsRead) (rightRead : right.IsRead) :
    (joined op left operator joins right).IsRead := by
  intro depth tree rest within found stops
  obtain ⟨leftTree, rightTree, leftFound, rightFound, rfl⟩ := pair_eq_some found
  have step : level.step? (frontKind (operator.token :: (right.tokens ++ rest))) =
      some (.again op) := by
    rw [frontKind_terminal]
    exact step?_of_joins joins
  obtain ⟨first, gives, same⟩ := leftRead within leftFound (stops_of_step step)
  have reaches := right.le_reach (depth + left.operators + 1)
  -- the reader folds the run, the operator and the operand, and goes on with the chain
  refine ⟨first.andThen fun leftTree ts =>
    if depth + left.operators < maxDepth then
      (Parser.operand level (depth + left.operators + 1) ts.tail).map (.binary op leftTree)
    else Parser.tooDeep (depth + left.operators) ts.tail, ?_, ?_⟩
  · refine (gives.andThen fun _ => ?_).congr (by simp only [reach]; exact Nat.max_le.symm)
    split
    · rename_i room
      exact (operand_gives level rightRead room rightFound stops).map _
    · exact gives_tooDeep _ _ _ (by omega)
  · simp only [tokens, List.append_assoc, List.cons_append, same]
    rw [Outcome.andThen_andThen]
    apply gives.andThen_congr
    rw [Parser.chainRest, step]
    simp only [operators]
    split
    · cases Parser.operand level (depth + left.operators + 1) _ <;> rfl
    · rfl

/-- A single `|` takes one more operand, on the level that its chain has reached. -/
theorem strictOr_isRead {left : ExprPhrase (.run .disjunction)}
    {operator : Terminal (.symbol .singleOr)} {right : ExprPhrase (.chain .conjunction)}
    (leftRead : left.IsRead) (rightRead : right.IsRead) :
    (strictOr left operator right).IsRead := by
  intro depth tree rest within found stops
  obtain ⟨leftTree, rightTree, leftFound, rightFound, rfl⟩ := pair_eq_some found
  have step : Level.step? .disjunction (frontKind (operator.token :: (right.tokens ++ rest))) =
      some (.last (.logical .strictOr)) := by
    rw [frontKind_terminal]
    rfl
  obtain ⟨first, gives, same⟩ := leftRead within leftFound (stops_of_step step)
  have charged := left.operators_le_reach depth
  simp only [IsReadFrom, tokens, List.append_assoc, List.cons_append, same]
  refine (gives.andThen fun enough => ?_).congr (by simp only [reach]; exact Nat.max_le.symm)
  rw [Parser.chainRest_last step]
  -- no level is asked for, so there is room wherever the run had room
  exact (operand_gives .disjunction rightRead (Nat.le_trans charged enough) rightFound
    stops.run).map _

/-- A single `&` takes a whole conjunction, one level above the one that its chain has
    reached. -/
theorem strictAnd_isRead {left : ExprPhrase (.run .conjunction)}
    {operator : Terminal (.symbol .singleAnd)} {right : ExprPhrase (.chain .conjunction)}
    (leftRead : left.IsRead) (rightRead : right.IsRead) :
    (strictAnd left operator right).IsRead := by
  intro depth tree rest within found stops
  obtain ⟨leftTree, rightTree, leftFound, rightFound, rfl⟩ := pair_eq_some found
  have step : Level.step? .conjunction (frontKind (operator.token :: (right.tokens ++ rest))) =
      some (.nested (.logical .strictAnd)) := by
    rw [frontKind_terminal]
    rfl
  obtain ⟨first, gives, same⟩ := leftRead within leftFound (stops_of_step step)
  have reaches := right.le_reach (depth + left.operators + 1)
  simp only [IsReadFrom, tokens, List.append_assoc, List.cons_append, same]
  refine (gives.andThen fun _ => ?_).congr (by simp only [reach]; exact Nat.max_le.symm)
  by_cases room : depth + left.operators < maxDepth
  · rw [Parser.chainRest_nested step room]
    exact Outcome.Gives.map _ (rightRead (Nat.succ_le_of_lt room) rightFound stops)
  · rw [Parser.chainRest_nested_beyond step room]
    exact gives_tooDeep _ _ _ (by omega)

/-- A primary expression does not begin with a sign. -/
theorem front_primary (phrase : ExprPhrase .primary) (rest : List Token) :
    ∀ symbol ∈ [Symbol.minus, .plus, .bang],
      frontKind (phrase.tokens ++ rest) ≠ .symbol symbol := by
  intro symbol sign front
  cases phrase with
  | emptyObject | group =>
      rw [tokens, List.cons_append, frontKind_terminal] at front
      cases front
      simp at sign
  | number | hexNumber | text | trueWord | falseWord | var | field =>
      rw [tokens, List.cons_append, frontKind_terminal] at front
      cases front

/-- Without a sign a unary expression is the primary one. -/
theorem bare_isRead {inner : ExprPhrase .primary} (isRead : inner.IsRead) :
    (bare inner).IsRead := by
  intro depth tree rest within found stops
  -- the reader looks for a sign first, and no primary expression begins with one
  have noSign := inner.front_primary rest
  have read := isRead within found stops
  simp only [IsReadFrom, tokens]
  rw [Parser.unary_unsigned (noSign .minus (by decide)) (noSign .plus (by decide))
    (noSign .bang (by decide))]
  exact read

/-- A name in front of anything but a dot is a variable. -/
theorem var_isRead (name : Terminal .word) : (var name).IsRead := by
  intro depth tree rest within found stops
  cases found
  simp only [IsReadFrom, tokens, List.cons_append, List.nil_append]
  rw [Parser.primary, name.hasKind]
  simp only [Parser.nameOrField]
  split
  · exact absurd ‹_› stops
  · exact gives_ok _ _ within

/-- An expression in parentheses is read as if it stood alone. -/
theorem group_isRead {left : Terminal (.symbol .leftParen)} {inner : Expression}
    {right : Terminal (.symbol .rightParen)} (isRead : inner.IsRead) :
    (group left inner right).IsRead := by
  intro depth tree rest within found stops
  have closes : Stops (.chain .sum) (right.token :: rest) :=
    stops_of_ends (by rw [frontKind_terminal]; exact endsExpression_symbol (by decide))
  have read := expression_gives isRead within found closes
  simp only [IsReadFrom, tokens, List.cons_append, List.append_assoc, List.nil_append]
  rw [Parser.primary, left.hasKind]
  refine (read.andThen fun _ => ?_).congr (by rw [and_true]; rfl)
  rw [expect_terminal]
  exact gives_ok _ _ trivial

/-- Every phrase of an expression is read as what it is. -/
theorem isRead (phrase : ExprPhrase part) : phrase.IsRead := by
  induction phrase with
  | number literal =>
      intro depth tree rest within found stops
      obtain ⟨value, denotes, rfl⟩ := Option.map_eq_some_iff.mp found
      simp only [IsReadFrom, tokens, List.cons_append, List.nil_append]
      rw [Parser.primary, literal.hasKind]
      simp only [Parser.numberLiteral, denotes]
      exact gives_ok _ _ within
  | hexNumber literal =>
      intro depth tree rest within found stops
      obtain ⟨value, denotes, rfl⟩ := Option.map_eq_some_iff.mp found
      simp only [IsReadFrom, tokens, List.cons_append, List.nil_append]
      rw [Parser.primary, literal.hasKind]
      simp only [Parser.hexLiteral, denotes]
      exact gives_ok _ _ within
  | text literal | trueWord literal | falseWord literal =>
      intro depth tree rest within found stops
      cases found
      simp only [IsReadFrom, tokens, List.cons_append, List.nil_append]
      rw [Parser.primary, literal.hasKind]
      exact gives_ok _ _ within
  | var name => exact var_isRead name
  | field object dot name =>
      intro depth tree rest within found stops
      cases found
      simp only [IsReadFrom, tokens, List.cons_append, List.nil_append]
      rw [Parser.primary, object.hasKind]
      simp only [Parser.nameOrField, frontKind_terminal, List.tail_cons, expect_terminal]
      exact gives_ok _ _ within
  | emptyObject left right =>
      intro depth tree rest within found stops
      cases found
      simp only [IsReadFrom, tokens, List.cons_append, List.nil_append]
      rw [Parser.primary, left.hasKind]
      simp only [Parser.emptyObject, expect_terminal]
      exact gives_ok _ _ within
  | group left inner right ih => exact group_isRead ih
  | bare inner ih => exact bare_isRead ih
  | positive sign inner ih =>
      intro depth tree rest within found stops
      simp only [IsReadFrom, tokens, List.cons_append]
      rw [Parser.unary, frontKind_terminal]
      exact ih within found stops
  | negated sign inner ih | inverted sign inner ih =>
      intro depth tree rest within found stops
      obtain ⟨value, innerFound, rfl⟩ := Option.map_eq_some_iff.mp found
      simp only [IsReadFrom, tokens, List.cons_append]
      rw [Parser.unary, frontKind_terminal]
      exact Outcome.Gives.map _ (ih within innerFound stops)
  | operand inner ih =>
      intro depth tree rest within found stops
      refine ⟨_, operand_gives _ ih within found stops, ?_⟩
      rw [tokens, Parser.chainAt]
      rfl
  | joined op left operator joins right ihLeft ihRight => exact joined_isRead ihLeft ihRight
  | whole inner ih => exact whole_isRead ih
  | strictOr left operator right ihLeft ihRight => exact strictOr_isRead ihLeft ihRight
  | strictAnd left operator right ihLeft ihRight => exact strictAnd_isRead ihLeft ihRight

/-- A whole expression is read at its place just as deep as it reaches. -/
theorem expression_isRead (phrase : Expression) (within : depth ≤ maxDepth)
    (found : phrase.tree? = some tree) (ends : endsExpression (frontKind rest)) :
    (Parser.expression depth (phrase.tokens ++ rest)).Gives (phrase.reach (depth + 1) ≤ maxDepth)
      tree rest :=
  expression_gives phrase.isRead within found (stops_of_ends ends)

end ExprPhrase

end Grammar

end Kiss
