import Kiss.Proofs.Grammar.Follow

/-!
# What is read is a phrase

Whatever a reader takes from the front of some tokens is a phrase of the grammar, and what the
reader makes of it is the tree of that phrase. `Outcome.Ensures` says that a success has a
property, and its laws follow the ways in which outcomes are put together. The induction goes
along the readers; the rest of a chain is read behind a run that has been taken before.
-/

namespace Kiss

namespace Parser.Outcome

variable {α β : Type} {holds other : α → List Token → Prop}

/-- If the outcome is a success, its value and what is left have a property. -/
def Ensures (holds : α → List Token → Prop) : Outcome α → Prop
  | .ok value rest => holds value rest
  | .fail _ _ _ => True

theorem Ensures.mono {outcome : Outcome α} (ensures : outcome.Ensures holds)
    (weaker : ∀ value rest, holds value rest → other value rest) : outcome.Ensures other := by
  cases outcome with
  | ok value rest => exact weaker value rest ensures
  | fail => trivial

theorem Ensures.leave {outcome : Outcome α} (ensures : outcome.Ensures holds) :
    outcome.leave.Ensures holds := by
  cases outcome with
  | ok => exact ensures
  | fail => trivial

theorem Ensures.andThen {outcome : Outcome α} {next : α → List Token → Outcome β}
    {result : β → List Token → Prop} (first : outcome.Ensures holds)
    (second : ∀ value rest, holds value rest → (next value rest).Ensures result) :
    (outcome.andThen next).Ensures result := by
  cases outcome with
  | ok value rest => exact second value rest first
  | fail => trivial

theorem Ensures.map {outcome : Outcome α} {f : α → β} {result : β → List Token → Prop}
    (ensures : outcome.Ensures holds)
    (mapped : ∀ value rest, holds value rest → result (f value) rest) :
    (outcome.map f).Ensures result := by
  cases outcome with
  | ok value rest => exact mapped value rest ensures
  | fail => trivial

end Parser.Outcome

namespace Grammar

open Kiss.Parser (Level Outcome frontKind)

variable {ts : List Token} {part : ExprPart}

/-- A token of a known kind at the front is a terminal. -/
theorem exists_terminal {kind : TokenKind} (front : frontKind ts = kind)
    (different : kind ≠ .endOfInput) : ∃ t : Terminal kind, ts = t.token :: ts.tail := by
  cases ts with
  | nil => exact absurd front.symm different
  | cons t rest => exact ⟨⟨t, front⟩, rfl⟩

theorem expect_ensures (kind : TokenKind) (depth : Nat) (ts : List Token) :
    (Parser.expect kind depth ts).Ensures fun token rest =>
      ∃ t : Terminal kind, t.token = token ∧ t.token :: rest = ts := by
  cases ts with
  | nil => trivial
  | cons t rest =>
      simp only [Parser.expect]
      split
      · rename_i hasKind
        exact ⟨⟨t, hasKind⟩, rfl, rfl⟩
      · trivial

/-- The tokens in front of what is left are a phrase with the given tree. -/
def IsExpr (part : ExprPart) (ts : List Token) (tree : Expr) (rest : List Token) : Prop :=
  ∃ phrase : ExprPhrase part, phrase.tokens ++ rest = ts ∧ phrase.tree? = some tree

theorem numberLiteral_ensures (depth : Nat) (t : Terminal .number) (rest : List Token) :
    (Parser.numberLiteral depth t.token rest).Ensures (IsExpr .primary (t.token :: rest)) := by
  simp only [Parser.numberLiteral]
  split
  · rename_i value denotes
    exact ⟨.number t, rfl, by simp [ExprPhrase.tree?, denotes]⟩
  · trivial

theorem hexLiteral_ensures (depth : Nat) (t : Terminal .hexNumber) (rest : List Token) :
    (Parser.hexLiteral depth t.token rest).Ensures (IsExpr .primary (t.token :: rest)) := by
  simp only [Parser.hexLiteral]
  split
  · rename_i value denotes
    exact ⟨.hexNumber t, rfl, by simp [ExprPhrase.tree?, denotes]⟩
  · trivial

theorem nameOrField_ensures (depth : Nat) (t : Terminal .word) (rest : List Token) :
    (Parser.nameOrField depth t.token.value rest).Ensures
      (IsExpr .primary (t.token :: rest)) := by
  simp only [Parser.nameOrField]
  split
  · rename_i front
    obtain ⟨dot, split⟩ := exists_terminal front (by decide)
    refine (expect_ensures .word depth rest.tail).map fun token left found => ?_
    obtain ⟨name, rfl, same⟩ := found
    refine ⟨.field t dot name, ?_, rfl⟩
    rw [split, ← same]
    rfl
  · exact ⟨.var t, rfl, rfl⟩

theorem emptyObject_ensures (depth : Nat) (left : Terminal (.symbol .leftBrace))
    (rest : List Token) :
    (Parser.emptyObject depth rest).Ensures (IsExpr .primary (left.token :: rest)) := by
  refine (expect_ensures (.symbol .rightBrace) depth rest).map fun token behind found => ?_
  obtain ⟨right, rfl, rfl⟩ := found
  exact ⟨.emptyObject left right, rfl, rfl⟩

/-- A sign and a primary expression behind it. -/
theorem IsExpr.signed {sign : Symbol} {f : Expr → Expr}
    (phrase : Terminal (.symbol sign) → ExprPhrase .primary → ExprPhrase .unary)
    (tokens : ∀ t inner, (phrase t inner).tokens = t.token :: inner.tokens)
    (tree : ∀ t inner, (phrase t inner).tree? = inner.tree?.map f)
    (front : frontKind ts = .symbol sign) {value : Expr} {rest : List Token}
    (inner : IsExpr .primary ts.tail value rest) : IsExpr .unary ts (f value) rest := by
  obtain ⟨t, split⟩ := exists_terminal front (by simp)
  obtain ⟨inner, same, found⟩ := inner
  refine ⟨phrase t inner, ?_, by rw [tree, found]; rfl⟩
  rw [tokens, split, List.cons_append, same]

/-- A run, an operator behind it, and what that operator goes on with. -/
theorem IsExpr.pair {level : Level} {sign : Symbol} {op : BinaryOp} {right whole : ExprPart}
    (phrase : ExprPhrase (.run level) → Terminal (.symbol sign) → ExprPhrase right →
      ExprPhrase whole)
    (tokens : ∀ l t r, (phrase l t r).tokens = l.tokens ++ t.token :: r.tokens)
    (tree : ∀ l t r, (phrase l t r).tree? = ExprPhrase.pair op l.tree? r.tree?)
    {before rest : List Token} {left value : Expr} (run : IsExpr (.run level) before left ts)
    (front : frontKind ts = .symbol sign) (inner : IsExpr right ts.tail value rest) :
    IsExpr whole before (.binary op left value) rest := by
  obtain ⟨t, split⟩ := exists_terminal front (by simp)
  obtain ⟨run, rfl, found⟩ := run
  obtain ⟨inner, same, innerFound⟩ := inner
  refine ⟨phrase run t inner, ?_, by rw [tree, found, innerFound]; rfl⟩
  rw [tokens, List.append_assoc, List.cons_append, same, ← split]

/-- What each reader of a part of an expression takes is such a part. The rest of a chain is
    read behind a run. -/
theorem expression_levels_ensure :
    (∀ depth ts, (Parser.expression depth ts).Ensures (IsExpr (.chain .sum) ts)) ∧
    (∀ level depth ts, (Parser.chainAt level depth ts).Ensures (IsExpr (.chain level) ts)) ∧
    (∀ level depth left ts, ∀ before, IsExpr (.run level) before left ts →
      (Parser.chainRest level depth left ts).Ensures (IsExpr (.chain level) before)) ∧
    (∀ level depth ts, (Parser.operand level depth ts).Ensures (IsExpr (operandOf level) ts)) ∧
    (∀ depth ts, (Parser.unary depth ts).Ensures (IsExpr .unary ts)) ∧
    (∀ depth ts, (Parser.primary depth ts).Ensures (IsExpr .primary ts)) := by
  apply Parser.expression_induction
  case inside =>
    intro depth ts within inner
    rw [Parser.expression, if_pos within]
    exact inner.leave
  case beyond =>
    intro depth ts beyond
    rw [Parser.expression, if_neg beyond]
    trivial
  case chain =>
    intro level depth ts first more
    rw [Parser.chainAt]
    refine first.andThen fun left rest found => more left rest ts ?_
    obtain ⟨phrase, same, tree⟩ := found
    exact ⟨.operand phrase, same, tree⟩
  case ended =>
    intro level depth left ts found before run
    rw [Parser.chainRest_ended found]
    obtain ⟨phrase, same, tree⟩ := run
    exact ⟨.whole phrase, same, tree⟩
  case again =>
    intro level depth left ts op found within first more before run
    obtain ⟨sign, front, joins⟩ := joins_of_step? found
    rw [Parser.chainRest_again found within]
    -- the run that the reader goes on with is longer by the operator and its right side
    refine first.andThen fun right rest inner => more right rest before ?_
    exact run.pair (fun l t r => .joined op l t joins r) (fun _ _ _ => rfl)
      (fun _ _ _ => rfl) front inner
  case againBeyond =>
    intro level depth left ts op found beyond before run
    rw [Parser.chainRest_again_beyond found beyond]
    trivial
  case last =>
    intro level depth left ts op found right before run
    rw [Parser.chainRest_last found]
    obtain ⟨rfl, front, rfl⟩ := strictOr_of_step? found
    exact right.map fun value rest inner =>
      run.pair .strictOr (fun _ _ _ => rfl) (fun _ _ _ => rfl) front inner
  case nested =>
    intro level depth left ts op found within right before run
    rw [Parser.chainRest_nested found within]
    obtain ⟨rfl, front, rfl⟩ := strictAnd_of_step? found
    exact right.map fun value rest inner =>
      run.pair .strictAnd (fun _ _ _ => rfl) (fun _ _ _ => rfl) front inner
  case nestedBeyond =>
    intro level depth left ts op found beyond before run
    rw [Parser.chainRest_nested_beyond found beyond]
    trivial
  case minus =>
    intro depth ts front inner
    rw [Parser.unary, front]
    exact inner.map fun value rest found =>
      found.signed .negated (fun _ _ => rfl) (fun _ _ => rfl) front
  case plus =>
    intro depth ts front inner
    rw [Parser.unary, front]
    exact inner.mono fun value rest found =>
      found.signed (f := id) .positive (fun _ _ => rfl) (fun _ _ => by simp [ExprPhrase.tree?])
        front
  case bang =>
    intro depth ts front inner
    rw [Parser.unary, front]
    exact inner.map fun value rest found =>
      found.signed .inverted (fun _ _ => rfl) (fun _ _ => rfl) front
  case unsigned =>
    intro depth ts noMinus noPlus noBang inner
    rw [Parser.unary_unsigned noMinus noPlus noBang]
    refine inner.mono fun value rest found => ?_
    obtain ⟨phrase, same, tree⟩ := found
    exact ⟨.bare phrase, same, tree⟩
  case number =>
    intro depth t rest kind
    rw [Parser.primary, kind]
    exact numberLiteral_ensures depth ⟨t, kind⟩ rest
  case hexNumber =>
    intro depth t rest kind
    rw [Parser.primary, kind]
    exact hexLiteral_ensures depth ⟨t, kind⟩ rest
  case text =>
    intro depth t rest kind
    rw [Parser.primary, kind]
    exact ⟨.text ⟨t, kind⟩, rfl, rfl⟩
  case word =>
    intro depth t rest kind
    rw [Parser.primary, kind]
    exact nameOrField_ensures depth ⟨t, kind⟩ rest
  case trueWord =>
    intro depth t rest kind
    rw [Parser.primary, kind]
    exact ⟨.trueWord ⟨t, kind⟩, rfl, rfl⟩
  case falseWord =>
    intro depth t rest kind
    rw [Parser.primary, kind]
    exact ⟨.falseWord ⟨t, kind⟩, rfl, rfl⟩
  case leftBrace =>
    intro depth t rest kind
    rw [Parser.primary, kind]
    exact emptyObject_ensures depth ⟨t, kind⟩ rest
  case leftParen =>
    intro depth t rest kind inner
    rw [Parser.primary, kind]
    refine inner.andThen fun value behind found => ?_
    refine (expect_ensures (.symbol .rightParen) depth behind).map fun token left closing => ?_
    obtain ⟨phrase, same, tree⟩ := found
    obtain ⟨right, rfl, rfl⟩ := closing
    refine ⟨.group ⟨t, kind⟩ phrase right, ?_, tree⟩
    rw [← same]
    simp [ExprPhrase.tokens]
  case noPrimary =>
    intro depth ts different
    rw [Parser.primary_of_not_begins different]
    trivial
  all_goals
    intro depth ts inner
    rw [Parser.operand]
    exact inner

/-- What is read as an expression is one. -/
theorem expression_ensures (depth : Nat) (ts : List Token) :
    (Parser.expression depth ts).Ensures (IsExpr (.chain .sum) ts) :=
  expression_levels_ensure.1 depth ts

end Grammar

end Kiss
