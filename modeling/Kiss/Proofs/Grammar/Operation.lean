import Kiss.Proofs.Grammar.Tallest

/-!
# Deriving operations

How the derivation of an operation is put together from those of its operands. Operands that
stand behind signs or in parentheses belong to the tightest level, and what belongs to a tight
level belongs to every looser one; so two of them may stand on both sides of any operator, and
need one level more than they need by themselves.
-/

namespace Kiss

/-- The symbol that an operator is written with. -/
def UnaryOp.sign : UnaryOp → Symbol
  | .negate => .minus
  | .not => .bang

/-- The symbol that an operator is written with. -/
def BinaryOp.sign : BinaryOp → Symbol
  | .arithmetic .add => .plus
  | .arithmetic .subtract => .minus
  | .arithmetic .multiply => .star
  | .arithmetic .divide => .slash
  | .arithmetic .xor => .caret
  | .comparison .equal => .equal
  | .comparison .less => .less
  | .comparison .greater => .greater
  | .comparison .lessOrEqual => .lessOrEqual
  | .comparison .greaterOrEqual => .greaterOrEqual
  | .logical .and => .doubleAnd
  | .logical .or => .doubleOr
  | .logical .strictAnd => .singleAnd
  | .logical .strictOr => .singleOr

theorem UnaryOp.lexeme_sign (op : UnaryOp) : op.sign.lexeme = op.symbol := by
  cases op <;> rfl

theorem BinaryOp.lexeme_sign (op : BinaryOp) : op.sign.lexeme = op.symbol := by
  rcases op with op | op | op <;> cases op <;> rfl

namespace Grammar

open Kiss.Parser (Level)

/-- Tokens have a derivation of an expression that needs at most so many levels. -/
def Derives (part : ExprPart) (ts : List Token) (e : Expr) (free : Nat) : Prop :=
  ∃ phrase : ExprPhrase part, phrase.tokens = ts ∧ phrase.tree? = some e ∧
    ∀ depth, phrase.reach depth ≤ depth + free

namespace Derives

variable {ts others : List Token} {e left right : Expr} {free : Nat} {level : Level} {t u : Token}

theorem raise (derives : Derives (operandOf level) ts e free) :
    Derives (.chain level) ts e free := by
  obtain ⟨phrase, tokens, tree, reach⟩ := derives
  exact ⟨phrase.raise, tokens, tree, reach⟩

/-- What is an operand of the tightest level is an operand of every level. -/
theorem operand (derives : Derives .unary ts e free) (level : Level) :
    Derives (operandOf level) ts e free := by
  have conjunction : Derives (.chain .conjunction) ts e free := raise derives
  have disjunction : Derives (.chain .disjunction) ts e free := raise conjunction
  have product : Derives (.chain .product) ts e free := raise disjunction
  have comparison : Derives (.chain .comparison) ts e free := raise product
  cases level
  · exact comparison
  · exact product
  · exact disjunction
  · exact conjunction
  · exact derives

/-- What is a chain of some level is a whole expression. -/
theorem expression (derives : Derives (.chain level) ts e free) :
    Derives (.chain .sum) ts e free := by
  have comparison (chain : Derives (.chain .comparison) ts e free) :
      Derives (.chain .sum) ts e free := raise chain
  have product (chain : Derives (.chain .product) ts e free) :
      Derives (.chain .sum) ts e free := comparison (raise chain)
  have disjunction (chain : Derives (.chain .disjunction) ts e free) :
      Derives (.chain .sum) ts e free := product (raise chain)
  cases level
  · exact derives
  · exact comparison derives
  · exact product derives
  · exact disjunction derives
  · exact disjunction (raise derives)

theorem pair_of_trees {op : BinaryOp} {leftTree rightTree : Option Expr}
    (leftFound : leftTree = some left) (rightFound : rightTree = some right) :
    ExprPhrase.pair op leftTree rightTree = some (.binary op left right) := by
  rw [leftFound, rightFound]
  rfl

/-- A repeating operator stands between two operands of its level. -/
theorem joined {op : BinaryOp} (leftDerives : Derives .unary ts left free)
    (rightDerives : Derives .unary others right free) (operator : t.kind = .symbol op.sign)
    (joins : (op.sign, op) ∈ joiners level) :
    Derives (.chain level) (ts ++ t :: others) (.binary op left right) (free + 1) := by
  obtain ⟨leftPhrase, rfl, leftTree, leftReach⟩ := leftDerives.operand level
  obtain ⟨rightPhrase, rfl, rightTree, rightReach⟩ := rightDerives.operand level
  refine ⟨.whole (.joined op (.operand leftPhrase) ⟨t, operator⟩ joins rightPhrase), rfl, ?_, ?_⟩
  · exact pair_of_trees leftTree rightTree
  · intro depth
    have rightLe := rightReach (depth + 0 + 1)
    exact Nat.max_le.mpr ⟨Nat.le_succ_of_le (leftReach depth), Nat.le_trans rightLe (by omega)⟩

theorem strictOr (leftDerives : Derives .unary ts left free)
    (rightDerives : Derives .unary others right free) (operator : t.kind = .symbol .singleOr) :
    Derives (.chain .disjunction) (ts ++ t :: others) (.binary (.logical .strictOr) left right)
      (free + 1) := by
  obtain ⟨leftPhrase, rfl, leftTree, leftReach⟩ : Derives (.chain .conjunction) ts left free :=
    raise leftDerives
  obtain ⟨rightPhrase, rfl, rightTree, rightReach⟩ :
      Derives (.chain .conjunction) others right free := raise rightDerives
  refine ⟨.strictOr (.operand leftPhrase) ⟨t, operator⟩ rightPhrase, rfl, ?_, ?_⟩
  · exact pair_of_trees leftTree rightTree
  · intro depth
    exact Nat.max_le.mpr
      ⟨Nat.le_succ_of_le (leftReach depth), Nat.le_succ_of_le (rightReach depth)⟩

theorem strictAnd (leftDerives : Derives .unary ts left free)
    (rightDerives : Derives .unary others right free) (operator : t.kind = .symbol .singleAnd) :
    Derives (.chain .conjunction) (ts ++ t :: others) (.binary (.logical .strictAnd) left right)
      (free + 1) := by
  obtain ⟨leftPhrase, rfl, leftTree, leftReach⟩ := leftDerives
  obtain ⟨rightPhrase, rfl, rightTree, rightReach⟩ :
      Derives (.chain .conjunction) others right free := raise rightDerives
  refine ⟨.strictAnd (.operand leftPhrase) ⟨t, operator⟩ rightPhrase, rfl, ?_, ?_⟩
  · exact pair_of_trees leftTree rightTree
  · intro depth
    have rightLe := rightReach (depth + 0 + 1)
    exact Nat.max_le.mpr ⟨Nat.le_succ_of_le (leftReach depth), Nat.le_trans rightLe (by omega)⟩

/-- Every operator but the two strict ones repeats on some level. -/
theorem joins_or_strict (op : BinaryOp) : (∃ level, (op.sign, op) ∈ joiners level) ∨
    op = .logical .strictOr ∨ op = .logical .strictAnd := by
  rcases op with op | op | op
  · cases op
    · exact .inl ⟨.sum, by decide⟩
    · exact .inl ⟨.sum, by decide⟩
    · exact .inl ⟨.product, by decide⟩
    · exact .inl ⟨.product, by decide⟩
    · exact .inl ⟨.product, by decide⟩
  · exact .inl ⟨.comparison, by cases op <;> decide⟩
  · cases op
    · exact .inl ⟨.conjunction, by decide⟩
    · exact .inl ⟨.disjunction, by decide⟩
    · exact .inr (.inr rfl)
    · exact .inr (.inl rfl)

/-- Two operands with an operator between them are a whole expression, whatever the level of the
    operator, and need one level more than the operands. -/
theorem binary {op : BinaryOp} (leftDerives : Derives .unary ts left free)
    (rightDerives : Derives .unary others right free) (operator : t.kind = .symbol op.sign) :
    Derives (.chain .sum) (ts ++ t :: others) (.binary op left right) (free + 1) := by
  obtain ⟨level, joins⟩ | rfl | rfl := joins_or_strict op
  · exact (joined leftDerives rightDerives operator joins).expression
  · exact (strictOr leftDerives rightDerives operator).expression
  · exact (strictAnd leftDerives rightDerives operator).expression

/-- Parentheses need a level of their own. -/
theorem group (derives : Derives (.chain .sum) ts e free) (opening : t.kind = .symbol .leftParen)
    (closing : u.kind = .symbol .rightParen) :
    Derives .primary (t :: (ts ++ [u])) e (free + 1) := by
  obtain ⟨phrase, rfl, tree, reach⟩ := derives
  refine ⟨.group ⟨t, opening⟩ phrase ⟨u, closing⟩, rfl, tree, fun depth => ?_⟩
  have le := reach (depth + 1)
  simp only [ExprPhrase.reach]
  omega

theorem bare (derives : Derives .primary ts e free) : Derives .unary ts e free := by
  obtain ⟨phrase, rfl, tree, reach⟩ := derives
  exact ⟨.bare phrase, rfl, tree, reach⟩

theorem signed {op : UnaryOp} (derives : Derives .primary ts e free)
    (sign : t.kind = .symbol op.sign) : Derives .unary (t :: ts) (.unary op e) free := by
  obtain ⟨phrase, rfl, tree, reach⟩ := derives
  cases op with
  | negate => exact ⟨.negated ⟨t, sign⟩ phrase, rfl, by simp [ExprPhrase.tree?, tree], reach⟩
  | not => exact ⟨.inverted ⟨t, sign⟩ phrase, rfl, by simp [ExprPhrase.tree?, tree], reach⟩

theorem mono {part : ExprPart} {more : Nat} (derives : Derives part ts e free)
    (le : free ≤ more) : Derives part ts e more := by
  obtain ⟨phrase, tokens, tree, reach⟩ := derives
  exact ⟨phrase, tokens, tree, fun depth => Nat.le_trans (reach depth) (Nat.add_le_add_left le _)⟩

end Derives

end Grammar

end Kiss
