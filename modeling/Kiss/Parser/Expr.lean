import Kiss.Number.Literal
import Kiss.Parser.Outcome
import Kiss.Syntax.Basic

/-!
# Reading expressions

From the loosest to the tightest, the levels are: sums, comparisons, products, disjunctions
and conjunctions, and then a single operator in front. So comparisons bind tighter than sums,
and logic binds tighter than arithmetic.

A level is a chain of operands of the next tighter level, folded to the left, and every
operator of a chain counts one level of depth from there to the end of the chain. There are
two exceptions. A single `|` ends its chain with one more operand and counts nothing. A
single `&` ends its chain as well, and what stands on its right is a whole new chain. Depth
grows with every call that could repeat, which is why reading ends. `expression_takes` says
that an expression has at least one token.
-/

namespace Kiss.Parser

/-- The levels of binary operators, each binding tighter than the one before. -/
inductive Level where
  | sum
  | comparison
  | product
  | disjunction
  | conjunction
  deriving DecidableEq, Repr

/-- How an operator goes on with a chain: with an operand, behind which the chain may go on;
    with a last operand; or with a chain that is its right side. -/
inductive Step where
  | again (op : BinaryOp)
  | last (op : BinaryOp)
  | nested (op : BinaryOp)
  deriving DecidableEq, Repr

/-- The operators of a level. -/
def Level.step? : Level → TokenKind → Option Step
  | .sum, .symbol .plus => some (.again (.arithmetic .add))
  | .sum, .symbol .minus => some (.again (.arithmetic .subtract))
  | .comparison, .symbol .equal => some (.again (.comparison .equal))
  | .comparison, .symbol .less => some (.again (.comparison .less))
  | .comparison, .symbol .greater => some (.again (.comparison .greater))
  | .comparison, .symbol .lessOrEqual => some (.again (.comparison .lessOrEqual))
  | .comparison, .symbol .greaterOrEqual => some (.again (.comparison .greaterOrEqual))
  | .product, .symbol .star => some (.again (.arithmetic .multiply))
  | .product, .symbol .caret => some (.again (.arithmetic .xor))
  | .product, .symbol .slash => some (.again (.arithmetic .divide))
  | .disjunction, .symbol .doubleOr => some (.again (.logical .or))
  | .disjunction, .symbol .singleOr => some (.last (.logical .strictOr))
  | .conjunction, .symbol .doubleAnd => some (.again (.logical .and))
  | .conjunction, .symbol .singleAnd => some (.nested (.logical .strictAnd))
  | _, _ => none

/-- How many levels bind tighter than a level. -/
def Level.tightness : Level → Nat
  | .sum => 4
  | .comparison => 3
  | .product => 2
  | .disjunction => 1
  | .conjunction => 0

/-- The number that a decimal literal stands for. A text that is none is reported at its own
    token, which has been passed by then. -/
def numberLiteral (depth : Nat) (t : Token) (rest : List Token) : Outcome Expr :=
  match Number.read? t.value with
  | some value => .ok (.number value) rest
  | none => .fail ⟨.invalidNumber, t :: rest⟩ rest depth

/-- The number that a hexadecimal literal stands for. -/
def hexLiteral (depth : Nat) (t : Token) (rest : List Token) : Outcome Expr :=
  match Number.readHex? t.value with
  | some value => .ok (.number (Number.ofInt value)) rest
  | none => .fail ⟨.invalidHexNumber, t :: rest⟩ rest depth

/-- A name is a variable, or with a dot behind it the object of a field. -/
def nameOrField (depth : Nat) (name : String) (rest : List Token) : Outcome Expr :=
  match frontKind rest with
  | .symbol .dot => (expect .word depth rest.tail).map fun field => .field name field.value
  | _ => .ok (.var name) rest

/-- The braces of an empty object, behind the first of them. -/
def emptyObject (depth : Nat) (rest : List Token) : Outcome Expr :=
  (expect (.symbol .rightBrace) depth rest).map fun _ => .emptyObject

mutual

/-- An expression, one level deeper than its place. -/
def expression (depth : Nat) (ts : List Token) : Outcome Expr :=
  if depth < maxDepth then (chainAt .sum (depth + 1) ts).leave else tooDeep depth ts
termination_by (maxDepth - depth) * 20
decreasing_by
  simp only [Level.tightness]
  omega

/-- A literal, a name, or an expression in parentheses, which leave no trace. -/
def primary (depth : Nat) (ts : List Token) : Outcome Expr :=
  match ts with
  | [] => failHere .unknownExpression depth []
  | t :: rest =>
      match t.kind with
      | .number => numberLiteral depth t rest
      | .hexNumber => hexLiteral depth t rest
      | .text => .ok (.text t.value) rest
      | .word => nameOrField depth t.value rest
      | .keyword .trueWord => .ok (.bool true) rest
      | .keyword .falseWord => .ok (.bool false) rest
      | .symbol .leftBrace => emptyObject depth rest
      | .symbol .leftParen =>
          (expression depth rest).andThen fun inner rest =>
            (expect (.symbol .rightParen) depth rest).map fun _ => inner
      | _ => failHere .unknownExpression depth (t :: rest)
termination_by (maxDepth - depth) * 20 + 1

/-- A primary expression with at most one operator in front; a plus leaves no trace. -/
def unary (depth : Nat) (ts : List Token) : Outcome Expr :=
  match frontKind ts with
  | .symbol .minus => (primary depth ts.tail).map (.unary .negate)
  | .symbol .plus => primary depth ts.tail
  | .symbol .bang => (primary depth ts.tail).map (.unary .not)
  | _ => primary depth ts
termination_by (maxDepth - depth) * 20 + 2

/-- An operand of a level: a chain of the next tighter level. -/
def operand (level : Level) (depth : Nat) (ts : List Token) : Outcome Expr :=
  match level with
  | .sum => chainAt .comparison depth ts
  | .comparison => chainAt .product depth ts
  | .product => chainAt .disjunction depth ts
  | .disjunction => chainAt .conjunction depth ts
  | .conjunction => unary depth ts
termination_by (maxDepth - depth) * 20 + 3 * level.tightness + 3
decreasing_by
  all_goals simp only [Level.tightness]
  all_goals omega

/-- The rest of a chain, behind what has been folded so far. -/
def chainRest (level : Level) (depth : Nat) (left : Expr) (ts : List Token) : Outcome Expr :=
  match level.step? (frontKind ts) with
  | none => .ok left ts
  | some (.again op) =>
      if depth < maxDepth then
        (operand level (depth + 1) ts.tail).andThen fun right rest =>
          chainRest level (depth + 1) (.binary op left right) rest
      else tooDeep depth ts.tail
  | some (.last op) => (operand level depth ts.tail).map fun right => .binary op left right
  | some (.nested op) =>
      if depth < maxDepth then
        (chainAt level (depth + 1) ts.tail).map fun right => .binary op left right
      else tooDeep depth ts.tail
termination_by (maxDepth - depth) * 20 + 3 * level.tightness + 4

/-- A chain of a level. -/
def chainAt (level : Level) (depth : Nat) (ts : List Token) : Outcome Expr :=
  (operand level depth ts).andThen fun left rest => chainRest level depth left rest
termination_by (maxDepth - depth) * 20 + 3 * level.tightness + 5

end

theorem numberLiteral_takes (depth : Nat) (t : Token) (rest : List Token) :
    (numberLiteral depth t rest).Takes 1 (t :: rest) := by
  simp only [numberLiteral]
  split
  · exact Nat.le_refl _
  · trivial

theorem hexLiteral_takes (depth : Nat) (t : Token) (rest : List Token) :
    (hexLiteral depth t rest).Takes 1 (t :: rest) := by
  simp only [hexLiteral]
  split
  · exact Nat.le_refl _
  · trivial

theorem nameOrField_takes (depth : Nat) (name : String) (rest : List Token) :
    (nameOrField depth name rest).Takes 0 rest := by
  simp only [nameOrField]
  split
  · rename_i dot
    exact ((expect_takes _ _ _).map.cons (ne_nil_of_frontKind dot (by decide))).mono (by omega)
  · exact Nat.le_refl _

theorem emptyObject_takes (depth : Nat) (rest : List Token) :
    (emptyObject depth rest).Takes 1 rest :=
  (expect_takes _ _ _).map

/-- An operator is not the end of the input. -/
theorem noEnd_of_step {level : Level} {step : Step} {ts : List Token}
    (found : level.step? (frontKind ts) = some step) : frontKind ts ≠ .endOfInput := by
  intro atEnd
  rw [atEnd] at found
  cases level <;> cases found

theorem ne_nil_of_step {level : Level} {step : Step} {ts : List Token}
    (found : level.step? (frontKind ts) = some step) : ts ≠ [] := by
  rintro rfl
  exact noEnd_of_step found rfl

/-! ### One law for each way through the readers -/

section Ways

variable {level : Level} {depth : Nat} {left : Expr} {ts : List Token} {op : BinaryOp}

theorem chainRest_ended (found : level.step? (frontKind ts) = none) :
    chainRest level depth left ts = .ok left ts := by
  rw [chainRest, found]

theorem chainRest_again (found : level.step? (frontKind ts) = some (.again op))
    (within : depth < maxDepth) :
    chainRest level depth left ts =
      (operand level (depth + 1) ts.tail).andThen fun right rest =>
        chainRest level (depth + 1) (.binary op left right) rest := by
  rw [chainRest, found]
  exact if_pos within

theorem chainRest_again_beyond (found : level.step? (frontKind ts) = some (.again op))
    (beyond : ¬depth < maxDepth) : chainRest level depth left ts = tooDeep depth ts.tail := by
  rw [chainRest, found]
  exact if_neg beyond

theorem chainRest_last (found : level.step? (frontKind ts) = some (.last op)) :
    chainRest level depth left ts =
      (operand level depth ts.tail).map fun right => .binary op left right := by
  rw [chainRest, found]

theorem chainRest_nested (found : level.step? (frontKind ts) = some (.nested op))
    (within : depth < maxDepth) :
    chainRest level depth left ts =
      (chainAt level (depth + 1) ts.tail).map fun right => .binary op left right := by
  rw [chainRest, found]
  exact if_pos within

theorem chainRest_nested_beyond (found : level.step? (frontKind ts) = some (.nested op))
    (beyond : ¬depth < maxDepth) : chainRest level depth left ts = tooDeep depth ts.tail := by
  rw [chainRest, found]
  exact if_neg beyond

theorem unary_unsigned (noMinus : frontKind ts ≠ .symbol .minus)
    (noPlus : frontKind ts ≠ .symbol .plus) (noBang : frontKind ts ≠ .symbol .bang) :
    unary depth ts = primary depth ts := by
  rw [unary]
  split
  · contradiction
  · contradiction
  · contradiction
  · rfl

/-- The kinds of token that a primary expression may begin with. -/
def beginsPrimary : TokenKind → Bool
  | .number | .hexNumber | .text | .word => true
  | .keyword .trueWord | .keyword .falseWord => true
  | .symbol .leftBrace | .symbol .leftParen => true
  | _ => false

theorem primary_of_not_begins (different : beginsPrimary (frontKind ts) = false) (depth : Nat) :
    primary depth ts = failHere .unknownExpression depth ts := by
  cases ts with
  | nil => rw [primary]
  | cons t rest =>
      rw [frontKind] at different
      rw [primary]
      split <;> rename_i kind <;> first | rfl | (rw [kind] at different; cases different)

end Ways

/-- Induction along the readers of an expression, with one case for each way through them. -/
theorem expression_induction {E U P : Nat → List Token → Prop}
    {C O : Level → Nat → List Token → Prop} {R : Level → Nat → Expr → List Token → Prop}
    (inside : ∀ depth ts, depth < maxDepth → C .sum (depth + 1) ts → E depth ts)
    (beyond : ∀ depth ts, ¬depth < maxDepth → E depth ts)
    (chain : ∀ level depth ts, O level depth ts → (∀ left rest, R level depth left rest) →
      C level depth ts)
    (ended : ∀ level depth left ts, level.step? (frontKind ts) = none → R level depth left ts)
    (again : ∀ level depth left ts op, level.step? (frontKind ts) = some (.again op) →
      depth < maxDepth → O level (depth + 1) ts.tail →
      (∀ right rest, R level (depth + 1) (.binary op left right) rest) → R level depth left ts)
    (againBeyond : ∀ level depth left ts op, level.step? (frontKind ts) = some (.again op) →
      ¬depth < maxDepth → R level depth left ts)
    (last : ∀ level depth left ts op, level.step? (frontKind ts) = some (.last op) →
      O level depth ts.tail → R level depth left ts)
    (nested : ∀ level depth left ts op, level.step? (frontKind ts) = some (.nested op) →
      depth < maxDepth → C level (depth + 1) ts.tail → R level depth left ts)
    (nestedBeyond : ∀ level depth left ts op, level.step? (frontKind ts) = some (.nested op) →
      ¬depth < maxDepth → R level depth left ts)
    (sumOperand : ∀ depth ts, C .comparison depth ts → O .sum depth ts)
    (comparisonOperand : ∀ depth ts, C .product depth ts → O .comparison depth ts)
    (productOperand : ∀ depth ts, C .disjunction depth ts → O .product depth ts)
    (disjunctionOperand : ∀ depth ts, C .conjunction depth ts → O .disjunction depth ts)
    (conjunctionOperand : ∀ depth ts, U depth ts → O .conjunction depth ts)
    (minus : ∀ depth ts, frontKind ts = .symbol .minus → P depth ts.tail → U depth ts)
    (plus : ∀ depth ts, frontKind ts = .symbol .plus → P depth ts.tail → U depth ts)
    (bang : ∀ depth ts, frontKind ts = .symbol .bang → P depth ts.tail → U depth ts)
    (unsigned : ∀ depth ts, frontKind ts ≠ .symbol .minus → frontKind ts ≠ .symbol .plus →
      frontKind ts ≠ .symbol .bang → P depth ts → U depth ts)
    (number : ∀ depth (t : Token) rest, t.kind = .number → P depth (t :: rest))
    (hexNumber : ∀ depth (t : Token) rest, t.kind = .hexNumber → P depth (t :: rest))
    (text : ∀ depth (t : Token) rest, t.kind = .text → P depth (t :: rest))
    (word : ∀ depth (t : Token) rest, t.kind = .word → P depth (t :: rest))
    (trueWord : ∀ depth (t : Token) rest, t.kind = .keyword .trueWord → P depth (t :: rest))
    (falseWord : ∀ depth (t : Token) rest, t.kind = .keyword .falseWord → P depth (t :: rest))
    (leftBrace : ∀ depth (t : Token) rest, t.kind = .symbol .leftBrace → P depth (t :: rest))
    (leftParen : ∀ depth (t : Token) rest, t.kind = .symbol .leftParen → E depth rest →
      P depth (t :: rest))
    (noPrimary : ∀ depth ts, beginsPrimary (frontKind ts) = false → P depth ts) :
    (∀ depth ts, E depth ts) ∧ (∀ level depth ts, C level depth ts) ∧
    (∀ level depth left ts, R level depth left ts) ∧ (∀ level depth ts, O level depth ts) ∧
    (∀ depth ts, U depth ts) ∧ (∀ depth ts, P depth ts) := by
  refine expression.mutual_induct E C R O U P inside beyond chain ended again againBeyond last
    nested nestedBeyond sumOperand comparisonOperand productOperand disjunctionOperand
    conjunctionOperand minus plus bang unsigned (fun depth => noPrimary depth [] rfl) number
    hexNumber text word trueWord falseWord leftBrace leftParen ?_
  intro depth t rest _ _ _ _ _ _ _ _
  refine noPrimary depth (t :: rest) ?_
  rw [frontKind]
  unfold beginsPrimary
  split <;> first | contradiction | rfl

/-- How many tokens each part of an expression takes at least. -/
theorem expression_levels_take :
    (∀ depth ts, (expression depth ts).Takes 1 ts) ∧
    (∀ level depth ts, (chainAt level depth ts).Takes 1 ts) ∧
    (∀ level depth left ts, (chainRest level depth left ts).Takes 0 ts) ∧
    (∀ level depth ts, (operand level depth ts).Takes 1 ts) ∧
    (∀ depth ts, (unary depth ts).Takes 1 ts) ∧
    (∀ depth ts, (primary depth ts).Takes 1 ts) := by
  apply expression_induction
  case inside =>
    intro depth ts within inner
    rw [expression, if_pos within]
    exact inner.leave
  case beyond =>
    intro depth ts beyond
    rw [expression, if_neg beyond]
    exact tooDeep_takes depth 1 ts ts
  case chain =>
    intro level depth ts first more
    rw [chainAt]
    exact first.andThen fun left rest => more left rest
  case ended =>
    intro level depth left ts found
    rw [chainRest_ended found]
    exact ok_takes left ts
  case again =>
    intro level depth left ts op found within first more
    rw [chainRest_again found within]
    exact ((first.andThen fun right rest => more right rest).cons (ne_nil_of_step found)).mono
      (Nat.zero_le _)
  case againBeyond =>
    intro level depth left ts op found beyond
    rw [chainRest_again_beyond found beyond]
    exact tooDeep_takes depth 0 ts.tail ts
  case last =>
    intro level depth left ts op found right
    rw [chainRest_last found]
    exact (right.map.cons (ne_nil_of_step found)).mono (Nat.zero_le _)
  case nested =>
    intro level depth left ts op found within right
    rw [chainRest_nested found within]
    exact (right.map.cons (ne_nil_of_step found)).mono (Nat.zero_le _)
  case nestedBeyond =>
    intro level depth left ts op found beyond
    rw [chainRest_nested_beyond found beyond]
    exact tooDeep_takes depth 0 ts.tail ts
  case minus | bang =>
    intro depth ts front inner
    rw [unary, front]
    exact (inner.map.cons (ne_nil_of_frontKind front (by decide))).mono (by omega)
  case plus =>
    intro depth ts front inner
    rw [unary, front]
    exact (inner.cons (ne_nil_of_frontKind front (by decide))).mono (by omega)
  case unsigned =>
    intro depth ts noMinus noPlus noBang inner
    rw [unary_unsigned noMinus noPlus noBang]
    exact inner
  case number =>
    intro depth t rest kind
    rw [primary, kind]
    exact numberLiteral_takes depth t rest
  case hexNumber =>
    intro depth t rest kind
    rw [primary, kind]
    exact hexLiteral_takes depth t rest
  case text | trueWord | falseWord =>
    intro depth t rest kind
    rw [primary, kind]
    exact Nat.le_refl _
  case word =>
    intro depth t rest kind
    rw [primary, kind]
    exact (nameOrField_takes depth t.value rest).cons (by simp)
  case leftBrace =>
    intro depth t rest kind
    rw [primary, kind]
    exact ((emptyObject_takes depth rest).cons (by simp)).mono (by omega)
  case leftParen =>
    intro depth t rest kind inner
    rw [primary, kind]
    exact ((inner.andThen fun _ _ => (expect_takes _ _ _).map).cons (by simp)).mono (by omega)
  case noPrimary =>
    intro depth ts different
    rw [primary_of_not_begins different]
    exact failHere_takes .unknownExpression depth 1 ts ts
  all_goals
    intro depth ts inner
    rw [operand]
    exact inner

/-- An expression has at least one token. -/
theorem expression_takes (depth : Nat) (ts : List Token) : (expression depth ts).Takes 1 ts :=
  expression_levels_take.1 depth ts

end Kiss.Parser
