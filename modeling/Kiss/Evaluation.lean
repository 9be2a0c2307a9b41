import Kiss.Number.Whole
import Kiss.Store

/-!
# Evaluation

The value of an expression in a store. Operands are evaluated from left to right and the
first error is the result; only `&&` and `||` leave out their right side, if the left one
decides.
-/

namespace Kiss

/-- The number that a value is. -/
def Value.toNumber : Value → Except EvalError Float
  | .number x => .ok x
  | other => .error (.notANumber other.kind)

namespace UnaryOp

/-- A negated number, or the negation of a truth value. -/
def apply (op : UnaryOp) (operand : Value) : Except EvalError Value :=
  match op with
  | .negate => operand.toNumber.map fun x => .number (-x)
  | .not => .ok (.ofTruth (!operand.isTruthy))

end UnaryOp

namespace ArithmeticOp

/-- The operation on numbers. -/
def onNumbers : ArithmeticOp → Float → Float → Float
  | .add, x, y => x + y
  | .subtract, x, y => x - y
  | .multiply, x, y => x * y
  | .divide, x, y => x / y
  | .xor, x, y => Number.bitXor x y

/-- Two numbers are computed with; a text on either side of `add` is joined with the text of
    the other. -/
def apply (op : ArithmeticOp) (left right : Value) : Except EvalError Value :=
  match op, left, right with
  | _, .number x, .number y => .ok (.number (op.onNumbers x y))
  | .add, .text s, other => .ok (.text (s ++ other.render))
  | .add, other, .text t => .ok (.text (other.render ++ t))
  | _, _, _ => .error (.unsupportedOperands (.arithmetic op) left.kind right.kind)

end ArithmeticOp

namespace ComparisonOp

/-- The comparison of numbers; with NaN every one is false. -/
def onNumbers (op : ComparisonOp) (x y : Float) : Bool :=
  match op with
  | .equal => x == y
  | .less => x < y
  | .greater => y < x
  | .lessOrEqual => x ≤ y
  | .greaterOrEqual => y ≤ x

/-- The comparison of texts, character by character. -/
def onTexts (op : ComparisonOp) (s t : String) : Bool :=
  match op with
  | .equal => s == t
  | .less => s < t
  | .greater => t < s
  | .lessOrEqual => !decide (t < s)
  | .greaterOrEqual => !decide (s < t)

/-- Two numbers or two texts can be compared, and nothing else. -/
def apply (op : ComparisonOp) (left right : Value) : Except EvalError Value :=
  match left, right with
  | .number x, .number y => .ok (.ofTruth (op.onNumbers x y))
  | .text s, .text t => .ok (.ofTruth (op.onTexts s t))
  | _, _ => .error (.unsupportedOperands (.comparison op) left.kind right.kind)

end ComparisonOp

/-- The value of an expression. -/
def eval (store : Store) : Expr → Except EvalError Value
  | .number value => .ok (.number value)
  | .text value => .ok (.text value)
  | .bool value => .ok (.bool value)
  | .emptyObject => .ok .emptyObject
  | .var name => store.get (.ofVariable name)
  | .field object name => store.getField object (.ofField name)
  | .unary op operand => do
      let value ← eval store operand
      op.apply value
  | .binary (.arithmetic op) left right => do
      let x ← eval store left
      let y ← eval store right
      op.apply x y
  | .binary (.comparison op) left right => do
      let x ← eval store left
      let y ← eval store right
      op.apply x y
  | .binary (.logical .and) left right => do
      let x ← eval store left
      if x.isTruthy then
        let y ← eval store right
        return .ofTruth y.isTruthy
      else return .ofTruth false
  | .binary (.logical .or) left right => do
      let x ← eval store left
      if x.isTruthy then return .ofTruth true
      else
        let y ← eval store right
        return .ofTruth y.isTruthy
  | .binary (.logical .strictAnd) left right => do
      let x ← eval store left
      let y ← eval store right
      return .ofTruth (x.isTruthy && y.isTruthy)
  | .binary (.logical .strictOr) left right => do
      let x ← eval store left
      let y ← eval store right
      return .ofTruth (x.isTruthy || y.isTruthy)

end Kiss
