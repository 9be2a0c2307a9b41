import Kiss.Evaluation
import Kiss.Proofs.Execution.Occurrence

/-!
# Laws of evaluation

All operators with two operands follow one rule: the left side is evaluated, which decides the
value with some operators and some values, and otherwise the right side is evaluated and the
operation is applied to both (`eval_binary`). Whatever is said of evaluating an expression is said
of its operands and of the operation.
-/

namespace Kiss

section Sequencing

variable {α β : Type} {x : Except EvalError α} {next : α → Except EvalError β}

theorem bind_eq_ok {b : β} : (x >>= next) = .ok b ↔ ∃ a, x = .ok a ∧ next a = .ok b := by
  cases x <;> simp [bind, Except.bind]

theorem bind_eq_error {e : EvalError} :
    (x >>= next) = .error e ↔ x = .error e ∨ ∃ a, x = .ok a ∧ next a = .error e := by
  cases x <;> simp [bind, Except.bind]

end Sequencing

/-- A logical operation on truth values. -/
def LogicalOp.onTruths : LogicalOp → Bool → Bool → Bool
  | .and, a, b | .strictAnd, a, b => a && b
  | .or, a, b | .strictOr, a, b => a || b

namespace BinaryOp

/-- The value of an operation whose left side decides it, so that the right one is left out. -/
def decided? : BinaryOp → Value → Option Value
  | .logical .and, left => if left.isTruthy then none else some (.ofTruth false)
  | .logical .or, left => if left.isTruthy then some (.ofTruth true) else none
  | _, _ => none

/-- An operation on the values of both sides. -/
def apply : BinaryOp → Value → Value → Except EvalError Value
  | .arithmetic op, left, right => op.apply left right
  | .comparison op, left, right => op.apply left right
  | .logical op, left, right => .ok (.ofTruth (op.onTruths left.isTruthy right.isTruthy))

/-- Where the left side decides, the right one makes no difference. -/
theorem apply_of_decided {op : BinaryOp} {left value : Value}
    (decided : op.decided? left = some value) (right : Value) :
    op.apply left right = .ok value := by
  cases op with
  | arithmetic | comparison => cases decided
  | logical op =>
      cases op with
      | strictAnd | strictOr => cases decided
      | and | or =>
          cases truth : left.isTruthy <;> simp_all [decided?, apply, LogicalOp.onTruths]

/-- What an operation that fails says of the kinds of its operands. -/
def Refuses : BinaryOp → ValueKind → ValueKind → Prop
  | .arithmetic op, left, right =>
      ¬ (left = .number ∧ right = .number) ∧ (op = .add → left ≠ .text ∧ right ≠ .text)
  | .comparison _, left, right =>
      ¬ (left = .number ∧ right = .number) ∧ ¬ (left = .text ∧ right = .text)
  | .logical _, _, _ => False

/-- An operation fails because of the kinds of its operands. -/
theorem apply_eq_error {op : BinaryOp} {left right : Value} {e : EvalError} :
    op.apply left right = .error e ↔
      op.Refuses left.kind right.kind ∧
        e = .unsupportedOperands op left.kind right.kind := by
  cases op with
  | logical op => simp [apply, Refuses]
  | arithmetic op =>
      cases op <;> cases left <;> cases right <;>
        simp [apply, ArithmeticOp.apply, Refuses, Value.kind, eq_comm]
  | comparison op =>
      cases left <;> cases right <;>
        simp [apply, ComparisonOp.apply, Refuses, Value.kind, eq_comm]

end BinaryOp

variable {store : Store} {e : EvalError}

theorem eval_unary (op : UnaryOp) (operand : Expr) :
    eval store (.unary op operand) = eval store operand >>= op.apply := rfl

theorem eval_binary (op : BinaryOp) (left right : Expr) :
    eval store (.binary op left right) = (do
      let x ← eval store left
      match op.decided? x with
      | some value => .ok value
      | none => do
          let y ← eval store right
          op.apply x y) := by
  cases op with
  | arithmetic | comparison => rfl
  | logical op =>
      cases op with
      | strictAnd | strictOr => rfl
      | and | or =>
          rw [eval]
          congr 1
          funext x
          cases truth : x.isTruthy <;> simp [BinaryOp.decided?, BinaryOp.apply, truth,
            LogicalOp.onTruths] <;> rfl

/-- A value of a binary expression whose operands have values. -/
theorem eval_binary_of_ok {op : BinaryOp} {left right : Expr} {x y value : Value}
    (leftValue : eval store left = .ok x) (rightValue : eval store right = .ok y)
    (applied : op.apply x y = .ok value) : eval store (.binary op left right) = .ok value := by
  rw [eval_binary, leftValue, rightValue]
  change (match op.decided? x with
    | some value => .ok value
    | none => op.apply x y) = Except.ok value
  split
  · rename_i result decided
    rwa [BinaryOp.apply_of_decided decided] at applied
  · exact applied

/-- A binary expression fails where one of its operands fails, or the operation on them does. -/
theorem eval_binary_eq_error {op : BinaryOp} {left right : Expr}
    (failed : eval store (.binary op left right) = .error e) :
    eval store left = .error e ∨ eval store right = .error e ∨
      ∃ x y, op.apply x y = .error e := by
  rw [eval_binary, bind_eq_error] at failed
  obtain failed | ⟨x, -, failed⟩ := failed
  · exact .inl failed
  · split at failed
    · cases failed
    · obtain failed | ⟨y, -, failed⟩ := bind_eq_error.mp failed
      · exact .inr (.inl failed)
      · exact .inr (.inr ⟨x, y, failed⟩)

/-- Only a negation fails, of something that is no number. -/
theorem UnaryOp.apply_eq_error {op : UnaryOp} {operand : Value} :
    op.apply operand = .error e ↔
      op = .negate ∧ operand.kind ≠ .number ∧ e = .notANumber operand.kind := by
  cases op <;> cases operand <;>
    simp [apply, Value.toNumber, Except.map, Value.kind, eq_comm]

/-- What an error says is true of a statement that failed with it and of the store that was left
    then. No statement fails to print. -/
def EvalError.IsTrueOf (s : Stmt) (store : Store) : EvalError → Prop
  | .undefinedVariable name => store.find? (.ofVariable name) = none ∧ s.LooksUp name
  | .notAnObject name found =>
      found ≠ .object ∧ ∃ value, store.find? (.ofVariable name) = some value ∧ value.kind = found
  | .missingField object field =>
      ∃ fields, store.find? (.ofVariable object) = some (.object fields) ∧
        fields.lookup (.ofField field) = none
  | .notANumber found => found ≠ .number ∧ ∃ operand, (Expr.unary .negate operand).OccursIn s
  | .unsupportedOperands op left right =>
      (∃ x y, (Expr.binary op x y).OccursIn s) ∧ op.Refuses left right
  | .output _ => False

section Errors

variable {s : Stmt}

/-- A variable whose fields are looked for is not bound or holds no object. -/
theorem isTrueOf_of_fieldsOf {object : String} (failed : store.fieldsOf object = .error e)
    (lookedUp : s.LooksUp object) : e.IsTrueOf s store := by
  obtain ⟨unbound, rfl⟩ | ⟨value, bound, kind, rfl⟩ := Store.fieldsOf_eq_error.mp failed
  · exact ⟨unbound, lookedUp⟩
  · exact ⟨kind, value, bound, rfl⟩

/-- The error of an expression is true of every statement in which it occurs. -/
theorem isTrueOf_of_eval {whole : Expr} (occurs : whole.OccursIn s)
    (failed : eval store whole = .error e) : e.IsTrueOf s store := by
  -- evaluation binds nothing, so the store of the look-up that fails is `store` at every depth
  induction whole with
  | number | text | bool | emptyObject => cases failed
  | var name =>
      rw [eval, Store.get] at failed
      split at failed
      · cases failed
      · rename_i unbound
        cases failed
        exact ⟨unbound, .inl occurs⟩
  | field object name =>
      rw [eval] at failed
      obtain failed | ⟨fields, found, unbound, rfl⟩ := Store.getField_eq_error.mp failed
      · exact isTrueOf_of_fieldsOf failed (.inr (.inl ⟨name, occurs⟩))
      · exact ⟨fields, Store.fieldsOf_eq_ok.mp found, unbound⟩
  | unary op operand ih =>
      rw [eval_unary, bind_eq_error] at failed
      obtain failed | ⟨x, -, failed⟩ := failed
      · exact ih occurs.operand failed
      · obtain ⟨rfl, kind, rfl⟩ := UnaryOp.apply_eq_error.mp failed
        exact ⟨kind, operand, occurs⟩
  | binary op left right ihLeft ihRight =>
      obtain failed | failed | ⟨x, y, failed⟩ := eval_binary_eq_error failed
      · exact ihLeft occurs.left failed
      · exact ihRight occurs.right failed
      · obtain ⟨refused, rfl⟩ := BinaryOp.apply_eq_error.mp failed
        exact ⟨⟨left, right, occurs⟩, refused⟩

/-- Evaluating an expression prints nothing, so it never fails to. -/
theorem eval_ne_output {whole : Expr} (failed : eval store whole = .error e) (cause : IoError) :
    e ≠ .output cause := by
  have holds : e.IsTrueOf (.print whole) store :=
    isTrueOf_of_eval (.of_mem (by simp [Stmt.exprs])) failed
  rintro rfl
  exact holds

end Errors

end Kiss
