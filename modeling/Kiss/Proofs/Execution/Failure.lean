import Kiss.Proofs.Execution.Buffer
import Kiss.Proofs.Execution.Evaluation

/-!
# What errors say

A statement fails where an expression has no value or a field cannot be written, and the store is
left as it was found there: nothing is bound between the look-up that fails and the end of the run.
So each error is true of the store that the failure leaves (`Stmt.isTrueOf_of_ends_failed`), with
the names and operators of the statement. That an operand is no number is reported by a negation
only: other operations check their operands first, so reading them as numbers does not fail
(`ArithmeticOp.stepwise_eq_apply`, `ComparisonOp.stepwise_eq_apply`).
-/

namespace Kiss

section Coercion

/-- An operation step by step: texts are joined, operands that are no numbers are refused, and the
    others are read as numbers. -/
def ArithmeticOp.stepwise (op : ArithmeticOp) (left right : Value) : Except EvalError Value :=
  if op = .add ∧ (left.kind = .text ∨ right.kind = .text) then
    .ok (.text (left.render ++ right.render))
  else if !left.isNumber || !right.isNumber then
    .error (.unsupportedOperands (.arithmetic op) left.kind right.kind)
  else do
    let x ← left.toNumber
    let y ← right.toNumber
    return .number (op.onNumbers x y)

/-- A comparison step by step: two texts are compared as such, other operands that are no numbers
    are refused, and numbers are read as such. -/
def ComparisonOp.stepwise (op : ComparisonOp) (left right : Value) : Except EvalError Value :=
  match left, right with
  | .text s, .text t => .ok (.ofTruth (op.onTexts s t))
  | left, right =>
      if left.isNumber && right.isNumber then do
        let x ← left.toNumber
        let y ← right.toNumber
        return .ofTruth (op.onNumbers x y)
      else .error (.unsupportedOperands (.comparison op) left.kind right.kind)

theorem ArithmeticOp.stepwise_eq_apply (op : ArithmeticOp) (left right : Value) :
    op.stepwise left right = op.apply left right := by
  cases op <;> cases left <;> cases right <;> rfl

theorem ComparisonOp.stepwise_eq_apply (op : ComparisonOp) (left right : Value) :
    op.stepwise left right = op.apply left right := by
  cases left <;> cases right <;> rfl

/-- No operation on two operands fails to read one of them as a number. -/
theorem BinaryOp.apply_ne_notANumber (op : BinaryOp) (left right : Value) (found : ValueKind) :
    op.apply left right ≠ .error (.notANumber found) := by
  intro failed
  cases (apply_eq_error.mp failed).2

end Coercion

namespace Stmt

variable {σ : Type} [Sink σ]

/-- A statement whose sink never fails upholds that its errors are true. -/
theorem upholds_isTrueOf (s : Stmt) :
    s.Upholds (fun m : Machine σ => Sink.NeverFails m.sink) fun e m => e.IsTrueOf s m.store where
  failed _ stands _ _ _ failed := isTrueOf_of_eval (.of_mem stands) failed
  print _ _ m value free _ := by
    rw [Machine.print_of_neverFails free]
    exact free.after [value]
  assign _ _ _ _ _ free _ := free
  assignField object field e member m value free _ := by
    rw [Machine.assignField_eq]
    split
    · exact free
    · rename_i failed
      exact isTrueOf_of_fieldsOf failed (.inr (.inr ⟨field, e, member⟩))

/-- Errors are true of the store that they leave behind. If a statement fails into a sink that never
    does, then in the store that is left an undefined variable is not bound, what is said to be no
    object is bound to a value of the kind that was found, and an object has not the field that is
    missing. Operators refuse operands of the kinds they report, and what is negated is no number;
    the variable, the operator or the negation stands in the statement. Reading operands of
    arithmetic and of comparisons as numbers does not fail. -/
theorem isTrueOf_of_ends_failed {s : Stmt} {m after : Machine σ} {e : EvalError}
    (free : Sink.NeverFails m.sink) (fails : s.Ends m (.failed e after)) :
    e.IsTrueOf s after.store ∧
      (∀ (op : ArithmeticOp) left right found,
        op.stepwise left right = op.apply left right ∧
          op.stepwise left right ≠ .error (.notANumber found)) ∧
      ∀ (op : ComparisonOp) left right found,
        op.stepwise left right = op.apply left right ∧
          op.stepwise left right ≠ .error (.notANumber found) := by
  obtain ⟨-, bound, failed⟩ := fails
  have ensured : (exec bound s m).Ensures _ _ := exec_ensures s.upholds_isTrueOf m free
  rw [failed] at ensured
  refine ⟨ensured, fun op left right found => ?_, fun op left right found => ?_⟩
  · rw [ArithmeticOp.stepwise_eq_apply]
    exact ⟨rfl, BinaryOp.apply_ne_notANumber (.arithmetic op) left right found⟩
  · rw [ComparisonOp.stepwise_eq_apply]
    exact ⟨rfl, BinaryOp.apply_ne_notANumber (.comparison op) left right found⟩

/-- The program `x = {} while true { x.f = "a" print x.f + x.g }`. -/
def looksForField : Stmt :=
  .block [.assign "x" .emptyObject, .whileLoop (.bool true) (.block
    [.assignField "x" "f" (.text "a"),
      .print (.binary (.arithmetic .add) (.field "x" "f") (.field "x" "g"))])]

/-- That program writes the field `f` and then finds no field `g`. -/
theorem isTrueOf_of_ends_failed_missing :
    ∃ after, looksForField.Ends (.start Buffer.unlimited)
        (.failed (.missingField "x" "g") after) ∧
      ∃ fields, after.store.find? (.ofVariable "x") = some (.object fields) ∧
        fields.lookup (.ofField "g") = none := by
  have fails : looksForField.Ends (.start Buffer.unlimited) (.failed (.missingField "x" "g")
      ⟨⟨[(.ofVariable "x", .object [(.ofField "f", .text "a")])]⟩, .unlimited⟩) :=
    ⟨by simp, 1, rfl⟩
  exact ⟨_, fails, (isTrueOf_of_ends_failed (Buffer.neverFails rfl rfl) fails).1⟩

end Stmt

end Kiss
