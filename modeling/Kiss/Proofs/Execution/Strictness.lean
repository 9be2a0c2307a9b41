import Kiss.Proofs.Execution.Evaluation
import Kiss.Proofs.Execution.Simulation

/-!
# Operators that leave out their right side

`&&` and `||` do not evaluate their right side where the left one decides, `&` and `|` always do.
Wherever an expression has a value with the strict operators, it has the same one with the others
(`eval_of_eval_strict`). So strict operators in place of the others can only make a program fail
earlier, at an expression, with less printed (`Stmt.exec_cutShort`).
-/

namespace Kiss

/-- The operator that evaluates both sides. -/
def LogicalOp.strict : LogicalOp → LogicalOp
  | .and => .strictAnd
  | .or => .strictOr
  | .strictAnd => .strictAnd
  | .strictOr => .strictOr

/-- An operator, but `&` for `&&` and `|` for `||`. -/
def BinaryOp.strict : BinaryOp → BinaryOp
  | .logical op => .logical op.strict
  | op => op

/-- An expression with `&` for `&&` and `|` for `||`. -/
def Expr.strict : Expr → Expr
  | .unary op operand => .unary op operand.strict
  | .binary op left right => .binary op.strict left.strict right.strict
  | e => e

/-- A statement with `&` for `&&` and `|` for `||` in all its expressions. -/
def Stmt.strict (s : Stmt) : Stmt :=
  s.mapExprs Expr.strict

section Replacement

theorem Expr.parts_strict (e : Expr) : e.strict.parts = e.parts.map strict := by
  induction e with
  | number | text | bool | emptyObject | var | field => rfl
  | unary op operand ih => simp [strict, parts, ih]
  | binary op left right ihLeft ihRight => simp [strict, parts, ihLeft, ihRight]

/-- No `&&` and no `||` is left. -/
theorem Stmt.isStrict_of_occursIn {s : Stmt} {op : LogicalOp} {left right : Expr}
    (occurs : (Expr.binary (.logical op) left right).OccursIn s.strict) :
    op = .strictAnd ∨ op = .strictOr := by
  obtain ⟨whole, stands, inside⟩ := occurs
  rw [Stmt.strict, exprs_mapExprs] at stands
  obtain ⟨original, -, rfl⟩ := List.mem_map.mp stands
  rw [Expr.parts_strict] at inside
  obtain ⟨part, -, same⟩ := List.mem_map.mp inside
  cases part with
  | binary partOp _ _ =>
      cases partOp with
      | logical partOp =>
          cases same
          cases partOp <;> simp [LogicalOp.strict]
      | arithmetic | comparison => cases same
  | number | text | bool | emptyObject | var | field | unary => cases same

end Replacement

section Evaluation

variable {store : Store}

theorem BinaryOp.apply_strict (op : BinaryOp) (left right : Value) :
    op.strict.apply left right = op.apply left right := by
  cases op with
  | arithmetic | comparison => rfl
  | logical op => cases op <;> rfl

/-- With the strict operators both sides have values, if the whole has one. -/
theorem eval_strict_eq_ok {op : BinaryOp} {left right : Expr} {value : Value}
    (evaluated : eval store (Expr.binary op left right).strict = .ok value) :
    ∃ x y, eval store left.strict = .ok x ∧ eval store right.strict = .ok y ∧
      op.apply x y = .ok value := by
  have undecided : ∀ x, op.strict.decided? x = none := by
    intro x
    cases op with
    | arithmetic | comparison => rfl
    | logical op => cases op <;> rfl
  rw [Expr.strict, eval_binary, bind_eq_ok] at evaluated
  obtain ⟨x, leftValue, evaluated⟩ := evaluated
  rw [undecided x] at evaluated
  obtain ⟨y, rightValue, applied⟩ := bind_eq_ok.mp evaluated
  exact ⟨x, y, leftValue, rightValue, by rwa [BinaryOp.apply_strict] at applied⟩

/-- A value that an expression has with the strict operators is its value. -/
theorem eval_of_eval_strict {e : Expr} {value : Value}
    (evaluated : eval store e.strict = .ok value) : eval store e = .ok value := by
  induction e generalizing value with
  | number | text | bool | emptyObject | var | field => exact evaluated
  | unary op operand ih =>
      rw [Expr.strict, eval_unary, bind_eq_ok] at evaluated
      obtain ⟨x, operandValue, applied⟩ := evaluated
      rw [eval_unary, ih operandValue]
      exact applied
  | binary op left right ihLeft ihRight =>
      obtain ⟨x, y, leftValue, rightValue, applied⟩ := eval_strict_eq_ok evaluated
      exact eval_binary_of_ok (ihLeft leftValue) (ihRight rightValue) applied

end Evaluation

variable {σ : Type} [Sink σ]

namespace Run

/-- What a run comes to with the strict operators: the same, or a failure of an expression on the
    way, with no more printed. Nothing is said of how far a run has come that has not ended. -/
inductive CutShort : Run σ → Run σ → Prop where
  | same (run : Run σ) : CutShort run run
  | stopped {run : Run σ} {e : EvalError} {between : Machine σ}
      (atExpr : ∀ cause, e ≠ .output cause) (goesOn : run.Leaves between.GrowsTo) :
      CutShort run (.failed e between)

theorem simulation_cutShort : Simulation (@Eq (Machine σ)) CutShort where
  done m n same := same ▸ .same _
  outOfRounds := .same _
  andThen run other next otherNext cut grows nextCut := by
    cases cut with
    | same =>
        cases run with
        | done m => exact nextCut m m rfl
        | failed | outOfRounds => exact .same _
    | stopped atExpr goesOn => exact .stopped atExpr (goesOn.andThen fun m => grows.leaves)

end Run

/-- Where the strict operators have no value, a run stops, and the other one may go on. -/
theorem valuesRelate_strict (e : Expr) :
    ValuesRelate (@Eq (Machine σ)) Run.CutShort e e.strict := by
  rintro m _ rfl next strictNext grows cut
  -- whether `e` has a value does not matter where `e.strict` has none: the run has stopped there
  cases evaluated : eval m.store e.strict with
  | ok value =>
      simp only [Machine.withValue, evaluated, eval_of_eval_strict evaluated]
      exact cut value m m rfl
  | error failure =>
      have stops : (m.withValue e.strict fun value => strictNext value m) = .failed failure m := by
        simp only [Machine.withValue, evaluated]
      rw [stops]
      exact .stopped (eval_ne_output evaluated)
        (Run.leaves_withValue (.refl m) fun value _ => grows value m)

/-- With strict operators, a run comes to the same or is cut short. -/
theorem Stmt.exec_cutShort (bound : Nat) (s : Stmt) (m : Machine σ) :
    (exec bound s m).CutShort (exec bound s.strict m) := by
  have followed : s.Follows (@Eq (Machine σ)) Run.CutShort Expr.strict :=
    { values := fun e _ => valuesRelate_strict e
      print := fun _ _ value m _ same => same ▸ .same _
      assign := fun _ _ _ value m _ same => same ▸ .same _
      assignField := fun _ _ _ _ value m _ same => same ▸ .same _ }
  exact Run.simulation_cutShort.exec followed bound m m rfl

/-- The operators that leave out their right side agree with the strict ones wherever the strict
    ones succeed. With `&` for `&&` and `|` for `||`, of which then none is left, a statement that
    is done leaves the machine that it leaves with the operators it has. And if the statement ends,
    it ends with the strict operators, in the same way, or in the failure of an expression with a
    part of the output, to which the statement itself adds the rest. -/
theorem Stmt.ends_strict (s : Stmt) (m : Machine σ) :
    (∀ op left right, (Expr.binary (.logical op) left right).OccursIn s.strict →
        op = .strictAnd ∨ op = .strictOr) ∧
      (∀ after, s.strict.Ends m (.done after) → s.Ends m (.done after)) ∧
      ∀ run, s.Ends m run → s.strict.Ends m run ∨
        ∃ e between, s.strict.Ends m (.failed e between) ∧ (∀ cause, e ≠ .output cause) ∧
          m.GrowsTo between ∧ run.Leaves between.GrowsTo := by
  refine ⟨fun op left right => isStrict_of_occursIn, ?_, ?_⟩
  · rintro after ⟨ended, bound, executed⟩
    have cut := s.exec_cutShort bound m
    rw [executed] at cut
    generalize unstrict : exec bound s m = run at cut
    cases cut with
    | same => exact ⟨ended, bound, unstrict⟩
  · rintro run ⟨ended, bound, executed⟩
    have cut := s.exec_cutShort bound m
    have grown := s.strict.exec_grows bound m
    rw [executed] at cut
    generalize strict : exec bound s.strict m = other at cut grown
    cases cut with
    | same => exact .inl ⟨ended, bound, strict⟩
    | stopped atExpr goesOn =>
        exact .inr ⟨_, _, ⟨by simp, bound, strict⟩, atExpr, Run.leaves_failed.mp grown, goesOn⟩

/-- The program `x = true || missing` binds `x`, and with `|` it fails. -/
example :
    exec 0 (.assign "x" (.binary (.logical .or) (.bool true) (.var "missing")))
        (.start Buffer.unlimited) =
      .done ⟨⟨[(.ofVariable "x", .ofTruth true)]⟩, .unlimited⟩ ∧
    exec 0 (Stmt.assign "x" (.binary (.logical .or) (.bool true) (.var "missing"))).strict
        (.start Buffer.unlimited) =
      .failed (.undefinedVariable "missing") (.start .unlimited) :=
  ⟨rfl, rfl⟩

end Kiss
