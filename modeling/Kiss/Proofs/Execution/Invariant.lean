import Kiss.Proofs.Execution.Occurrence
import Kiss.Proofs.Execution.Rounds

/-!
# Invariants of runs

What is said of a run is said of the machine that it leaves: of one that is done, and of one that
has failed, together with the error (`Run.Ensures`). A statement works on its machine through its
simple statements alone, and it fails there or where one of its expressions has no value. So what
all of these uphold is ensured by every run of the statement (`Stmt.exec_ensures`), and what its
simple statements keep is kept by the statement, however it ends (`Stmt.exec_leaves`).
-/

namespace Kiss

variable {σ : Type}

namespace Run

variable {P R : Machine σ → Prop} {Q : EvalError → Machine σ → Prop} {run : Run σ}

/-- A run that is done leaves a machine with the one property, and one that fails leaves an error
    and a machine with the other. -/
def Ensures (run : Run σ) (P : Machine σ → Prop) (Q : EvalError → Machine σ → Prop) : Prop :=
  match run with
  | .done m => P m
  | .failed e m => Q e m
  | .outOfRounds => True

theorem Ensures.andThen {next : Machine σ → Run σ} (ensured : run.Ensures P Q)
    (nextEnsured : ∀ m, P m → (next m).Ensures R Q) : (run.andThen next).Ensures R Q := by
  cases run with
  | done m => exact nextEnsured m ensured
  | failed e m => exact ensured
  | outOfRounds => exact trivial

theorem ensures_withValue {m : Machine σ} {e : Expr} {next : Value → Run σ}
    (failed : ∀ failure, eval m.store e = .error failure → Q failure m)
    (nextEnsured : ∀ value, eval m.store e = .ok value → (next value).Ensures P Q) :
    (m.withValue e next).Ensures P Q := by
  rw [Machine.withValue]
  cases evaluated : eval m.store e with
  | error failure => exact failed failure evaluated
  | ok value => exact nextEnsured value evaluated

/-- The machine that a run leaves, once it has ended. -/
def machine? : Run σ → Option (Machine σ)
  | .done m => some m
  | .failed _ m => some m
  | .outOfRounds => none

/-- A run leaves no machine but such with a property. -/
def Leaves (run : Run σ) (P : Machine σ → Prop) : Prop :=
  ∀ m ∈ run.machine?, P m

theorem leaves_done {m : Machine σ} : (done m).Leaves P ↔ P m := by
  simp [Leaves, machine?]

theorem leaves_failed {e : EvalError} {m : Machine σ} : (failed e m).Leaves P ↔ P m := by
  simp [Leaves, machine?]

theorem leaves_outOfRounds : outOfRounds.Leaves P := by
  simp [Leaves, machine?]

theorem leaves_iff_ensures : run.Leaves P ↔ run.Ensures P fun _ => P := by
  cases run with
  | done m => exact leaves_done
  | failed e m => exact leaves_failed
  | outOfRounds => exact iff_of_true leaves_outOfRounds trivial

/-- Printing leaves the store as it is. -/
theorem leaves_print [Sink σ] {P : Store → Prop} {m : Machine σ} (before : P m.store)
    (value : Value) : (m.print value).Leaves fun m => P m.store := by
  rw [Machine.print]
  split
  · exact leaves_done.mpr before
  · exact leaves_failed.mpr before

theorem Leaves.mono (left : run.Leaves P) (weaker : ∀ m, P m → R m) : run.Leaves R :=
  fun m ended => weaker m (left m ended)

theorem Leaves.andThen {next : Machine σ → Run σ} (left : run.Leaves P)
    (nextLeft : ∀ m, P m → (next m).Leaves P) : (run.andThen next).Leaves P := by
  simp only [leaves_iff_ensures] at *
  exact left.andThen nextLeft

theorem leaves_withValue {m : Machine σ} {e : Expr} {next : Value → Run σ} (before : P m)
    (nextLeft : ∀ value, eval m.store e = .ok value → (next value).Leaves P) :
    (m.withValue e next).Leaves P := by
  simp only [leaves_iff_ensures] at *
  exact ensures_withValue (fun _ _ => before) nextLeft

end Run

namespace Stmt

variable [Sink σ] {s part : Stmt} {P : Machine σ → Prop} {Q : EvalError → Machine σ → Prop}

/-- What stands in a statement upholds a property of machines: the simple statements, once their
    expressions have a value. Where an expression has none, or a simple statement fails, the error
    and the machine have another property. -/
structure Upholds (s : Stmt) (P : Machine σ → Prop) (Q : EvalError → Machine σ → Prop) :
    Prop where
  failed : ∀ e ∈ s.exprs, ∀ m failure, P m → eval m.store e = .error failure → Q failure m
  print : ∀ e, .print e ∈ s.simples → ∀ m value, P m → eval m.store e = .ok value →
    (m.print value).Ensures P Q
  assign : ∀ name e, .assign name e ∈ s.simples → ∀ m value, P m → eval m.store e = .ok value →
    (m.assign name value).Ensures P Q
  assignField : ∀ object field e, .assignField object field e ∈ s.simples → ∀ m value, P m →
    eval m.store e = .ok value → (m.assignField object field value).Ensures P Q

theorem Upholds.inside (upheld : s.Upholds P Q) (within : part.Within s) : part.Upholds P Q where
  failed e member := upheld.failed e (within.exprs _ member)
  print e member := upheld.print e (within.simples _ member)
  assign name e member := upheld.assign name e (within.simples _ member)
  assignField object field e member := upheld.assignField object field e (within.simples _ member)

/-- Each simple statement in a statement keeps a property of machines, once its expression has a
    value. -/
structure Keeps (s : Stmt) (P : Machine σ → Prop) : Prop where
  print : ∀ e, .print e ∈ s.simples → ∀ m value, P m → eval m.store e = .ok value →
    (m.print value).Leaves P
  assign : ∀ name e, .assign name e ∈ s.simples → ∀ m value, P m → eval m.store e = .ok value →
    (m.assign name value).Leaves P
  assignField : ∀ object field e, .assignField object field e ∈ s.simples → ∀ m value, P m →
    eval m.store e = .ok value → (m.assignField object field value).Leaves P

/-- What is kept is upheld, and found again where the statement fails. -/
theorem Keeps.upholds (kept : s.Keeps P) : s.Upholds P fun _ => P where
  failed _ _ _ _ before _ := before
  print e member m value before evaluated :=
    Run.leaves_iff_ensures.mp (kept.print e member m value before evaluated)
  assign name e member m value before evaluated :=
    Run.leaves_iff_ensures.mp (kept.assign name e member m value before evaluated)
  assignField object field e member m value before evaluated :=
    Run.leaves_iff_ensures.mp (kept.assignField object field e member m value before evaluated)

end Stmt

section Induction

variable {P : Machine σ → Prop} {Q : EvalError → Machine σ → Prop} {bound : Nat}

/-- A loop ensures what its rounds and its condition ensure. -/
theorem repeatWhile_ensures {round : Machine σ → Run σ} {condition : Expr}
    (failed : ∀ m failure, P m → eval m.store condition = .error failure → Q failure m)
    (ensured : ∀ m, P m → (round m).Ensures P Q) (rounds : Nat) :
    ∀ m, P m → (repeatWhile condition round rounds m).Ensures P Q := by
  induction rounds with
  | zero => exact fun m _ => trivial
  | succ rounds ih =>
      intro m before
      rw [repeatWhile_succ]
      -- the condition is evaluated, and may fail, on a machine that still has the property
      apply Run.ensures_withValue fun failure => failed m failure before
      intro value _
      split
      · exact (ensured m before).andThen ih
      · exact before

/-- A loop keeps what its rounds keep. -/
theorem repeatWhile_leaves {round : Machine σ → Run σ} (condition : Expr)
    (kept : ∀ m, P m → (round m).Leaves P) (rounds : Nat) :
    ∀ m, P m → (repeatWhile condition round rounds m).Leaves P := by
  simp only [Run.leaves_iff_ensures] at *
  exact repeatWhile_ensures (fun _ _ before _ => before) kept rounds

variable [Sink σ]

theorem execAll_ensures {statements : List Stmt}
    (ensured : ∀ s ∈ statements, ∀ m, P m → (exec bound s m).Ensures P Q) :
    ∀ m, P m → (execAll bound statements m).Ensures P Q := by
  induction statements with
  | nil => exact fun m before => before
  | cons first rest ih =>
      intro m before
      rw [execAll_cons]
      exact (ensured first (by simp) m before).andThen
        (ih fun s member => ensured s (by simp [member]))

/-- What is upheld by all that stands in a statement is ensured by its runs. -/
theorem Stmt.exec_ensures {s : Stmt} (upheld : s.Upholds P Q) :
    ∀ m, P m → (exec bound s m).Ensures P Q := by
  induction s using Stmt.induction with
  | print e =>
      intro m before
      apply Run.ensures_withValue fun failure => upheld.failed e (by simp [exprs]) m failure before
      exact fun value => upheld.print e (by simp [simples]) m value before
  | assign name e =>
      intro m before
      apply Run.ensures_withValue fun failure => upheld.failed e (by simp [exprs]) m failure before
      exact fun value => upheld.assign name e (by simp [simples]) m value before
  | assignField object field e =>
      intro m before
      apply Run.ensures_withValue fun failure => upheld.failed e (by simp [exprs]) m failure before
      exact fun value => upheld.assignField object field e (by simp [simples]) m value before
  | block statements ih =>
      exact execAll_ensures fun s member => ih s member (upheld.inside (within_block member))
  | branch condition thenBranch elseBranch ihThen ihElse =>
      intro m before
      rw [exec_branch]
      apply Run.ensures_withValue fun failure =>
        upheld.failed condition (mem_exprs_branch.mpr (.inl rfl)) m failure before
      intro value _
      split
      · exact ihThen (upheld.inside within_thenBranch) m before
      · cases elseBranch with
        | none => exact before
        | some other => exact ihElse other rfl (upheld.inside (within_elseBranch rfl)) m before
  | whileLoop condition body ih =>
      exact repeatWhile_ensures (upheld.failed condition (by simp [exprs]))
        (ih (upheld.inside within_whileLoop)) bound
  | forLoop init condition increment body ihInit ihIncrement ihBody =>
      have round : ∀ m, P m →
          ((exec bound body m).andThen (exec bound increment)).Ensures P Q := fun m before =>
        (ihBody (upheld.inside within_body) m before).andThen
          (ihIncrement (upheld.inside within_increment))
      intro m before
      rw [exec_forLoop]
      exact (ihInit (upheld.inside within_init) m before).andThen
        (repeatWhile_ensures (upheld.failed condition (by simp [exprs])) round bound)

/-- What the simple statements in a statement keep is kept by the statement, whether it is done or
    fails. -/
theorem Stmt.exec_leaves {s : Stmt} (kept : s.Keeps P) (m : Machine σ) (before : P m) :
    (exec bound s m).Leaves P :=
  Run.leaves_iff_ensures.mpr (exec_ensures kept.upholds m before)

end Induction

end Kiss
