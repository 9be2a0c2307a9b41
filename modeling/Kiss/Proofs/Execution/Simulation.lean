import Kiss.Proofs.Execution.Output

/-!
# Two runs side by side

Many laws compare the runs of two statements of one shape, the second one with other expressions,
on another machine or with another type of sink. They have their argument in common: machines that
are related are taken by every step to runs that are related, and runs can be gone on with from
there. A `Simulation` says what relations on machines and runs need for this, `Stmt.Follows` what
they need of the expressions and the simple statements in a statement, and `Simulation.exec` is the
induction on statements and on the rounds of loops, which is made here once. The second run may stop
while the first one goes on to print, so what is said of the first is asked for steps that only add
to its output.
-/

namespace Kiss

namespace Stmt

mutual

/-- A statement with its expressions changed. -/
def mapExprs (change : Expr → Expr) : Stmt → Stmt
  | .print e => .print (change e)
  | .assign name e => .assign name (change e)
  | .assignField object field e => .assignField object field (change e)
  | .block statements => .block (mapExprsAll change statements)
  | .branch condition thenBranch none =>
      .branch (change condition) (mapExprs change thenBranch) none
  | .branch condition thenBranch (some elseBranch) =>
      .branch (change condition) (mapExprs change thenBranch) (some (mapExprs change elseBranch))
  | .whileLoop condition body => .whileLoop (change condition) (mapExprs change body)
  | .forLoop init condition increment body =>
      .forLoop (mapExprs change init) (change condition) (mapExprs change increment)
        (mapExprs change body)

/-- Several statements with their expressions changed. -/
def mapExprsAll (change : Expr → Expr) : List Stmt → List Stmt
  | [] => []
  | first :: rest => mapExprs change first :: mapExprsAll change rest

end

variable (change : Expr → Expr)

theorem mapExprsAll_eq_map (statements : List Stmt) :
    mapExprsAll change statements = statements.map (mapExprs change) := by
  induction statements with
  | nil => rfl
  | cons first rest ih => rw [mapExprsAll, ih, List.map_cons]

theorem mapExprs_branch (condition : Expr) (thenBranch : Stmt) (elseBranch : Option Stmt) :
    (branch condition thenBranch elseBranch).mapExprs change =
      .branch (change condition) (thenBranch.mapExprs change)
        (elseBranch.map (mapExprs change)) := by
  cases elseBranch <;> rfl

/-- With its expressions left as they are, a statement is left as it is. -/
theorem mapExprs_id (s : Stmt) : s.mapExprs id = s := by
  induction s using Stmt.induction with
  | print | assign | assignField => rfl
  | block statements ih =>
      rw [mapExprs, mapExprsAll_eq_map, List.map_congr_left ih, List.map_id']
  | branch condition thenBranch elseBranch ihThen ihElse =>
      rw [mapExprs_branch, ihThen]
      cases elseBranch with
      | none => rfl
      | some other => rw [Option.map_some, ihElse other rfl, id]
  | whileLoop condition body ih => rw [mapExprs, ih, id]
  | forLoop init condition increment body ihInit ihIncrement ihBody =>
      rw [mapExprs, ihInit, ihIncrement, ihBody, id]

/-- The changed statement evaluates the changed expressions. -/
theorem exprs_mapExprs (s : Stmt) : (s.mapExprs change).exprs = s.exprs.map change := by
  induction s using Stmt.induction with
  | print | assign | assignField => rfl
  | block statements ih =>
      rw [mapExprs, exprs, exprs]
      induction statements with
      | nil => rfl
      | cons first rest ihRest =>
          rw [mapExprsAll, exprsOf, exprsOf, List.map_append, ih first (by simp),
            ihRest fun s member => ih s (by simp [member])]
  | branch condition thenBranch elseBranch ihThen ihElse =>
      cases elseBranch with
      | none => simp [mapExprs, exprs, ihThen]
      | some other => simp [mapExprs, exprs, ihThen, ihElse other rfl]
  | whileLoop condition body ih => simp [mapExprs, exprs, ih]
  | forLoop init condition increment body ihInit ihIncrement ihBody =>
      simp [mapExprs, exprs, ihInit, ihIncrement, ihBody]

end Stmt

section Relations

variable {σ τ : Type} (S : Machine σ → Machine τ → Prop) (T : Run σ → Run τ → Prop)

/-- Two steps take related machines to related runs. -/
def Relates (step : Machine σ → Run σ) (other : Machine τ → Run τ) : Prop :=
  ∀ m n, S m n → T (step m) (other n)

variable [Sink σ]

/-- Related machines may go on with the values of two expressions. -/
def ValuesRelate (e other : Expr) : Prop :=
  ∀ m n, S m n → ∀ (next : Value → Machine σ → Run σ) (otherNext : Value → Machine τ → Run τ),
    (∀ value, Grows (next value)) → (∀ value, Relates S T (next value) (otherNext value)) →
    T (m.withValue e fun value => next value m) (n.withValue other fun value => otherNext value n)

/-- Relations on machines and on runs that let related steps be taken one behind the other. -/
structure Simulation : Prop where
  done : ∀ m n, S m n → T (.done m) (.done n)
  outOfRounds : T .outOfRounds .outOfRounds
  -- the runs need not be done together: the second one may have stopped before `next` prints
  andThen : ∀ run other next otherNext, T run other → Grows next → Relates S T next otherNext →
    T (run.andThen next) (other.andThen otherNext)

variable [Sink τ]

/-- What stands in a statement is followed in the statement with its expressions changed. -/
structure Stmt.Follows (s : Stmt) (change : Expr → Expr) : Prop where
  values : ∀ e ∈ s.exprs, ValuesRelate S T e (change e)
  print : ∀ e, .print e ∈ s.simples → ∀ value, Relates S T (·.print value) (·.print value)
  assign : ∀ name e, .assign name e ∈ s.simples → ∀ value,
    Relates S T (·.assign name value) (·.assign name value)
  assignField : ∀ object field e, .assignField object field e ∈ s.simples → ∀ value,
    Relates S T (·.assignField object field value) (·.assignField object field value)

end Relations

variable {σ τ : Type} [Sink σ] {S : Machine σ → Machine τ → Prop} {T : Run σ → Run τ → Prop}
  {change : Expr → Expr}

theorem Stmt.Follows.inside [Sink τ] {s part : Stmt} (followed : s.Follows S T change)
    (within : part.Within s) : part.Follows S T change where
  values e member := followed.values e (within.exprs _ member)
  print e member := followed.print e (within.simples _ member)
  assign name e member := followed.assign name e (within.simples _ member)
  assignField object field e member := followed.assignField object field e (within.simples _ member)

namespace Simulation

variable (simulation : Simulation S T)
include simulation

theorem andThen_relates {step next : Machine σ → Run σ} {other otherNext : Machine τ → Run τ}
    (related : Relates S T step other) (grows : Grows next)
    (nextRelated : Relates S T next otherNext) :
    Relates S T (fun m => (step m).andThen next) fun m => (other m).andThen otherNext :=
  fun m n same => simulation.andThen _ _ _ _ (related m n same) grows nextRelated

/-- Loops are followed if their rounds and conditions are. -/
theorem repeatWhile {round : Machine σ → Run σ} {other : Machine τ → Run τ} {condition : Expr}
    (values : ValuesRelate S T condition (change condition)) (grows : Grows round)
    (related : Relates S T round other) (rounds : Nat) :
    Relates S T (repeatWhile condition round rounds)
      (repeatWhile (change condition) other rounds) := by
  induction rounds with
  | zero => exact fun m n _ => simulation.outOfRounds
  | succ rounds ih =>
      have loopGrows := grows.repeatWhile condition rounds
      intro m n same
      rw [repeatWhile_succ, repeatWhile_succ]
      refine values m n same
        (fun value m =>
          if value.isTruthy then (round m).andThen (Kiss.repeatWhile condition round rounds)
          else .done m)
        (fun value n =>
          if value.isTruthy then
            (other n).andThen (Kiss.repeatWhile (change condition) other rounds)
          else .done n) (fun value m => ?_) fun value m n same => ?_
      · dsimp only
        split
        · exact grows.andThen loopGrows m
        · exact Run.leaves_done.mpr (.refl m)
      · dsimp only
        split
        · exact simulation.andThen_relates related loopGrows ih m n same
        · exact simulation.done m n same

variable [Sink τ]

theorem execAll {bound : Nat} {statements : List Stmt}
    (related : ∀ s ∈ statements, Relates S T (exec bound s) (exec bound (s.mapExprs change))) :
    Relates S T (execAll bound statements)
      (execAll bound (statements.map (Stmt.mapExprs change))) := by
  induction statements with
  | nil => exact simulation.done
  | cons first rest ih =>
      intro m n same
      rw [List.map_cons, execAll_cons, execAll_cons]
      exact simulation.andThen_relates (related first (by simp))
        (Stmt.exec_grows bound (.block rest))
        (ih fun s member => related s (by simp [member])) m n same

/-- If all that stands in a statement is followed, so is the statement. -/
theorem exec {s : Stmt} (followed : s.Follows S T change) (bound : Nat) :
    Relates S T (exec bound s) (exec bound (s.mapExprs change)) := by
  induction s using Stmt.induction with
  | print e =>
      intro m n same
      exact followed.values e (by simp [Stmt.exprs]) m n same (fun value m => m.print value)
        (fun value n => n.print value) (fun value m => m.print_leaves value)
        (followed.print e (by simp [Stmt.simples]))
  | assign name e =>
      intro m n same
      exact followed.values e (by simp [Stmt.exprs]) m n same (fun value m => m.assign name value)
        (fun value n => n.assign name value)
        (fun value m => Run.leaves_done.mpr (.of_sink_eq rfl))
        (followed.assign name e (by simp [Stmt.simples]))
  | assignField object field e =>
      intro m n same
      exact followed.values e (by simp [Stmt.exprs]) m n same
        (fun value m => m.assignField object field value)
        (fun value n => n.assignField object field value)
        (fun value m => m.assignField_leaves object field value)
        (followed.assignField object field e (by simp [Stmt.simples]))
  | block statements ih =>
      rw [Stmt.mapExprs, Stmt.mapExprsAll_eq_map]
      exact simulation.execAll fun s member =>
        ih s member (followed.inside (Stmt.within_block member))
  | branch condition thenBranch elseBranch ihThen ihElse =>
      have thenRelated := ihThen (followed.inside Stmt.within_thenBranch)
      have values := followed.values condition (Stmt.mem_exprs_branch.mpr (.inl rfl))
      intro m n same
      rw [Stmt.mapExprs_branch, exec_branch, exec_branch]
      refine values m n same
        (fun value m =>
          if value.isTruthy then Kiss.exec bound thenBranch m
          else elseBranch.elim (.done m) fun other => Kiss.exec bound other m)
        (fun value n =>
          if value.isTruthy then Kiss.exec bound (thenBranch.mapExprs change) n
          else (elseBranch.map (Stmt.mapExprs change)).elim (.done n) fun other =>
            Kiss.exec bound other n) (fun value m => ?_) fun value m n same => ?_
      · dsimp only
        split
        · exact thenBranch.exec_grows bound m
        · cases elseBranch with
          | none => exact Run.leaves_done.mpr (.refl m)
          | some other => exact other.exec_grows bound m
      · dsimp only
        split
        · exact thenRelated m n same
        · cases elseBranch with
          | none => exact simulation.done m n same
          | some other =>
              exact ihElse other rfl (followed.inside (Stmt.within_elseBranch rfl)) m n same
  | whileLoop condition body ih =>
      rw [Stmt.mapExprs, exec_whileLoop, exec_whileLoop]
      exact simulation.repeatWhile (followed.values condition (by simp [Stmt.exprs]))
        (body.exec_grows bound) (ih (followed.inside Stmt.within_whileLoop)) bound
  | forLoop init condition increment body ihInit ihIncrement ihBody =>
      have initRelated := ihInit (followed.inside Stmt.within_init)
      have incrementGrows : Grows (Kiss.exec bound increment : Machine σ → Run σ) :=
        increment.exec_grows bound
      have roundRelated := simulation.andThen_relates
        (ihBody (followed.inside Stmt.within_body)) incrementGrows
        (ihIncrement (followed.inside Stmt.within_increment))
      have roundGrows := (body.exec_grows bound).andThen incrementGrows
      exact simulation.andThen_relates initRelated (roundGrows.repeatWhile condition bound)
        (simulation.repeatWhile (followed.values condition (by simp [Stmt.exprs])) roundGrows
          roundRelated bound)

/-- A statement is followed by itself, if its expressions and simple statements are. -/
theorem exec_self {s : Stmt} (followed : s.Follows S T id) (bound : Nat) :
    Relates S T (Kiss.exec bound s) (Kiss.exec bound s) := by
  have related := simulation.exec followed bound
  rwa [Stmt.mapExprs_id] at related

end Simulation

end Kiss
