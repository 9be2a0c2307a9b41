import Kiss.Program

/-!
# Bounds on rounds

A run is given a bound on the rounds of its loops, but what a statement comes to does not hang
on it: a bound that was enough stays enough when it grows, and the run stays the same
(`Stmt.exec_keptBy`). So `Stmt.Ends` speaks of the end of a statement without a bound, and a
statement has at most one end. The laws at the beginning say how the run of each statement is
put together from the runs of its parts; everything about runs is proved along them.
-/

namespace Kiss

/-- Induction on statements: what holds of a block may use that it holds of every statement in
    it, and what holds of a branch that it holds of the second side, if there is one. -/
@[elab_as_elim]
theorem Stmt.induction {P : Stmt → Prop} (print : ∀ e, P (.print e))
    (assign : ∀ name e, P (.assign name e))
    (assignField : ∀ object field e, P (.assignField object field e))
    (block : ∀ statements, (∀ s ∈ statements, P s) → P (.block statements))
    (branch : ∀ condition thenBranch elseBranch, P thenBranch → (∀ s ∈ elseBranch, P s) →
      P (.branch condition thenBranch elseBranch))
    (whileLoop : ∀ condition body, P body → P (.whileLoop condition body))
    (forLoop : ∀ init condition increment body, P init → P increment → P body →
      P (.forLoop init condition increment body)) (s : Stmt) : P s := by
  refine @Stmt.rec P (fun statements => ∀ s ∈ statements, P s) (fun branch => ∀ s ∈ branch, P s)
    print assign assignField block branch whileLoop forLoop ?_ ?_ ?_ ?_ s
  · simp
  · intro first rest here there s member
    rcases List.mem_cons.mp member with rfl | member
    · exact here
    · exact there s member
  · simp
  · intro only here s member
    cases member
    exact here

variable {σ : Type}

namespace Run

@[simp]
theorem done_andThen (m : Machine σ) (next : Machine σ → Run σ) :
    (done m).andThen next = next m := rfl

@[simp]
theorem failed_andThen (e : EvalError) (m : Machine σ) (next : Machine σ → Run σ) :
    (failed e m).andThen next = failed e m := rfl

@[simp]
theorem outOfRounds_andThen (next : Machine σ → Run σ) :
    outOfRounds.andThen next = outOfRounds := rfl

@[simp]
theorem andThen_done (run : Run σ) : run.andThen done = run := by
  cases run <;> rfl

theorem andThen_assoc (run : Run σ) (f g : Machine σ → Run σ) :
    (run.andThen f).andThen g = run.andThen fun m => (f m).andThen g := by
  cases run <;> rfl

end Run

section Laws

/-- A field is assigned where there is an object; otherwise the machine stays as it is. -/
theorem Machine.assignField_eq (m : Machine σ) (object field : String) (value : Value) :
    m.assignField object field value =
      match m.store.fieldsOf object with
      | .ok fields =>
          .done { m with
            store := m.store.set (.ofVariable object)
              (.object (Bindings.insert (.ofField field) value fields)) }
      | .error e => .failed e m := by
  rw [assignField, Store.setField]
  cases m.store.fieldsOf object <;> rfl

variable (bound : Nat)

theorem repeatWhile_succ (condition : Expr) (round : Machine σ → Run σ) (m : Machine σ) :
    repeatWhile condition round (bound + 1) m =
      m.withValue condition fun value =>
        if value.isTruthy then (round m).andThen (repeatWhile condition round bound)
        else .done m := by
  rw [repeatWhile, Machine.holds, Machine.withValue]
  cases eval m.store condition with
  | error => rfl
  | ok value =>
      cases truth : value.isTruthy
      · simp [Except.map, truth]
      · simp only [Except.map, truth, if_true]
        cases round m <;> rfl

variable [Sink σ]

theorem exec_block (statements : List Stmt) :
    (exec bound (.block statements) : Machine σ → Run σ) = execAll bound statements := rfl

theorem exec_branch (condition : Expr) (thenBranch : Stmt) (elseBranch : Option Stmt)
    (m : Machine σ) :
    exec bound (.branch condition thenBranch elseBranch) m =
      m.withValue condition fun value =>
        if value.isTruthy then exec bound thenBranch m
        else elseBranch.elim (.done m) fun other => exec bound other m := by
  have holds : m.holds condition = (eval m.store condition).map Value.isTruthy := rfl
  rw [Machine.withValue]
  cases evaluated : eval m.store condition with
  | error e =>
      rw [evaluated] at holds
      rw [exec.eq_5 _ _ _ _ _ e holds]
  | ok value =>
      rw [evaluated, Except.map] at holds
      simp only
      split
      · rename_i truth
        rw [truth] at holds
        exact exec.eq_6 _ _ _ _ _ holds
      · rename_i noTruth
        rw [Bool.eq_false_iff.mpr noTruth] at holds
        cases elseBranch with
        | none => exact exec.eq_7 _ _ _ _ holds
        | some other => exact exec.eq_8 _ _ _ _ other holds

theorem exec_whileLoop (condition : Expr) (body : Stmt) :
    (exec bound (.whileLoop condition body) : Machine σ → Run σ) =
      repeatWhile condition (exec bound body) bound := rfl

theorem exec_forLoop (init : Stmt) (condition : Expr) (increment body : Stmt) (m : Machine σ) :
    exec bound (.forLoop init condition increment body) m =
      (exec bound init m).andThen
        (repeatWhile condition (fun m => (exec bound body m).andThen (exec bound increment))
          bound) := rfl

theorem execAll_cons (first : Stmt) (rest : List Stmt) (m : Machine σ) :
    execAll bound (first :: rest) m = (exec bound first m).andThen (execAll bound rest) := by
  rw [execAll]
  cases exec bound first m <;> rfl

theorem execAll_singleton (s : Stmt) (m : Machine σ) : execAll bound [s] m = exec bound s m := by
  rw [execAll_cons]
  exact Run.andThen_done _

/-- Statements run one behind the other, wherever they are cut in two. -/
theorem execAll_append (statements others : List Stmt) (m : Machine σ) :
    execAll bound (statements ++ others) m =
      (execAll bound statements m).andThen (execAll bound others) := by
  induction statements generalizing m with
  | nil => rfl
  | cons first rest ih =>
      rw [List.cons_append, execAll_cons, execAll_cons, Run.andThen_assoc]
      exact congrArg (exec bound first m).andThen (funext ih)

end Laws

namespace Run

variable {run more : Run σ} {next longer : Machine σ → Run σ}

/-- A run that has ended is what the other one comes to as well. -/
def KeptBy (run more : Run σ) : Prop :=
  run ≠ .outOfRounds → more = run

theorem KeptBy.refl (run : Run σ) : run.KeptBy run :=
  fun _ => rfl

theorem outOfRounds_keptBy (more : Run σ) : outOfRounds.KeptBy more :=
  fun ended => absurd rfl ended

theorem KeptBy.andThen (kept : run.KeptBy more) (nextKept : ∀ m, (next m).KeptBy (longer m)) :
    (run.andThen next).KeptBy (more.andThen longer) := by
  cases run with
  | outOfRounds => exact outOfRounds_keptBy _
  | done m =>
      rw [kept (by simp)]
      exact nextKept m
  | failed e m =>
      rw [kept (by simp)]
      exact .refl _

theorem KeptBy.withValue {m : Machine σ} {e : Expr} {next longer : Value → Run σ}
    (kept : ∀ value, (next value).KeptBy (longer value)) :
    (m.withValue e next).KeptBy (m.withValue e longer) := by
  unfold Machine.withValue
  cases eval m.store e with
  | error => exact .refl _
  | ok value => exact kept value

end Run

/-- A loop that ends needs no more rounds than it has taken. -/
theorem repeatWhile_keptBy {round longer : Machine σ → Run σ} (condition : Expr)
    (kept : ∀ m, (round m).KeptBy (longer m)) {fewer bound : Nat} (le : fewer ≤ bound) :
    ∀ m, (repeatWhile condition round fewer m).KeptBy (repeatWhile condition longer bound m) := by
  induction fewer generalizing bound with
  | zero => exact fun m => Run.outOfRounds_keptBy _
  | succ fewer ih =>
      intro m
      obtain ⟨left, rfl⟩ : ∃ left, bound = left + 1 := ⟨bound - 1, by omega⟩
      rw [repeatWhile_succ, repeatWhile_succ]
      apply Run.KeptBy.withValue
      intro value
      split
      · exact (kept m).andThen (ih (Nat.le_of_succ_le_succ le))
      · exact .refl _

variable [Sink σ]

theorem execAll_keptBy {fewer bound : Nat} {statements : List Stmt}
    (kept : ∀ s ∈ statements, ∀ m : Machine σ, (exec fewer s m).KeptBy (exec bound s m))
    (m : Machine σ) :
    (execAll fewer statements m).KeptBy (execAll bound statements m) := by
  induction statements generalizing m with
  | nil => exact .refl _
  | cons first rest ih =>
      rw [execAll_cons, execAll_cons]
      exact (kept first (by simp) m).andThen (ih fun s member => kept s (by simp [member]))

/-- A larger bound changes nothing about a run that has ended. -/
theorem Stmt.exec_keptBy {fewer bound : Nat} (le : fewer ≤ bound) (s : Stmt) :
    ∀ m : Machine σ, (exec fewer s m).KeptBy (exec bound s m) := by
  induction s using Stmt.induction with
  | print | assign | assignField => exact fun m => .refl _
  | block statements ih => exact execAll_keptBy ih
  | branch condition thenBranch elseBranch ihThen ihElse =>
      intro m
      rw [exec_branch, exec_branch]
      apply Run.KeptBy.withValue
      intro value
      split
      · exact ihThen m
      · cases elseBranch with
        | none => exact .refl _
        | some other => exact ihElse other rfl m
  | whileLoop condition body ih => exact repeatWhile_keptBy condition ih le
  | forLoop init condition increment body ihInit ihIncrement ihBody =>
      intro m
      rw [exec_forLoop, exec_forLoop]
      exact (ihInit m).andThen
        (repeatWhile_keptBy condition (fun m => (ihBody m).andThen ihIncrement) le)

namespace Stmt

variable {s : Stmt} {m : Machine σ} {run other : Run σ}

/-- A statement ends on a machine in a run, done or failed: there is a bound that is enough. -/
def Ends (s : Stmt) (m : Machine σ) (run : Run σ) : Prop :=
  run ≠ .outOfRounds ∧ ∃ bound, exec bound s m = run

/-- Every bound from some bound on gives the end of a statement. -/
theorem Ends.exists_bound (ends : s.Ends m run) :
    ∃ least, ∀ bound, least ≤ bound → exec bound s m = run := by
  obtain ⟨ended, least, rfl⟩ := ends
  exact ⟨least, fun bound le => s.exec_keptBy le m ended⟩

/-- A statement ends in one way only. -/
theorem Ends.unique (ends : s.Ends m run) (also : s.Ends m other) : run = other := by
  obtain ⟨least, same⟩ := ends.exists_bound
  obtain ⟨otherLeast, otherSame⟩ := also.exists_bound
  rw [← same (max least otherLeast) (by omega), otherSame (max least otherLeast) (by omega)]

/-- A block ends where its first statements fail, or where the others end behind them. -/
theorem ends_block_append (statements others : List Stmt) :
    (block (statements ++ others)).Ends m run ↔
      ((block statements).Ends m run ∧ ∃ e left, run = .failed e left) ∨
        ∃ between, (block statements).Ends m (.done between) ∧ (block others).Ends between run := by
  constructor
  · rintro ⟨ended, bound, rfl⟩
    rw [exec_block, execAll_append] at ended ⊢
    cases first : execAll bound statements m with
    | outOfRounds => simp [first] at ended
    | failed e left => exact .inl ⟨⟨by simp, bound, first⟩, e, left, rfl⟩
    | done between =>
        rw [first] at ended
        exact .inr ⟨between, ⟨by simp, bound, first⟩, ended, bound, rfl⟩
  · rintro (⟨⟨ended, bound, first⟩, e, left, rfl⟩ | ⟨between, first, second⟩)
    · refine ⟨ended, bound, ?_⟩
      rw [exec_block] at first ⊢
      rw [execAll_append, first]
      rfl
    · obtain ⟨least, here⟩ := first.exists_bound
      obtain ⟨otherLeast, there⟩ := second.exists_bound
      have enough := here _ (Nat.le_max_left least otherLeast)
      refine ⟨second.1, max least otherLeast, ?_⟩
      rw [exec_block] at enough ⊢
      rw [execAll_append, enough]
      exact there _ (Nat.le_max_right least otherLeast)

end Stmt

end Kiss
