import Kiss.Proofs.Execution.Buffer
import Kiss.Proofs.Execution.Evaluation
import Kiss.Proofs.Execution.Simulation

/-!
# What a run depends on

A statement looks at the variables that it mentions and at no others. So its runs on two machines
whose stores agree on these variables go side by side: they print the same, they end alike, and
the stores they leave agree on the same variables again (`Stmt.ends_of_agreesOn`).
-/

namespace Kiss

namespace Store

variable {store other : Store} {names : String → Prop}

/-- Two stores bind each of some variables to the same value, or both of them do not bind it. -/
def AgreesOn (store other : Store) (names : String → Prop) : Prop :=
  ∀ name, names name → store.find? (.ofVariable name) = other.find? (.ofVariable name)

theorem AgreesOn.set (agree : store.AgreesOn other names) (slot : Slot) (value : Value) :
    (store.set slot value).AgreesOn (other.set slot value) names := by
  intro name mentioned
  rw [find?_set, find?_set, agree name mentioned]

theorem fieldsOf_congr {object : String}
    (same : store.find? (.ofVariable object) = other.find? (.ofVariable object)) :
    store.fieldsOf object = other.fieldsOf object := by
  rw [fieldsOf, fieldsOf, same]

end Store

/-- An expression in a statement has the same value, or the same error, in stores that agree on the
    variables of the statement. -/
theorem eval_of_agreesOn {s : Stmt} {store other : Store}
    (agree : store.AgreesOn other s.Mentions) {e : Expr}
    (occurs : e.OccursIn s) : eval store e = eval other e := by
  induction e with
  | number | text | bool | emptyObject => rfl
  | var name =>
      have same := agree name (.inl (.inl occurs))
      rw [eval, eval, Store.get, Store.get, same]
  | field object name =>
      have same := agree object (.inl (.inr (.inl ⟨name, occurs⟩)))
      rw [eval, eval, Store.getField, Store.getField, Store.fieldsOf_congr same]
  | unary op operand ih => rw [eval_unary, eval_unary, ih occurs.operand]
  | binary op left right ihLeft ihRight =>
      rw [eval_binary, eval_binary, ihLeft occurs.left, ihRight occurs.right]

variable {σ τ : Type}

namespace Run

/-- Two runs come to the same, with related machines. -/
inductive Paired (S : Machine σ → Machine τ → Prop) : Run σ → Run τ → Prop where
  | done {m : Machine σ} {n : Machine τ} (related : S m n) : Paired S (.done m) (.done n)
  | failed (e : EvalError) {m : Machine σ} {n : Machine τ} (related : S m n) :
      Paired S (.failed e m) (.failed e n)
  | outOfRounds : Paired S .outOfRounds .outOfRounds

theorem simulation_paired [Sink σ] [Sink τ] (S : Machine σ → Machine τ → Prop) :
    Simulation S (Paired S) where
  done _ _ related := .done related
  outOfRounds := .outOfRounds
  andThen run other next otherNext paired _ nextPaired := by
    cases paired with
    | done related => exact nextPaired _ _ related
    | failed e related => exact .failed e related
    | outOfRounds => exact .outOfRounds

theorem Paired.ended_iff {S : Machine σ → Machine τ → Prop} {run : Run σ} {other : Run τ}
    (paired : run.Paired S other) : run ≠ .outOfRounds ↔ other ≠ .outOfRounds := by
  cases paired <;> simp

end Run

variable [Sink σ] [Sink τ]

/-- Two machines that have come from two others: they have printed the same values meanwhile, and
    their stores agree on some variables. -/
structure Machine.InStep (names : String → Prop) (start : Machine σ) (otherStart : Machine τ)
    (m : Machine σ) (n : Machine τ) : Prop where
  agree : m.store.AgreesOn n.store names
  printed : ∃ values,
    m.sink = Sink.after start.sink values ∧ n.sink = Sink.after otherStart.sink values

namespace Stmt

variable {s : Stmt} {start : Machine σ} {other : Machine τ}

theorem valuesRelate_inStep {e : Expr} (stands : e ∈ s.exprs) :
    ValuesRelate (Machine.InStep s.Mentions start other)
      (Run.Paired (Machine.InStep s.Mentions start other)) e e := by
  intro m n inStep next otherNext _ related
  have same : eval m.store e = eval n.store e :=
    eval_of_agreesOn inStep.agree (.of_mem stands)
  rw [Machine.withValue, Machine.withValue, same]
  cases eval n.store e with
  | error failure => exact .failed failure inStep
  | ok value => exact related value m n inStep

/-- A statement is followed by itself on machines that are in step, if their sinks never fail. -/
theorem follows_inStep (free : Sink.NeverFails start.sink)
    (otherFree : Sink.NeverFails other.sink) :
    s.Follows (Machine.InStep s.Mentions start other)
      (Run.Paired (Machine.InStep s.Mentions start other)) id where
  values _ stands := valuesRelate_inStep stands
  print _ _ value m n inStep := by
    obtain ⟨values, printed, otherPrinted⟩ := inStep.printed
    have mFree : Sink.NeverFails m.sink := printed ▸ free.after values
    have nFree : Sink.NeverFails n.sink := otherPrinted ▸ otherFree.after values
    simp only [Machine.print_of_neverFails mFree, Machine.print_of_neverFails nFree]
    refine .done ⟨inStep.agree, values ++ [value], ?_, ?_⟩
    · rw [Sink.after_append, printed]
    · rw [Sink.after_append, otherPrinted]
  assign _ _ _ value _ _ inStep := .done ⟨inStep.agree.set _ value, inStep.printed⟩
  assignField object field e member value m n inStep := by
    have looksUp : s.LooksUp object := .inr (.inr ⟨field, e, member⟩)
    have same : m.store.fieldsOf object = n.store.fieldsOf object :=
      Store.fieldsOf_congr (inStep.agree object (.inl looksUp))
    simp only [Machine.assignField_eq, same]
    cases n.store.fieldsOf object with
    | error failure => exact .failed failure inStep
    | ok fields => exact .done ⟨inStep.agree.set _ _, inStep.printed⟩

/-- A statement depends only on the variables that it mentions. On two machines whose stores agree
    on these, with sinks that never fail, it ends on both or on none, and then in the same way:
    done, or failed with the same error, with the same values printed, and with stores that agree on
    these variables again. -/
theorem ends_of_agreesOn (free : Sink.NeverFails start.sink)
    (otherFree : Sink.NeverFails other.sink) (agree : start.store.AgreesOn other.store s.Mentions) :
    ((∃ run, s.Ends start run) ↔ ∃ run, s.Ends other run) ∧
      ∀ run otherRun, s.Ends start run → s.Ends other otherRun →
        run.Paired (Machine.InStep s.Mentions start other) otherRun := by
  have inStep : Machine.InStep s.Mentions start other start other :=
    ⟨agree, [], rfl, rfl⟩
  have followed : s.Follows _ _ id := follows_inStep free otherFree
  have paired (bound : Nat) : (exec bound s start).Paired
      (Machine.InStep s.Mentions start other) (exec bound s other) :=
    (Run.simulation_paired _).exec_self followed bound start other inStep
  refine ⟨⟨?_, ?_⟩, ?_⟩
  · rintro ⟨_, ended, bound, rfl⟩
    exact ⟨_, (paired bound).ended_iff.mp ended, bound, rfl⟩
  · rintro ⟨_, ended, bound, rfl⟩
    exact ⟨_, (paired bound).ended_iff.mpr ended, bound, rfl⟩
  · rintro _ otherRun ⟨ended, bound, rfl⟩ otherEnds
    have also : s.Ends other (exec bound s other) := ⟨(paired bound).ended_iff.mp ended, bound, rfl⟩
    rw [otherEnds.unique also]
    exact paired bound

/-- The program `while x { print "a" x = false }`. -/
def atMostOnce : Stmt :=
  .whileLoop (.var "x") (.block [.print (.text "a"), .assign "x" (.bool false)])

/-- That program does not depend on a variable `key`. -/
theorem ends_of_agreesOn_key :
    ∃ run otherRun,
      atMostOnce.Ends ⟨⟨[(.ofVariable "x", .bool true)]⟩, Buffer.unlimited⟩ run ∧
      atMostOnce.Ends
        ⟨⟨[(.ofVariable "key", .text "k"), (.ofVariable "x", .bool true)]⟩, Buffer.unlimited⟩
        otherRun ∧
      run.Paired (Machine.InStep atMostOnce.Mentions
        ⟨⟨[(.ofVariable "x", .bool true)]⟩, Buffer.unlimited⟩
        ⟨⟨[(.ofVariable "key", .text "k"), (.ofVariable "x", .bool true)]⟩, Buffer.unlimited⟩)
        otherRun := by
  have agree : Store.AgreesOn ⟨[(.ofVariable "x", .bool true)]⟩
      ⟨[(.ofVariable "key", .text "k"), (.ofVariable "x", .bool true)]⟩ atMostOnce.Mentions := by
    intro name mentioned
    have visible : name = "x" := by
      simpa [atMostOnce, Mentions, LooksUp, Assigns, AssignsField, Expr.OccursIn, Expr.parts, exprs,
        exprsOf, simples, simplesOf] using mentioned
    rw [visible]
    rfl
  have ends : atMostOnce.Ends ⟨⟨[(.ofVariable "x", .bool true)]⟩, Buffer.unlimited⟩
      (.done ⟨⟨[(.ofVariable "x", .bool false)]⟩, Buffer.unlimited.taking "a".toUTF8⟩) :=
    ⟨by simp, 2, rfl⟩
  have otherEnds : atMostOnce.Ends
      ⟨⟨[(.ofVariable "key", .text "k"), (.ofVariable "x", .bool true)]⟩, Buffer.unlimited⟩
      (.done ⟨⟨[(.ofVariable "key", .text "k"), (.ofVariable "x", .bool false)]⟩,
        Buffer.unlimited.taking "a".toUTF8⟩) :=
    ⟨by simp, 2, rfl⟩
  have free : Sink.NeverFails Buffer.unlimited := Buffer.neverFails rfl rfl
  exact ⟨_, _, ends, otherEnds, (ends_of_agreesOn free free agree).2 _ _ ends otherEnds⟩

end Stmt

end Kiss
