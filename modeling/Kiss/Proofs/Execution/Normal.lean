import Kiss.Proofs.Execution.Rounds

/-!
# Normal forms of statements

A counting loop is its first assignment and then a conditional loop whose body ends with the
other assignment, and a block in a block is a part of it like any other row of statements. So
every statement has a normal form with conditional loops only and without blocks in blocks. It
comes to the same as the statement from every machine: both passes keep the run of a statement
with every bound, since a bound counts the rounds of each loop by itself.
-/

namespace Kiss.Stmt

mutual

/-- A statement with conditional loops in place of its counting loops. -/
def whileOnly : Stmt → Stmt
  | .print e => .print e
  | .assign name e => .assign name e
  | .assignField object field e => .assignField object field e
  | .block statements => .block (whileOnlyAll statements)
  | .branch condition thenBranch none => .branch condition (whileOnly thenBranch) none
  | .branch condition thenBranch (some elseBranch) =>
      .branch condition (whileOnly thenBranch) (some (whileOnly elseBranch))
  | .whileLoop condition body => .whileLoop condition (whileOnly body)
  | .forLoop init condition increment body =>
      .block [whileOnly init,
        .whileLoop condition (.block [whileOnly body, whileOnly increment])]

/-- Several statements with conditional loops only. -/
def whileOnlyAll : List Stmt → List Stmt
  | [] => []
  | first :: rest => whileOnly first :: whileOnlyAll rest

end

/-- What a statement stands for among others: a block for what is in it. -/
def parts : Stmt → List Stmt
  | .block statements => statements
  | other => [other]

mutual

/-- A statement with the blocks that stand in its blocks dissolved. -/
def spliced : Stmt → Stmt
  | .print e => .print e
  | .assign name e => .assign name e
  | .assignField object field e => .assignField object field e
  | .block statements => .block (splicedAll statements)
  | .branch condition thenBranch none => .branch condition (spliced thenBranch) none
  | .branch condition thenBranch (some elseBranch) =>
      .branch condition (spliced thenBranch) (some (spliced elseBranch))
  | .whileLoop condition body => .whileLoop condition (spliced body)
  | .forLoop init condition increment body =>
      .forLoop (spliced init) condition (spliced increment) (spliced body)

/-- The parts of several statements, in one row. -/
def splicedAll : List Stmt → List Stmt
  | [] => []
  | first :: rest => (spliced first).parts ++ splicedAll rest

end

/-- The normal form of a statement. -/
def normalize (s : Stmt) : Stmt :=
  s.whileOnly.spliced

/-- Statements without counting loops and without blocks in blocks. -/
inductive IsNormal : Stmt → Prop where
  | print (e : Expr) : IsNormal (.print e)
  | assign (name : String) (e : Expr) : IsNormal (.assign name e)
  | assignField (object field : String) (e : Expr) : IsNormal (.assignField object field e)
  | block {statements : List Stmt} (noBlock : ∀ s ∈ statements, ∀ inner, s ≠ .block inner)
      (inside : ∀ s ∈ statements, IsNormal s) : IsNormal (.block statements)
  | branch {condition : Expr} {thenBranch : Stmt} {elseBranch : Option Stmt}
      (thenNormal : IsNormal thenBranch) (elseNormal : ∀ s ∈ elseBranch, IsNormal s) :
      IsNormal (.branch condition thenBranch elseBranch)
  | whileLoop {condition : Expr} {body : Stmt} (inside : IsNormal body) :
      IsNormal (.whileLoop condition body)

variable (bound : Nat)

theorem whileOnlyAll_eq_map (statements : List Stmt) :
    whileOnlyAll statements = statements.map whileOnly := by
  induction statements with
  | nil => rfl
  | cons first rest ih => rw [whileOnlyAll, ih, List.map_cons]

theorem splicedAll_eq_flatMap (statements : List Stmt) :
    splicedAll statements = statements.flatMap fun s => s.spliced.parts := by
  induction statements with
  | nil => rfl
  | cons first rest ih => rw [splicedAll, ih, List.flatMap_cons]

theorem whileOnly_branch (condition : Expr) (thenBranch : Stmt) (elseBranch : Option Stmt) :
    (branch condition thenBranch elseBranch).whileOnly =
      .branch condition thenBranch.whileOnly (elseBranch.map whileOnly) := by
  cases elseBranch <;> rfl

theorem spliced_branch (condition : Expr) (thenBranch : Stmt) (elseBranch : Option Stmt) :
    (branch condition thenBranch elseBranch).spliced =
      .branch condition thenBranch.spliced (elseBranch.map spliced) := by
  cases elseBranch <;> rfl

variable {σ : Type} [Sink σ]

/-- The parts of a statement run as the statement does. -/
theorem execAll_parts (s : Stmt) (m : Machine σ) : execAll bound s.parts m = exec bound s m := by
  cases s with
  | block statements => rfl
  | print | assign | assignField | branch | whileLoop | forLoop => exact execAll_singleton bound _ m

section Congruence

variable {change : Stmt → Stmt}

/-- Rows of statements run as the statements do that they are put in place of. -/
theorem execAll_flatMap {statements : List Stmt} {row : Stmt → List Stmt}
    (same : ∀ s ∈ statements, ∀ m : Machine σ, execAll bound (row s) m = exec bound s m) :
    ∀ m : Machine σ, execAll bound (statements.flatMap row) m = execAll bound statements m := by
  induction statements with
  | nil => exact fun m => rfl
  | cons first rest ih =>
      intro m
      have others := ih fun s member => same s (by simp [member])
      rw [List.flatMap_cons, execAll_append, execAll_cons, same first (by simp), funext others]

theorem execAll_map {statements : List Stmt}
    (same : ∀ s ∈ statements, ∀ m : Machine σ, exec bound (change s) m = exec bound s m)
    (m : Machine σ) : execAll bound (statements.map change) m = execAll bound statements m := by
  rw [List.map_eq_flatMap]
  apply execAll_flatMap
  intro s member m
  rw [execAll_singleton, same s member]

theorem exec_branch_map (condition : Expr) {thenBranch : Stmt} {elseBranch : Option Stmt}
    (thenSame : ∀ m : Machine σ, exec bound (change thenBranch) m = exec bound thenBranch m)
    (elseSame : ∀ s ∈ elseBranch, ∀ m : Machine σ, exec bound (change s) m = exec bound s m)
    (m : Machine σ) :
    exec bound (.branch condition (change thenBranch) (elseBranch.map change)) m =
      exec bound (.branch condition thenBranch elseBranch) m := by
  rw [exec_branch, exec_branch, thenSame]
  cases elseBranch with
  | none => rfl
  | some other => simp only [Option.map_some, Option.elim_some, elseSame other rfl]

theorem exec_forLoop_congr (condition : Expr) {init increment body : Stmt}
    (initSame : ∀ m : Machine σ, exec bound (change init) m = exec bound init m)
    (incrementSame : ∀ m : Machine σ, exec bound (change increment) m = exec bound increment m)
    (bodySame : ∀ m : Machine σ, exec bound (change body) m = exec bound body m) (m : Machine σ) :
    exec bound (.forLoop (change init) condition (change increment) (change body)) m =
      exec bound (.forLoop init condition increment body) m := by
  rw [exec_forLoop, exec_forLoop, initSame, funext incrementSame, funext bodySame]

end Congruence

/-- A counting loop is a conditional loop behind its first assignment, whose body ends with the
    other one. -/
theorem exec_unrolled (init : Stmt) (condition : Expr) (increment body : Stmt) (m : Machine σ) :
    exec bound (.block [init, .whileLoop condition (.block [body, increment])]) m =
      exec bound (.forLoop init condition increment body) m := by
  have round : ∀ m : Machine σ, exec bound (.block [body, increment]) m =
      (exec bound body m).andThen (exec bound increment) := by
    intro m
    rw [exec_block, execAll_cons, funext (execAll_singleton bound increment)]
  rw [exec_block, execAll_cons, funext (execAll_singleton bound _), exec_whileLoop, funext round,
    exec_forLoop]

/-- With conditional loops only, a statement runs as before. -/
theorem exec_whileOnly (s : Stmt) : ∀ m : Machine σ, exec bound s.whileOnly m = exec bound s m := by
  induction s using Stmt.induction with
  | print | assign | assignField => exact fun m => rfl
  | block statements ih =>
      intro m
      rw [whileOnly, whileOnlyAll_eq_map, exec_block, exec_block]
      exact execAll_map bound ih m
  | branch condition thenBranch elseBranch ihThen ihElse =>
      intro m
      rw [whileOnly_branch]
      exact exec_branch_map bound condition ihThen ihElse m
  | whileLoop condition body ih =>
      intro m
      rw [whileOnly, exec_whileLoop, exec_whileLoop, funext ih]
  | forLoop init condition increment body ihInit ihIncrement ihBody =>
      intro m
      rw [whileOnly, exec_unrolled]
      exact exec_forLoop_congr bound condition ihInit ihIncrement ihBody m

/-- Without blocks in blocks, a statement runs as before. -/
theorem exec_spliced (s : Stmt) : ∀ m : Machine σ, exec bound s.spliced m = exec bound s m := by
  induction s using Stmt.induction with
  | print | assign | assignField => exact fun m => rfl
  | block statements ih =>
      intro m
      rw [spliced, splicedAll_eq_flatMap, exec_block, exec_block]
      apply execAll_flatMap
      intro s member m
      rw [execAll_parts, ih s member]
  | branch condition thenBranch elseBranch ihThen ihElse =>
      intro m
      rw [spliced_branch]
      exact exec_branch_map bound condition ihThen ihElse m
  | whileLoop condition body ih =>
      intro m
      rw [spliced, exec_whileLoop, exec_whileLoop, funext ih]
  | forLoop init condition increment body ihInit ihIncrement ihBody =>
      exact exec_forLoop_congr bound condition ihInit ihIncrement ihBody

/-- The normal form runs as the statement does. -/
theorem exec_normalize (s : Stmt) (m : Machine σ) : exec bound s.normalize m = exec bound s m := by
  rw [normalize, exec_spliced, exec_whileOnly]

section NormalForm

variable {statements : List Stmt} {condition : Expr} {init increment body thenBranch : Stmt}
  {elseBranch : Option Stmt} {s : Stmt}

theorem normalize_block :
    (block statements).normalize = .block (statements.flatMap fun s => s.normalize.parts) := by
  rw [normalize, whileOnly, spliced, whileOnlyAll_eq_map, splicedAll_eq_flatMap, List.flatMap_map]
  rfl

theorem normalize_branch :
    (branch condition thenBranch elseBranch).normalize =
      .branch condition thenBranch.normalize (elseBranch.map normalize) := by
  rw [normalize, whileOnly_branch, spliced_branch, Option.map_map]
  rfl

theorem normalize_forLoop :
    (forLoop init condition increment body).normalize =
      (block [init, .whileLoop condition (.block [body, increment])]).normalize := rfl

/-- The parts of a normal form are normal, and none of them is a block. -/
theorem IsNormal.parts (normal : s.IsNormal) :
    ∀ part ∈ s.parts, part.IsNormal ∧ ∀ inner, part ≠ .block inner := by
  cases normal with
  | block noBlock inside => exact fun part member => ⟨inside part member, noBlock part member⟩
  | print e => simpa [Stmt.parts] using IsNormal.print e
  | assign name e => simpa [Stmt.parts] using IsNormal.assign name e
  | assignField object field e => simpa [Stmt.parts] using IsNormal.assignField object field e
  | branch thenNormal elseNormal => simpa [Stmt.parts] using IsNormal.branch thenNormal elseNormal
  | whileLoop inside => simpa [Stmt.parts] using IsNormal.whileLoop inside

theorem isNormal_normalize_block (inside : ∀ s ∈ statements, s.normalize.IsNormal) :
    (block statements).normalize.IsNormal := by
  rw [normalize_block]
  have parts : ∀ part ∈ statements.flatMap fun s => s.normalize.parts,
      part.IsNormal ∧ ∀ inner, part ≠ .block inner := by
    intro part member
    obtain ⟨s, among, member⟩ := List.mem_flatMap.mp member
    exact (inside s among).parts part member
  exact .block (fun part member => (parts part member).2) fun part member => (parts part member).1

/-- Nothing is left of counting loops and of blocks in blocks. -/
theorem isNormal_normalize (s : Stmt) : s.normalize.IsNormal := by
  induction s using Stmt.induction with
  | print e => exact .print e
  | assign name e => exact .assign name e
  | assignField object field e => exact .assignField object field e
  | block statements ih => exact isNormal_normalize_block ih
  | branch condition thenBranch elseBranch ihThen ihElse =>
      rw [normalize_branch]
      apply IsNormal.branch ihThen
      intro s member
      obtain ⟨other, found, rfl⟩ := Option.map_eq_some_iff.mp member
      exact ihElse other found
  | whileLoop condition body ih => exact .whileLoop ih
  | forLoop init condition increment body ihInit ihIncrement ihBody =>
      have round : (block [body, increment]).normalize.IsNormal :=
        isNormal_normalize_block (by simp [ihBody, ihIncrement])
      have loop : (whileLoop condition (.block [body, increment])).normalize.IsNormal :=
        .whileLoop round
      rw [normalize_forLoop]
      exact isNormal_normalize_block (by simp [ihInit, loop])

end NormalForm

/-- Normalisation preserves every run, into every sink. The normal form of a statement has no
    counting loop and no block in a block, its run is the same with every bound on rounds, and so it
    ends on a machine just if the statement does, in the same way: done or failed with the same
    error, with the same store and the same sink. -/
theorem ends_normalize_iff (s : Stmt) :
    s.normalize.IsNormal ∧
      (∀ bound (m : Machine σ), exec bound s.normalize m = exec bound s m) ∧
      ∀ (m : Machine σ) run, s.normalize.Ends m run ↔ s.Ends m run := by
  refine ⟨isNormal_normalize s, fun bound m => by rw [exec_normalize], fun m run => ?_⟩
  simp only [Ends, exec_normalize]

/-- The loop `for (x = 1; x; x = 2) { {} print x }` in a block. -/
example (one two : Float) :
    (block [.forLoop (.assign "x" (.number one)) (.var "x") (.assign "x" (.number two))
      (.block [.block [], .print (.var "x")])]).normalize =
    .block [.assign "x" (.number one),
      .whileLoop (.var "x") (.block [.print (.var "x"), .assign "x" (.number two)])] := by
  rfl

end Kiss.Stmt
