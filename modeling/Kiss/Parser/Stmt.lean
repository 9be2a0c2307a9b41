import Kiss.Parser.Expr

/-!
# Reading statements

Statements stand one behind the other, with nothing between them. The first token decides
which statement it is; only the two assignments, which both begin with a name, take a look
at the tokens behind it. Every statement is one level deeper than its place, braces add
nothing, and an `else` belongs to the nearest `if`.

What stands inside a statement is read by the reader of the next level, so a statement is
defined by recursion on the levels that are still free. A reader comes with the promise that
what it reads takes tokens, which is why the rows of statements in blocks and programs end.
-/

namespace Kiss.Parser

/-- An assignment to a variable or to a field. -/
def assignment (depth : Nat) (ts : List Token) : Outcome Stmt :=
  match ts with
  | ⟨.word, name, _⟩ :: ⟨.symbol .assign, _, _⟩ :: rest =>
      (expression depth rest).map (.assign name)
  | ⟨.word, object, _⟩ :: ⟨.symbol .dot, _, _⟩ :: ⟨.word, field, _⟩ ::
      ⟨.symbol .assign, _, _⟩ :: rest =>
      (expression depth rest).map (.assignField object field)
  | _ => failHere .unknownStatement depth ts

/-- The head of a counting loop in its parentheses: the assignment before the first round,
    the condition, and the assignment after each round. -/
def forHead (depth : Nat) (ts : List Token) : Outcome (Stmt × Expr × Stmt) :=
  (expect (.symbol .leftParen) depth ts).andThen fun _ rest =>
  (assignment depth rest).andThen fun init rest =>
  (expect (.symbol .semicolon) depth rest).andThen fun _ rest =>
  (expression depth rest).andThen fun condition rest =>
  (expect (.symbol .semicolon) depth rest).andThen fun _ rest =>
  (assignment depth rest).andThen fun increment rest =>
  (expect (.symbol .rightParen) depth rest).map fun _ => (init, condition, increment)

/-- A way to read the statements of one level. Each takes two tokens or more. -/
structure Reader where
  read : List Token → Outcome Stmt
  takes : ∀ ts, (read ts).Takes 2 ts

namespace Reader

variable (reader : Reader) (depth : Nat)

/-- What is left behind a statement is shorter. -/
theorem shortens {ts rest : List Token} {statement : Stmt}
    (done : reader.read ts = .ok statement rest) : rest.length < ts.length := by
  have takes := reader.takes ts
  rw [done] at takes
  simp only [Outcome.Takes] at takes
  omega

/-- The statements of a block behind its opening brace, and the closing brace. Those already
    read are given in reverse order. -/
def blockRest (found : List Stmt) (ts : List Token) : Outcome Stmt :=
  match frontKind ts with
  | .symbol .rightBrace => .ok (.block found.reverse) ts.tail
  | .endOfInput => failHere .unclosedBlock depth ts
  | _ =>
      match _done : reader.read ts with
      | .fail fault rest reached => .fail fault rest reached
      | .ok next rest => blockRest (next :: found) rest
termination_by ts.length
decreasing_by exact reader.shortens _done

/-- The body of another statement: a block in braces, or a single statement. -/
def body (ts : List Token) : Outcome Stmt :=
  match frontKind ts with
  | .symbol .leftBrace => reader.blockRest depth [] ts.tail
  | _ => reader.read ts

/-- What follows the condition and the first branch of an `if`. -/
def elseBranch (condition : Expr) (thenBranch : Stmt) (ts : List Token) : Outcome Stmt :=
  match frontKind ts with
  | .keyword .elseWord =>
      (reader.body depth ts.tail).map fun other => .branch condition thenBranch (some other)
  | _ => .ok (.branch condition thenBranch none) ts

/-- A statement whose parts stand at the given depth, and in which the reader reads other
    statements. -/
def unnested (ts : List Token) : Outcome Stmt :=
  match frontKind ts with
  | .keyword .printWord => (expression depth ts.tail).map .print
  | .keyword .ifWord =>
      (expression depth ts.tail).andThen fun condition rest =>
      (reader.body depth rest).andThen fun thenBranch rest =>
        reader.elseBranch depth condition thenBranch rest
  | .keyword .whileWord =>
      (expression depth ts.tail).andThen fun condition rest =>
        (reader.body depth rest).map (.whileLoop condition)
  | .keyword .forWord =>
      (forHead depth ts.tail).andThen fun (init, condition, increment) rest =>
        (reader.body depth rest).map (.forLoop init condition increment)
  | _ => assignment depth ts

end Reader

theorem assignment_takes (depth : Nat) (ts : List Token) : (assignment depth ts).Takes 3 ts := by
  simp only [assignment]
  split
  · exact ((expression_takes _ _).map.cons (by simp)).cons (by simp)
  · exact (((((expression_takes _ _).map.cons (by simp)).cons (by simp)).cons (by simp)).cons
      (by simp)).mono (by omega)
  · trivial

theorem forHead_takes (depth : Nat) (ts : List Token) : (forHead depth ts).Takes 1 ts :=
  ((expect_takes _ _ _).andThen fun _ _ =>
    ((assignment_takes _ _).andThen fun _ _ =>
    (expect_takes _ _ _).andThen fun _ _ =>
    (expression_takes _ _).andThen fun _ _ =>
    (expect_takes _ _ _).andThen fun _ _ =>
    (assignment_takes _ _).andThen fun _ _ => (expect_takes _ _ _).map)).mono (by omega)

namespace Reader

variable (reader : Reader) (depth : Nat)

theorem blockRest_takes (found : List Stmt) (ts : List Token) :
    (reader.blockRest depth found ts).Takes 1 ts := by
  fun_induction blockRest reader depth found ts with
  | case1 found ts closing =>
      exact (ok_takes _ _).cons (ne_nil_of_frontKind closing (by decide))
  | case2 => trivial
  | case3 => trivial
  | case4 found ts next rest done _ _ more =>
      have shorter := reader.shortens done
      cases result : reader.blockRest depth (next :: found) rest with
      | fail => trivial
      | ok _ left =>
          simp only [result, Outcome.Takes] at more ⊢
          omega

theorem body_takes (ts : List Token) : (reader.body depth ts).Takes 2 ts := by
  simp only [body]
  split
  · rename_i opening
    exact (reader.blockRest_takes depth [] ts.tail).cons
      (ne_nil_of_frontKind opening (by decide))
  · exact reader.takes ts

theorem elseBranch_takes (condition : Expr) (thenBranch : Stmt) (ts : List Token) :
    (reader.elseBranch depth condition thenBranch ts).Takes 0 ts := by
  simp only [elseBranch]
  split
  · rename_i other
    exact ((reader.body_takes _ _).map.cons (ne_nil_of_frontKind other (by decide))).mono
      (Nat.zero_le _)
  · exact Nat.le_refl _

/-- Every statement takes two tokens or more, whatever the reader inside it reads. -/
theorem unnested_takes (ts : List Token) : (reader.unnested depth ts).Takes 2 ts := by
  simp only [unnested]
  split
  · rename_i front
    exact (expression_takes _ _).map.cons (ne_nil_of_frontKind front (by decide))
  · rename_i front
    exact (((expression_takes _ _).andThen fun _ _ =>
      (reader.body_takes _ _).andThen fun _ _ => reader.elseBranch_takes _ _ _ _).cons
        (ne_nil_of_frontKind front (by decide))).mono (by omega)
  · rename_i front
    exact (((expression_takes _ _).andThen fun _ _ => (reader.body_takes _ _).map).cons
      (ne_nil_of_frontKind front (by decide))).mono (by omega)
  · rename_i front
    exact (((forHead_takes _ _).andThen fun _ _ => (reader.body_takes _ _).map).cons
      (ne_nil_of_frontKind front (by decide))).mono (by omega)
  · exact (assignment_takes _ _).mono (by omega)

/-- The reader of a level that is too deep. -/
def beyond : Reader where
  read := tooDeep depth
  takes := fun _ => trivial

/-- The reader of a level whose parts stand one level deeper. -/
def above : Reader where
  read := fun ts => (reader.unnested (depth + 1) ts).leave
  takes := fun ts => (reader.unnested_takes (depth + 1) ts).leave

end Reader

/-- The reader of the statements that stand at a depth, with so many levels free from there
    on. -/
def readerAt (depth : Nat) : Nat → Reader
  | 0 => .beyond depth
  | free + 1 => (readerAt (depth + 1) free).above depth

/-- A statement, one level deeper than its place. -/
def statement (depth : Nat) (ts : List Token) : Outcome Stmt :=
  (readerAt depth (maxDepth - depth)).read ts

/-- The statements of a program up to the end of the input, which is taken as well. Those
    already read are given in reverse order. -/
def program (depth : Nat) (found : List Stmt) (ts : List Token) : Outcome Stmt :=
  match frontKind ts with
  | .endOfInput => .ok (.block found.reverse) ts.tail
  | _ =>
      match _done : statement depth ts with
      | .fail fault rest reached => .fail fault rest reached
      | .ok next rest => program depth (next :: found) rest
termination_by ts.length
decreasing_by exact (readerAt depth (maxDepth - depth)).shortens _done

end Kiss.Parser
