import Kiss.Evaluation

/-!
# Execution

Running a statement on a machine: a store and a sink of any type. A run is given a bound on the
rounds of every loop, so that it always comes to something: it is done, or it has failed with an
error and the machine as the failure left it, or some loop has used up its rounds. A program ends
if there is a bound under which it does not run out of rounds.
-/

namespace Kiss

/-- The state of a running program. -/
structure Machine (σ : Type) where
  store : Store
  sink : σ

/-- What a run comes to. -/
inductive Run (σ : Type) where
  | done (m : Machine σ)
  | failed (e : EvalError) (m : Machine σ)
  | outOfRounds

variable {σ : Type}

/-- Goes on with the machine of a run that is done. -/
def Run.andThen (run : Run σ) (next : Machine σ → Run σ) : Run σ :=
  match run with
  | .done m => next m
  | .failed e m => .failed e m
  | .outOfRounds => .outOfRounds

namespace Machine

/-- A machine before its first program. -/
def start (sink : σ) : Machine σ := ⟨.empty, sink⟩

/-- The condition of a branch or loop. -/
def holds (m : Machine σ) (condition : Expr) : Except EvalError Bool :=
  (eval m.store condition).map Value.isTruthy

/-- Prints a value. -/
def print [Sink σ] (m : Machine σ) (value : Value) : Run σ :=
  match Sink.print m.sink value.pieces with
  | (.ok (), sink) => .done { m with sink }
  | (.error e, sink) => .failed (.output e) { m with sink }

/-- Assigns a variable. -/
def assign (m : Machine σ) (name : String) (value : Value) : Run σ :=
  .done { m with store := m.store.set (.ofVariable name) value }

/-- Assigns a field of the object that a variable holds. -/
def assignField (m : Machine σ) (object field : String) (value : Value) : Run σ :=
  match m.store.setField object (.ofField field) value with
  | (.ok (), store) => .done { m with store }
  | (.error e, store) => .failed e { m with store }

/-- Goes on with the value of an expression. -/
def withValue (m : Machine σ) (e : Expr) (next : Value → Run σ) : Run σ :=
  match eval m.store e with
  | .ok value => next value
  | .error failure => .failed failure m

end Machine

/-- Repeats rounds while the condition holds. The condition is evaluated at most `bound`
    times. -/
def repeatWhile (condition : Expr) (round : Machine σ → Run σ) (bound : Nat) (m : Machine σ) :
    Run σ :=
  match bound with
  | 0 => .outOfRounds
  | bound + 1 =>
      match m.holds condition with
      | .error e => .failed e m
      | .ok false => .done m
      | .ok true =>
          match round m with
          | .done m => repeatWhile condition round bound m
          | other => other

variable [Sink σ]

mutual

/-- Runs a statement, each loop in it for fewer than `bound` rounds at a time. -/
def exec (bound : Nat) : Stmt → Machine σ → Run σ
  | .print e, m => m.withValue e fun value => m.print value
  | .assign name e, m => m.withValue e fun value => m.assign name value
  | .assignField object field e, m => m.withValue e fun value => m.assignField object field value
  | .block statements, m => execAll bound statements m
  | .branch condition thenBranch elseBranch, m =>
      match m.holds condition, elseBranch with
      | .error e, _ => .failed e m
      | .ok true, _ => exec bound thenBranch m
      | .ok false, none => .done m
      | .ok false, some elseBranch => exec bound elseBranch m
  | .whileLoop condition body, m => repeatWhile condition (exec bound body) bound m
  | .forLoop init condition increment body, m =>
      (exec bound init m).andThen fun m =>
        repeatWhile condition (fun m => (exec bound body m).andThen (exec bound increment)) bound m
termination_by structural statement => statement

/-- Runs statements one behind the other, up to the first that fails. -/
def execAll (bound : Nat) : List Stmt → Machine σ → Run σ
  | [], m => .done m
  | first :: rest, m =>
      match exec bound first m with
      | .done m => execAll bound rest m
      | other => other
termination_by structural statements => statements

end

end Kiss
