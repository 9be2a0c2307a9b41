import Kiss.Execution
import Kiss.Parser.Basic
import Kiss.Token.Lexer

/-!
# Programs

From a source text to a run: the text is cut into tokens, the tokens are read as a program,
and the program runs on a machine of its own. The first stage that fails ends it.
-/

namespace Kiss

/-- The failure of one of the stages. -/
inductive Failure where
  | lexing (e : LexError)
  | parsing (e : ParseError)
  | evaluation (e : EvalError)
  deriving DecidableEq, Repr

/-- The wording of a failure, which names its stage. -/
def Failure.message : Failure → String
  | .lexing e => "Lexer error: " ++ e.message
  | .parsing e => "Parse error: " ++ e.message
  | .evaluation e => "Runtime error: " ++ e.message

/-- The program that a source text holds. -/
def readProgram (source : String) : Except Failure Stmt :=
  match tokenize source with
  | .error e => .error (.lexing e)
  | .ok tokens =>
      match parse tokens with
      | .error e => .error (.parsing e)
      | .ok program => .ok program

/-- Runs the program that a source text holds, on a new store, with a bound on the rounds of
    its loops. A text that holds no program is not run. -/
def run {σ : Type} [Sink σ] (bound : Nat) (source : String) (sink : σ) : Except Failure (Run σ) :=
  (readProgram source).map fun program => exec bound program (.start sink)

end Kiss
