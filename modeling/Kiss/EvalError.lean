import Kiss.Sink
import Kiss.Syntax.Basic
import Kiss.Value

/-!
# Errors of evaluation

The ways in which a program can fail while it runs, each with what is needed to say why.
-/

namespace Kiss

/-- Why a program fails while it runs. -/
inductive EvalError where
  | undefinedVariable (name : String)
  | notAnObject (name : String) (found : ValueKind)
  | missingField (object field : String)
  | notANumber (found : ValueKind)
  | unsupportedOperands (op : BinaryOp) (left right : ValueKind)
  | output (cause : IoError)
  deriving DecidableEq, Repr

/-- The wording of an error. -/
def EvalError.message : EvalError → String
  | .undefinedVariable name => "Undefined variable '" ++ name ++ "'"
  | .notAnObject name found =>
      "Type error: '" ++ name ++ "' is " ++ found.name ++ ", not an object"
  | .missingField object field => "Object '" ++ object ++ "' has no field '" ++ field ++ "'"
  | .notANumber found => "Type error: expected number, got " ++ found.name
  | .unsupportedOperands op left right =>
      "Type error: cannot apply '" ++ op.symbol ++ "' to " ++ left.name ++ " and " ++ right.name
  | .output cause => "Cannot write program output: " ++ cause.text

end Kiss
