/-!
# Syntax trees

The expressions and statements of the language. A tree says nothing about layout,
parentheses or positions; a program is one block.
-/

namespace Kiss

/-- Operators with one operand. -/
inductive UnaryOp where
  | negate
  | not
  deriving DecidableEq, Repr

/-- Operators that compute a number from two; `add` also joins texts. `xor` works on the
    bits of the whole parts. -/
inductive ArithmeticOp where
  | add
  | subtract
  | multiply
  | divide
  | xor
  deriving DecidableEq, Repr

/-- Operators that compare two numbers or two texts. -/
inductive ComparisonOp where
  | equal
  | less
  | greater
  | lessOrEqual
  | greaterOrEqual
  deriving DecidableEq, Repr

/-- Operators on truth values. `and` and `or` leave out the right side if the left one
    decides; `strictAnd` and `strictOr` evaluate both. -/
inductive LogicalOp where
  | and
  | or
  | strictAnd
  | strictOr
  deriving DecidableEq, Repr

/-- Operators with two operands. -/
inductive BinaryOp where
  | arithmetic (op : ArithmeticOp)
  | comparison (op : ComparisonOp)
  | logical (op : LogicalOp)
  deriving DecidableEq, Repr

/-- Expressions. Names are looked up when the expression is evaluated. -/
inductive Expr where
  | number (value : Float)
  | text (value : String)
  | bool (value : Bool)
  | emptyObject
  | var (name : String)
  | field (object name : String)
  | unary (op : UnaryOp) (operand : Expr)
  | binary (op : BinaryOp) (left right : Expr)
  deriving DecidableEq

/-- Statements. A program that was read from tokens has blocks only as the branches and
    bodies of other statements and as its root, and only assignments in the head of a
    counting loop. -/
inductive Stmt where
  | print (value : Expr)
  | assign (name : String) (value : Expr)
  | assignField (object field : String) (value : Expr)
  | block (statements : List Stmt)
  | branch (condition : Expr) (thenBranch : Stmt) (elseBranch : Option Stmt)
  | whileLoop (condition : Expr) (body : Stmt)
  | forLoop (init : Stmt) (condition : Expr) (increment body : Stmt)

namespace UnaryOp

/-- The spelling of an operator. -/
def symbol : UnaryOp → String
  | .negate => "-"
  | .not => "!"

/-- The name of an operator in JSON documents. -/
def name : UnaryOp → String
  | .negate => "Negate"
  | .not => "Not"

end UnaryOp

namespace ArithmeticOp

/-- The spelling of an operator. -/
def symbol : ArithmeticOp → String
  | .add => "+"
  | .subtract => "-"
  | .multiply => "*"
  | .divide => "/"
  | .xor => "^"

/-- The name of an operator in JSON documents. -/
def name : ArithmeticOp → String
  | .add => "Add"
  | .subtract => "Subtract"
  | .multiply => "Multiply"
  | .divide => "Divide"
  | .xor => "Xor"

end ArithmeticOp

namespace ComparisonOp

/-- The spelling of an operator. -/
def symbol : ComparisonOp → String
  | .equal => "=="
  | .less => "<"
  | .greater => ">"
  | .lessOrEqual => "<="
  | .greaterOrEqual => ">="

/-- The name of an operator in JSON documents. -/
def name : ComparisonOp → String
  | .equal => "Equal"
  | .less => "Lower"
  | .greater => "Greater"
  | .lessOrEqual => "LowerOrEqual"
  | .greaterOrEqual => "GreaterOrEqual"

end ComparisonOp

namespace LogicalOp

/-- The spelling of an operator. -/
def symbol : LogicalOp → String
  | .and => "&&"
  | .or => "||"
  | .strictAnd => "&"
  | .strictOr => "|"

/-- The name of an operator in JSON documents. -/
def name : LogicalOp → String
  | .and => "And"
  | .or => "Or"
  | .strictAnd => "BitAnd"
  | .strictOr => "BitOr"

end LogicalOp

/-- The spelling of an operator. -/
def BinaryOp.symbol : BinaryOp → String
  | .arithmetic op => op.symbol
  | .comparison op => op.symbol
  | .logical op => op.symbol

/-- What kind of statement a tree is. -/
def Stmt.kind : Stmt → String
  | .print _ => "print"
  | .assign _ _ => "assignment"
  | .assignField _ _ _ => "field assignment"
  | .block _ => "block"
  | .branch _ _ _ => "if"
  | .whileLoop _ _ => "while"
  | .forLoop _ _ _ _ => "for"

end Kiss
