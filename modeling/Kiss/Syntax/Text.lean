import Kiss.Number.Text
import Kiss.Syntax.Basic
import Kiss.Text.Quoted

/-!
# The text of a syntax tree

An expression is written on one line with every binary operation in parentheses, so the
shape of the tree shows. A statement takes one line or more, and what it contains is indented
by two blanks.
-/

namespace Kiss

/-- The text of an expression. -/
def Expr.render : Expr → String
  | .number value => Number.plain value
  | .text value => Text.quoted value
  | .bool value => if value then "true" else "false"
  | .emptyObject => "\x7b\x7d"
  | .var name => name
  | .field object name => object ++ "." ++ name
  | .unary op operand => op.symbol ++ operand.render
  | .binary op left right => "(" ++ left.render ++ " " ++ op.symbol ++ " " ++ right.render ++ ")"

namespace Stmt

/-- A line at a level of indentation. -/
def indented (level : Nat) (line : String) : String :=
  String.ofList (List.replicate (2 * level) ' ') ++ line

mutual

/-- The lines of a statement at a level of indentation. -/
def lines (level : Nat) : Stmt → List String
  | .print value => [indented level ("print " ++ value.render)]
  | .assign name value => [indented level (name ++ " = " ++ value.render)]
  | .assignField object field value =>
      [indented level (object ++ "." ++ field ++ " = " ++ value.render)]
  | .block statements =>
      indented level "\x7b" :: linesOfAll (level + 1) statements ++ [indented level "\x7d"]
  | .branch condition thenBranch none =>
      indented level ("if " ++ condition.render) :: lines (level + 1) thenBranch
  | .branch condition thenBranch (some elseBranch) =>
      indented level ("if " ++ condition.render) :: lines (level + 1) thenBranch ++
        indented level "else" :: lines (level + 1) elseBranch
  | .whileLoop condition body =>
      indented level ("while " ++ condition.render) :: lines (level + 1) body
  | .forLoop init condition increment body =>
      indented level "for" :: lines (level + 1) init ++
        indented (level + 1) ("; " ++ condition.render) :: lines (level + 1) increment ++
        lines (level + 1) body

/-- The lines of several statements, one behind the other. -/
def linesOfAll (level : Nat) : List Stmt → List String
  | [] => []
  | first :: rest => lines level first ++ linesOfAll level rest

end

/-- The text of a statement; every line ends with a newline. -/
def render (statement : Stmt) : String :=
  String.join ((statement.lines 0).map fun line => line ++ "\n")

end Stmt

end Kiss
