import Kiss.Json
import Kiss.Syntax.Basic

/-!
# Syntax trees as JSON

A node is an object with one field, whose name is the kind of the node and whose value holds
its parts. What has no parts is a string.
-/

namespace Kiss

/-- A node with its parts. -/
def Json.node (kind : String) (parts : List (String × Json)) : Json :=
  .object [(kind, .object parts)]

/-- An operation with its operator and operands; each family of operators has a kind of its
    own. -/
def BinaryOp.toJson (op : BinaryOp) (left right : Json) : Json :=
  let node (kind name : String) : Json :=
    .node kind [("op", .string name), ("left", left), ("right", right)]
  match op with
  | .arithmetic op => node "Binary" op.name
  | .comparison op => node "Conditional" op.name
  | .logical op => node "Logical" op.name

/-- An expression as JSON. -/
def Expr.toJson : Expr → Json
  | .number value => .node "NumberLiteral" [("value", .number value)]
  | .text value => .node "StringLiteral" [("value", .string value)]
  | .bool value => .node "BoolLiteral" [("value", .bool value)]
  | .emptyObject => .string "ObjectLiteral"
  | .var name => .node "Variable" [("name", .string name)]
  | .field object name =>
      .node "FieldAccess" [("object", .string object), ("field", .string name)]
  | .unary op operand =>
      .node "Unary" [("op", .string op.name), ("operand", operand.toJson)]
  | .binary op left right => op.toJson left.toJson right.toJson

namespace Stmt

mutual

/-- A statement as JSON. A missing branch is null. -/
def toJson : Stmt → Json
  | .print value => .node "Print" [("expr", value.toJson)]
  | .assign name value => .node "Assignment" [("name", .string name), ("value", value.toJson)]
  | .assignField object field value =>
      .node "FieldAssignment"
        [("object", .string object), ("field", .string field), ("value", value.toJson)]
  | .block statements => .node "Block" [("statements", .array (allToJson statements))]
  | .branch condition thenBranch none =>
      .node "If"
        [("condition", condition.toJson), ("then_branch", toJson thenBranch),
         ("else_branch", .null)]
  | .branch condition thenBranch (some elseBranch) =>
      .node "If"
        [("condition", condition.toJson), ("then_branch", toJson thenBranch),
         ("else_branch", toJson elseBranch)]
  | .whileLoop condition body =>
      .node "While" [("condition", condition.toJson), ("body", toJson body)]
  | .forLoop init condition increment body =>
      .node "For"
        [("init", toJson init), ("condition", condition.toJson),
         ("increment", toJson increment), ("body", toJson body)]

/-- Several statements as JSON. -/
def allToJson : List Stmt → List Json
  | [] => []
  | first :: rest => toJson first :: allToJson rest

end

end Stmt

end Kiss
