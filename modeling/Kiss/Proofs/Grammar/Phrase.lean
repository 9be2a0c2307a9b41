import Kiss.Parser.Basic

/-!
# The grammar of the language

A phrase is a derivation in the grammar, with the tokens that it is made of. What it derives
is its part of the grammar: a primary expression, a chain of a level, a statement, and so on.
`tokens` is what a phrase reads as from left to right, `tree?` is the syntax tree that it
stands for, and `reach` is the deepest level to which it nests. Nothing here knows of the
parser: the operators of each level are listed a second time, and repetition is recursion to
the left, which is what folds every chain to the left.

An `else` belongs to the nearest open `if`. The grammar says so by telling statements that end
in an `if` without an `else` from the others: only the others may stand in front of an `else`.
-/

namespace Kiss.Grammar

open Kiss.Parser (Level)

/-- A token of a given kind. -/
structure Terminal (kind : TokenKind) where
  token : Token
  hasKind : token.kind = kind

/-- The kind of a terminal is known; its value and its position are free. -/
theorem Terminal.token_eq {kind : TokenKind} (t : Terminal kind) :
    t.token = ⟨kind, t.token.value, t.token.position⟩ :=
  congrArg (fun k => Token.mk k t.token.value t.token.position) t.hasKind

/-- The parts of an expression. A run of a level is what its repeating operators join; a
    chain is a whole expression of the level. -/
inductive ExprPart where
  | primary
  | unary
  | run (level : Level)
  | chain (level : Level)

/-- What the operators of a level stand between. -/
def operandOf : Level → ExprPart
  | .sum => .chain .comparison
  | .comparison => .chain .product
  | .product => .chain .disjunction
  | .disjunction => .chain .conjunction
  | .conjunction => .unary

/-- The operators that may join any number of operands of a level. -/
def joiners : Level → List (Symbol × BinaryOp)
  | .sum => [(.plus, .arithmetic .add), (.minus, .arithmetic .subtract)]
  | .comparison =>
      [(.equal, .comparison .equal), (.less, .comparison .less),
       (.greater, .comparison .greater), (.lessOrEqual, .comparison .lessOrEqual),
       (.greaterOrEqual, .comparison .greaterOrEqual)]
  | .product =>
      [(.star, .arithmetic .multiply), (.caret, .arithmetic .xor), (.slash, .arithmetic .divide)]
  | .disjunction => [(.doubleOr, .logical .or)]
  | .conjunction => [(.doubleAnd, .logical .and)]

/-- The derivations of expressions. A single `|` may end a disjunction with one more operand,
    and a single `&` may end a conjunction with another conjunction. -/
inductive ExprPhrase : ExprPart → Type where
  | number (literal : Terminal .number) : ExprPhrase .primary
  | hexNumber (literal : Terminal .hexNumber) : ExprPhrase .primary
  | text (literal : Terminal .text) : ExprPhrase .primary
  | trueWord (word : Terminal (.keyword .trueWord)) : ExprPhrase .primary
  | falseWord (word : Terminal (.keyword .falseWord)) : ExprPhrase .primary
  | var (name : Terminal .word) : ExprPhrase .primary
  | field (object : Terminal .word) (dot : Terminal (.symbol .dot)) (name : Terminal .word) :
      ExprPhrase .primary
  | emptyObject (left : Terminal (.symbol .leftBrace)) (right : Terminal (.symbol .rightBrace)) :
      ExprPhrase .primary
  | group (left : Terminal (.symbol .leftParen)) (inner : ExprPhrase (.chain .sum))
      (right : Terminal (.symbol .rightParen)) : ExprPhrase .primary
  | bare (inner : ExprPhrase .primary) : ExprPhrase .unary
  | positive (sign : Terminal (.symbol .plus)) (inner : ExprPhrase .primary) : ExprPhrase .unary
  | negated (sign : Terminal (.symbol .minus)) (inner : ExprPhrase .primary) : ExprPhrase .unary
  | inverted (sign : Terminal (.symbol .bang)) (inner : ExprPhrase .primary) : ExprPhrase .unary
  | operand {level : Level} (inner : ExprPhrase (operandOf level)) : ExprPhrase (.run level)
  | joined {level : Level} {symbol : Symbol} (op : BinaryOp) (left : ExprPhrase (.run level))
      (operator : Terminal (.symbol symbol)) (joins : (symbol, op) ∈ joiners level)
      (right : ExprPhrase (operandOf level)) : ExprPhrase (.run level)
  | whole {level : Level} (inner : ExprPhrase (.run level)) : ExprPhrase (.chain level)
  | strictOr (left : ExprPhrase (.run .disjunction)) (operator : Terminal (.symbol .singleOr))
      (right : ExprPhrase (.chain .conjunction)) : ExprPhrase (.chain .disjunction)
  | strictAnd (left : ExprPhrase (.run .conjunction)) (operator : Terminal (.symbol .singleAnd))
      (right : ExprPhrase (.chain .conjunction)) : ExprPhrase (.chain .conjunction)

/-- A whole expression, as it stands in a statement or in parentheses. -/
abbrev Expression := ExprPhrase (.chain .sum)

namespace ExprPhrase

/-- The tokens of an expression. -/
@[simp]
def tokens : {part : ExprPart} → ExprPhrase part → List Token
  | _, .number literal => [literal.token]
  | _, .hexNumber literal => [literal.token]
  | _, .text literal => [literal.token]
  | _, .trueWord word => [word.token]
  | _, .falseWord word => [word.token]
  | _, .var name => [name.token]
  | _, .field object dot name => [object.token, dot.token, name.token]
  | _, .emptyObject left right => [left.token, right.token]
  | _, .group left inner right => left.token :: (inner.tokens ++ [right.token])
  | _, .bare inner => inner.tokens
  | _, .positive sign inner => sign.token :: inner.tokens
  | _, .negated sign inner => sign.token :: inner.tokens
  | _, .inverted sign inner => sign.token :: inner.tokens
  | _, .operand inner => inner.tokens
  | _, .joined _ left operator _ right => left.tokens ++ operator.token :: right.tokens
  | _, .whole inner => inner.tokens
  | _, .strictOr left operator right => left.tokens ++ operator.token :: right.tokens
  | _, .strictAnd left operator right => left.tokens ++ operator.token :: right.tokens

/-- The tree of two operands and the operator between them. -/
def pair (op : BinaryOp) (left right : Option Expr) : Option Expr :=
  left.bind fun left => right.map (.binary op left)

/-- The tree of an expression; there is none if a literal denotes no number. Parentheses and
    a plus in front leave no trace. -/
@[simp]
def tree? : {part : ExprPart} → ExprPhrase part → Option Expr
  | _, .number literal => (Number.read? literal.token.value).map .number
  | _, .hexNumber literal =>
      (Number.readHex? literal.token.value).map fun value => .number (Number.ofInt value)
  | _, .text literal => some (.text literal.token.value)
  | _, .trueWord _ => some (.bool true)
  | _, .falseWord _ => some (.bool false)
  | _, .var name => some (.var name.token.value)
  | _, .field object _ name => some (.field object.token.value name.token.value)
  | _, .emptyObject _ _ => some .emptyObject
  | _, .group _ inner _ => inner.tree?
  | _, .bare inner => inner.tree?
  | _, .positive _ inner => inner.tree?
  | _, .negated _ inner => inner.tree?.map (.unary .negate)
  | _, .inverted _ inner => inner.tree?.map (.unary .not)
  | _, .operand inner => inner.tree?
  | _, .joined op left _ _ right => pair op left.tree? right.tree?
  | _, .whole inner => inner.tree?
  | _, .strictOr left _ right => pair (.logical .strictOr) left.tree? right.tree?
  | _, .strictAnd left _ right => pair (.logical .strictAnd) left.tree? right.tree?

/-- The number of operators that a run has. -/
@[simp]
def operators : {part : ExprPart} → ExprPhrase part → Nat
  | _, .joined _ left _ _ _ => left.operators + 1
  | _, _ => 0

/-- The deepest level that is reached in an expression that stands at a level. Parentheses
    are one level deeper than their place; the right side of the `i`-th operator of a chain
    stands `i` levels above the beginning of the chain, and a single `|` adds nothing. -/
@[simp]
def reach : {part : ExprPart} → ExprPhrase part → Nat → Nat
  | _, .group _ inner _, depth => inner.reach (depth + 1)
  | _, .bare inner, depth => inner.reach depth
  | _, .positive _ inner, depth => inner.reach depth
  | _, .negated _ inner, depth => inner.reach depth
  | _, .inverted _ inner, depth => inner.reach depth
  | _, .operand inner, depth => inner.reach depth
  | _, .joined _ left _ _ right, depth =>
      max (left.reach depth) (right.reach (depth + left.operators + 1))
  | _, .whole inner, depth => inner.reach depth
  | _, .strictOr left _ right, depth =>
      max (left.reach depth) (right.reach (depth + left.operators))
  | _, .strictAnd left _ right, depth =>
      max (left.reach depth) (right.reach (depth + left.operators + 1))
  | _, _, depth => depth

end ExprPhrase

/-- Whether a statement ends in an `if` that an `else` behind it would belong to. -/
inductive Ending where
  | closed
  | openIf

/-- The parts of a program. A body is the branch of an `if` or the body of a loop. -/
inductive StmtPart where
  | assignment
  | statement (ending : Ending)
  | body (ending : Ending)
  | statements

/-- The derivations of statements. -/
inductive StmtPhrase : StmtPart → Type where
  | assign (name : Terminal .word) (sign : Terminal (.symbol .assign)) (value : Expression) :
      StmtPhrase .assignment
  | assignField (object : Terminal .word) (dot : Terminal (.symbol .dot))
      (field : Terminal .word) (sign : Terminal (.symbol .assign)) (value : Expression) :
      StmtPhrase .assignment
  | print (word : Terminal (.keyword .printWord)) (value : Expression) :
      StmtPhrase (.statement .closed)
  | assignment (inner : StmtPhrase .assignment) : StmtPhrase (.statement .closed)
  | ifThen {ending : Ending} (word : Terminal (.keyword .ifWord)) (condition : Expression)
      (thenBody : StmtPhrase (.body ending)) : StmtPhrase (.statement .openIf)
  | ifElse {ending : Ending} (word : Terminal (.keyword .ifWord)) (condition : Expression)
      (thenBody : StmtPhrase (.body .closed)) (elseWord : Terminal (.keyword .elseWord))
      (elseBody : StmtPhrase (.body ending)) : StmtPhrase (.statement ending)
  | whileLoop {ending : Ending} (word : Terminal (.keyword .whileWord)) (condition : Expression)
      (inner : StmtPhrase (.body ending)) : StmtPhrase (.statement ending)
  | forLoop {ending : Ending} (word : Terminal (.keyword .forWord))
      (left : Terminal (.symbol .leftParen)) (init : StmtPhrase .assignment)
      (first : Terminal (.symbol .semicolon)) (condition : Expression)
      (second : Terminal (.symbol .semicolon)) (increment : StmtPhrase .assignment)
      (right : Terminal (.symbol .rightParen)) (inner : StmtPhrase (.body ending)) :
      StmtPhrase (.statement ending)
  | block (left : Terminal (.symbol .leftBrace)) (inner : StmtPhrase .statements)
      (right : Terminal (.symbol .rightBrace)) : StmtPhrase (.body .closed)
  | single {ending : Ending} (inner : StmtPhrase (.statement ending)) : StmtPhrase (.body ending)
  | none : StmtPhrase .statements
  | more {ending : Ending} (first : StmtPhrase (.statement ending))
      (others : StmtPhrase .statements) : StmtPhrase .statements

/-- A row of statements that is a whole program. -/
abbrev Program := StmtPhrase .statements

/-- What the parts of a program stand for. -/
abbrev StmtPart.Tree : StmtPart → Type
  | .statements => List Stmt
  | _ => Stmt

/-- The statements that a part of a program stands for. -/
@[simp]
def StmtPart.stmts : (part : StmtPart) → part.Tree → List Stmt
  | .statements, trees => trees
  | .assignment, tree => [tree]
  | .statement _, tree => [tree]
  | .body _, tree => [tree]

namespace StmtPhrase

/-- The tokens of a statement. -/
@[simp]
def tokens : {part : StmtPart} → StmtPhrase part → List Token
  | _, .assign name sign value => name.token :: sign.token :: value.tokens
  | _, .assignField object dot field sign value =>
      object.token :: dot.token :: field.token :: sign.token :: value.tokens
  | _, .print word value => word.token :: value.tokens
  | _, .assignment inner => inner.tokens
  | _, .ifThen word condition thenBody => word.token :: (condition.tokens ++ thenBody.tokens)
  | _, .ifElse word condition thenBody elseWord elseBody =>
      word.token ::
        (condition.tokens ++ (thenBody.tokens ++ elseWord.token :: elseBody.tokens))
  | _, .whileLoop word condition inner => word.token :: (condition.tokens ++ inner.tokens)
  | _, .forLoop word left init first condition second increment right inner =>
      word.token :: left.token :: (init.tokens ++ first.token :: (condition.tokens ++
        second.token :: (increment.tokens ++ right.token :: inner.tokens)))
  | _, .block left inner right => left.token :: (inner.tokens ++ [right.token])
  | _, .single inner => inner.tokens
  | _, .none => []
  | _, .more first others => first.tokens ++ others.tokens

/-- The tree of a statement, if all its literals denote numbers. Braces stand for a block. -/
@[simp]
def tree? : {part : StmtPart} → StmtPhrase part → Option part.Tree
  | _, .assign name _ value => value.tree?.map (.assign name.token.value)
  | _, .assignField object _ field _ value =>
      value.tree?.map (.assignField object.token.value field.token.value)
  | _, .print _ value => value.tree?.map .print
  | _, .assignment inner => inner.tree?
  | _, .ifThen _ condition thenBody =>
      condition.tree?.bind fun condition =>
        thenBody.tree?.map fun thenBranch => .branch condition thenBranch Option.none
  | _, .ifElse _ condition thenBody _ elseBody =>
      condition.tree?.bind fun condition =>
        thenBody.tree?.bind fun thenBranch =>
          elseBody.tree?.map fun elseBranch => .branch condition thenBranch (some elseBranch)
  | _, .whileLoop _ condition inner =>
      condition.tree?.bind fun condition => inner.tree?.map (.whileLoop condition)
  | _, .forLoop _ _ init _ condition _ increment _ inner =>
      init.tree?.bind fun init =>
        condition.tree?.bind fun condition =>
          increment.tree?.bind fun increment =>
            inner.tree?.map (.forLoop init condition increment)
  | _, .block _ inner _ => inner.tree?.map .block
  | _, .single inner => inner.tree?
  | _, .none => some []
  | _, .more first others =>
      first.tree?.bind fun first => others.tree?.map (first :: ·)

/-- The deepest level that is reached in a statement that stands at a level. A statement is
    one level deeper than its place, and so is the expression in it; braces and the two
    assignments in the head of a loop add nothing. -/
@[simp]
def reach : {part : StmtPart} → StmtPhrase part → Nat → Nat
  | _, .assign _ _ value, depth => value.reach (depth + 1)
  | _, .assignField _ _ _ _ value, depth => value.reach (depth + 1)
  | _, .print _ value, depth => value.reach (depth + 2)
  | _, .assignment inner, depth => inner.reach (depth + 1)
  | _, .ifThen _ condition thenBody, depth =>
      max (condition.reach (depth + 2)) (thenBody.reach (depth + 1))
  | _, .ifElse _ condition thenBody _ elseBody, depth =>
      max (condition.reach (depth + 2))
        (max (thenBody.reach (depth + 1)) (elseBody.reach (depth + 1)))
  | _, .whileLoop _ condition inner, depth =>
      max (condition.reach (depth + 2)) (inner.reach (depth + 1))
  | _, .forLoop _ _ init _ condition _ increment _ inner, depth =>
      max (init.reach (depth + 1)) (max (condition.reach (depth + 2))
        (max (increment.reach (depth + 1)) (inner.reach (depth + 1))))
  | _, .block _ inner _, depth => inner.reach depth
  | _, .single inner, depth => inner.reach depth
  | _, .none, depth => depth
  | _, .more first others, depth => max (first.reach depth) (others.reach depth)

end StmtPhrase

/-- The tokens that belong to a program: those before the first end of the input. -/
def body (ts : List Token) : List Token :=
  ts.takeWhile fun t => t.kind ≠ .endOfInput

/-- A number token whose text denotes a number. Other tokens need none. -/
def Converts (t : Token) : Prop :=
  (t.kind = .number → (Number.read? t.value).isSome) ∧
    (t.kind = .hexNumber → (Number.readHex? t.value).isSome)

end Kiss.Grammar
