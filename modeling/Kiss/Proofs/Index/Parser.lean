import Mathlib.Data.Nat.Find
import Kiss.Parser.Basic

/-!
# Reading by index

A parser takes tokens off the front of those that are left. One that keeps all its tokens, with the
index of the next, sees behind the last of them its sentinel, as often as it looks, and nothing
stops it from counting the index on. `Indexed` is this way of reading, with the nesting depth in a
counter beside the index. It is not said beforehand that it ends: so many calls may be open one
inside another, each round of a loop being one more, and if that is not enough, or if a level is
left where none is counted, there is no result.
-/

namespace Kiss

open Kiss.Parser (Level)

/-- A parser with all its tokens and the index of the next of them. What it sees behind them is an
    end of the input. -/
structure IndexedParser where
  tokens : List Token
  index : Nat
  sentinel : Token
  isEnd : sentinel.kind = .endOfInput
  depth : Nat

namespace IndexedParser

variable (p : IndexedParser)

/-- The token at a place, or the sentinel. -/
def tokenAt (place : Nat) : Token := p.tokens[place]?.getD p.sentinel

/-- The kind of the token at a place. -/
def kindAt (place : Nat) : TokenKind := (p.tokenAt place).kind

/-- The parser behind the next token. -/
def next : IndexedParser := { p with index := p.index + 1 }

theorem kindAt_of_length_le {place : Nat} (behind : p.tokens.length ≤ place) :
    p.kindAt place = .endOfInput := by
  rw [kindAt, tokenAt, List.getElem?_eq_none behind]
  exact p.isEnd

theorem exists_end : ∃ place, p.index ≤ place ∧ p.kindAt place = .endOfInput :=
  ⟨max p.index p.tokens.length, Nat.le_max_left _ _,
    p.kindAt_of_length_le (Nat.le_max_right _ _)⟩

/-- The first place from the index on at which the input is at its end. If no token from there on
    says so it is the one behind the last token. -/
def barrier : Nat := Nat.find p.exists_end

end IndexedParser

/-- A computation that changes a parser, and gives a value or an error, if it has a result. -/
abbrev Indexed (α : Type) : Type := ExceptT ParseError (StateT IndexedParser Option) α

namespace Indexed

variable {α : Type}

/-! ### The pieces -/

/-- There are no calls left to be made. -/
def outOfCalls : Indexed α := fun _ => none

/-- The next token, or the sentinel. -/
def current : Indexed Token := fun p => some (.ok (p.tokenAt p.index), p)

/-- The kind of the token so many places behind the next one. -/
def kindAhead (offset : Nat) : Indexed TokenKind :=
  fun p => some (.ok (p.kindAt (p.index + offset)), p)

/-- Takes the next token, or the sentinel. -/
def advance : Indexed Token := fun p => some (.ok (p.tokenAt p.index), p.next)

/-- Fails at the next token. -/
def refuse (cause : ParseCause) : Indexed α :=
  fun p => some (.error ⟨cause, p.tokenAt p.index⟩, p)

/-- The depth that is counted. -/
def counter : Indexed Nat := fun p => some (.ok p.depth, p)

/-- Puts the counter at a depth. -/
def restore (depth : Nat) : Indexed Unit := fun p => some (.ok (), { p with depth })

/-- Counts one level up. If that is too deep it stays counted. -/
def enter : Indexed Unit := do
  restore ((← counter) + 1)
  if (← counter) > maxDepth then refuse .tooDeep

/-- Takes one level off the counter, whatever the result is. At zero there is none to take. -/
def leave (result : Except ParseError α) (p : IndexedParser) :
    Option (Except ParseError α × IndexedParser) :=
  match p.depth with
  | 0 => none
  | depth + 1 => some (result, { p with depth })

/-- Takes one level off behind a computation, whether that came to a value or to an error. -/
def leaving (m : Indexed α) : Indexed α := fun p => m p >>= fun reached => leave reached.1 reached.2

/-- Takes a token of the given kind if it is the next. -/
def eat (kind : TokenKind) : Indexed Bool := do
  if (← current).kind = kind then
    let _ ← advance
    return true
  else
    return false

def expect (kind : TokenKind) : Indexed Token := do
  if (← current).kind = kind then advance else refuse (.expected kind)

/-! ### Expressions -/

def numberLiteral (t : Token) : Indexed Expr :=
  match Number.read? t.value with
  | some value => return .number value
  | none => throw ⟨.invalidNumber, t⟩

def hexLiteral (t : Token) : Indexed Expr :=
  match Number.readHex? t.value with
  | some value => return .number (Number.ofInt value)
  | none => throw ⟨.invalidHexNumber, t⟩

def nameOrField (name : String) : Indexed Expr := do
  if ← eat (.symbol .dot) then
    let field ← expect .word
    return .field name field.value
  else
    return .var name

mutual

def expression : Nat → Indexed Expr
  | 0 => outOfCalls
  | calls + 1 => do
      enter
      leaving (chainAt calls .sum)

def primary : Nat → Indexed Expr
  | 0 => outOfCalls
  | calls + 1 => do
      let t ← current
      match t.kind with
      | .number =>
          let _ ← advance
          numberLiteral t
      | .hexNumber =>
          let _ ← advance
          hexLiteral t
      | .text =>
          let _ ← advance
          return .text t.value
      | .word =>
          let _ ← advance
          nameOrField t.value
      | .keyword .trueWord =>
          let _ ← advance
          return .bool true
      | .keyword .falseWord =>
          let _ ← advance
          return .bool false
      | .symbol .leftBrace =>
          let _ ← advance
          let _ ← expect (.symbol .rightBrace)
          return .emptyObject
      | .symbol .leftParen =>
          let _ ← advance
          let inner ← expression calls
          let _ ← expect (.symbol .rightParen)
          return inner
      | _ => refuse .unknownExpression

def unary : Nat → Indexed Expr
  | 0 => outOfCalls
  | calls + 1 => do
      if ← eat (.symbol .minus) then
        return .unary .negate (← primary calls)
      else if ← eat (.symbol .plus) then
        primary calls
      else if ← eat (.symbol .bang) then
        return .unary .not (← primary calls)
      else
        primary calls

def operand : Nat → Level → Indexed Expr
  | 0, _ => outOfCalls
  | calls + 1, .sum => chainAt calls .comparison
  | calls + 1, .comparison => chainAt calls .product
  | calls + 1, .product => chainAt calls .disjunction
  | calls + 1, .disjunction => chainAt calls .conjunction
  | calls + 1, .conjunction => unary calls

/-- The rest of a chain. Its levels are still counted behind it. -/
def chainRest : Nat → Level → Expr → Indexed Expr
  | 0, _, _ => outOfCalls
  | calls + 1, level, left => do
      match level.step? (← current).kind with
      | none => return left
      | some (.again op) =>
          let _ ← advance
          enter
          let right ← operand calls level
          chainRest calls level (.binary op left right)
      | some (.last op) =>
          let _ ← advance
          let right ← operand calls level
          return .binary op left right
      | some (.nested op) =>
          let _ ← advance
          enter
          let right ← chainAt calls level
          return .binary op left right

/-- A chain, and behind it the depth from which it began. -/
def chainAt : Nat → Level → Indexed Expr
  | 0, _ => outOfCalls
  | calls + 1, level => do
      let depth ← counter
      let left ← operand calls level
      let whole ← chainRest calls level left
      restore depth
      return whole

end

/-! ### Statements -/

def assignment (calls : Nat) : Indexed Stmt := do
  if (← kindAhead 0) = .word ∧ (← kindAhead 1) = .symbol .assign then
    let name ← advance
    let _ ← advance
    let value ← expression calls
    return .assign name.value value
  else if (← kindAhead 0) = .word ∧ (← kindAhead 1) = .symbol .dot ∧ (← kindAhead 2) = .word ∧
      (← kindAhead 3) = .symbol .assign then
    let object ← advance
    let _ ← advance
    let field ← advance
    let _ ← advance
    let value ← expression calls
    return .assignField object.value field.value value
  else
    refuse .unknownStatement

def forHead (calls : Nat) : Indexed (Stmt × Expr × Stmt) := do
  let _ ← expect (.symbol .leftParen)
  let init ← assignment calls
  let _ ← expect (.symbol .semicolon)
  let condition ← expression calls
  let _ ← expect (.symbol .semicolon)
  let increment ← assignment calls
  let _ ← expect (.symbol .rightParen)
  return (init, condition, increment)

mutual

def statement : Nat → Indexed Stmt
  | 0 => outOfCalls
  | calls + 1 => do
      enter
      leaving (unnested calls)

def unnested : Nat → Indexed Stmt
  | 0 => outOfCalls
  | calls + 1 => do
      if ← eat (.keyword .printWord) then
        return .print (← expression calls)
      else if ← eat (.keyword .ifWord) then
        let condition ← expression calls
        let thenBranch ← body calls
        elseBranch calls condition thenBranch
      else if ← eat (.keyword .whileWord) then
        let condition ← expression calls
        return .whileLoop condition (← body calls)
      else if ← eat (.keyword .forWord) then
        let head ← forHead calls
        return .forLoop head.1 head.2.1 head.2.2 (← body calls)
      else
        assignment calls

def elseBranch : Nat → Expr → Stmt → Indexed Stmt
  | 0, _, _ => outOfCalls
  | calls + 1, condition, thenBranch => do
      if ← eat (.keyword .elseWord) then
        return .branch condition thenBranch (some (← body calls))
      else
        return .branch condition thenBranch none

def body : Nat → Indexed Stmt
  | 0 => outOfCalls
  | calls + 1 => do
      if (← current).kind = .symbol .leftBrace then
        let _ ← expect (.symbol .leftBrace)
        blockRest calls []
      else
        statement calls

def blockRest : Nat → List Stmt → Indexed Stmt
  | 0, _ => outOfCalls
  | calls + 1, found => do
      if ← eat (.symbol .rightBrace) then
        return .block found.reverse
      else if (← current).kind = .endOfInput then
        refuse .unclosedBlock
      else
        let next ← statement calls
        blockRest calls (next :: found)

end

/-- A block in its braces, as it is read by `body`. -/
def block (calls : Nat) : Indexed Stmt := do
  let _ ← expect (.symbol .leftBrace)
  blockRest calls []

def program : Nat → List Stmt → Indexed Stmt
  | 0, _ => outOfCalls
  | calls + 1, found => do
      if ← eat .endOfInput then
        return .block found.reverse
      else
        let next ← statement calls
        program calls (next :: found)

end Indexed

end Kiss
