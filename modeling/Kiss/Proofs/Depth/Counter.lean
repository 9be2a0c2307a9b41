import Kiss.Proofs.Depth.Closed

/-!
# Reading with a counter that is changed in place

The readers are told the depth at which they stand, so there is nothing in them to be restored. A
parser that keeps its depth in one counter has to do it: it counts a level up on entering a
statement, an expression or the right side of an operator, takes one off on leaving a statement or
an expression, whether that was read or not, and after a chain puts back the depth from which the
chain began. `Counted` is this way of reading. It is not said beforehand that it ends: so many calls
may be open one inside another, each round of a loop being one more, and if that is not enough there
is no result. Nor is there one if a level is left where none is counted. So where there is a result
with enough calls (`ComesTo`), neither has happened.
-/

namespace Kiss

open Filter (atTop)
open Kiss.Parser (Level Outcome frontKind)

/-- A computation that changes a parser, and gives a value or an error. It has no result if it
    needs more calls than it may make or if it leaves a level while the counter is at zero. -/
abbrev Counted (α : Type) : Type := ExceptT ParseError (StateT Parser Option) α

namespace Counted

variable {α β : Type}

/-! ### The pieces -/

/-- There are no calls left to be made. -/
def outOfCalls : Counted α := fun _ => none

/-- The token at the front, or the sentinel. -/
def current : Counted Token := fun p => some (.ok (p.rest.headD p.sentinel), p)

/-- The kind of the token so many places behind the front. -/
def kindAt (offset : Nat) : Counted TokenKind :=
  fun p => some (.ok (frontKind (p.rest.drop offset)), p)

/-- Takes the token at the front, whatever it is. -/
def advance : Counted Token :=
  fun p => some (.ok (p.rest.headD p.sentinel), { p with rest := p.rest.tail })

/-- Fails at the token at the front. -/
def refuse (cause : ParseCause) : Counted α :=
  fun p => some (.error ⟨cause, p.rest.headD p.sentinel⟩, p)

/-- The depth that is counted. -/
def counter : Counted Nat := fun p => some (.ok p.depth, p)

/-- Puts the counter at a depth. -/
def restore (depth : Nat) : Counted Unit := fun p => some (.ok (), { p with depth })

/-- Counts one level up. If that is too deep it stays counted. -/
def enter : Counted Unit := do
  restore ((← counter) + 1)
  if (← counter) > maxDepth then refuse .tooDeep

/-- Takes one level off the counter, whatever the result is. At zero there is none to take. -/
def leave : Except ParseError α × Parser → Option (Except ParseError α × Parser)
  | (_, ⟨_, _, 0⟩) => none
  | (result, ⟨rest, sentinel, depth + 1⟩) => some (result, ⟨rest, sentinel, depth⟩)

/-- Takes one level off behind a computation, whether that came to a value or to an error. -/
def leaving (m : Counted α) : Counted α := fun p => m p >>= leave

/-- Takes a token of the given kind if there is one at the front. -/
def eat (kind : TokenKind) : Counted Bool := do
  if (← current).kind = kind then
    let _ ← advance
    return true
  else
    return false

def expect (kind : TokenKind) : Counted Token := do
  if (← current).kind = kind then advance else refuse (.expected kind)

/-! ### Expressions -/

def numberLiteral (t : Token) : Counted Expr :=
  match Number.read? t.value with
  | some value => return .number value
  | none => throw ⟨.invalidNumber, t⟩

def hexLiteral (t : Token) : Counted Expr :=
  match Number.readHex? t.value with
  | some value => return .number (Number.ofInt value)
  | none => throw ⟨.invalidHexNumber, t⟩

def nameOrField (name : String) : Counted Expr := do
  if ← eat (.symbol .dot) then
    let field ← expect .word
    return .field name field.value
  else
    return .var name

mutual

def expression : Nat → Counted Expr
  | 0 => outOfCalls
  | calls + 1 => do
      enter
      leaving (chainAt calls .sum)

def primary : Nat → Counted Expr
  | 0 => outOfCalls
  | calls + 1 => do
      let t ← current
      match t.kind with
      | .number =>
          let _ ← advance
          numberLiteral t
      | .hexNumber =>
          let _ ← advance
          hexLiteral t
      | .text =>
          let _ ← advance
          return .text t.value
      | .word =>
          let _ ← advance
          nameOrField t.value
      | .keyword .trueWord =>
          let _ ← advance
          return .bool true
      | .keyword .falseWord =>
          let _ ← advance
          return .bool false
      | .symbol .leftBrace =>
          let _ ← advance
          let _ ← expect (.symbol .rightBrace)
          return .emptyObject
      | .symbol .leftParen =>
          let _ ← advance
          let inner ← expression calls
          let _ ← expect (.symbol .rightParen)
          return inner
      | _ => refuse .unknownExpression

def unary : Nat → Counted Expr
  | 0 => outOfCalls
  | calls + 1 => do
      if ← eat (.symbol .minus) then
        return .unary .negate (← primary calls)
      else if ← eat (.symbol .plus) then
        primary calls
      else if ← eat (.symbol .bang) then
        return .unary .not (← primary calls)
      else
        primary calls

def operand : Nat → Level → Counted Expr
  | 0, _ => outOfCalls
  | calls + 1, .sum => chainAt calls .comparison
  | calls + 1, .comparison => chainAt calls .product
  | calls + 1, .product => chainAt calls .disjunction
  | calls + 1, .disjunction => chainAt calls .conjunction
  | calls + 1, .conjunction => unary calls

/-- The rest of a chain. Its levels are still counted behind it. -/
def chainRest : Nat → Level → Expr → Counted Expr
  | 0, _, _ => outOfCalls
  | calls + 1, level, left => do
      match level.step? (← current).kind with
      | none => return left
      | some (.again op) =>
          let _ ← advance
          enter
          let right ← operand calls level
          chainRest calls level (.binary op left right)
      | some (.last op) =>
          let _ ← advance
          let right ← operand calls level
          return .binary op left right
      | some (.nested op) =>
          let _ ← advance
          enter
          let right ← chainAt calls level
          return .binary op left right

/-- A chain, and behind it the depth from which it began. -/
def chainAt : Nat → Level → Counted Expr
  | 0, _ => outOfCalls
  | calls + 1, level => do
      let depth ← counter
      let left ← operand calls level
      let whole ← chainRest calls level left
      restore depth
      return whole

end

/-! ### Statements -/

def assignment (calls : Nat) : Counted Stmt := do
  if (← kindAt 0) = .word ∧ (← kindAt 1) = .symbol .assign then
    let name ← advance
    let _ ← advance
    let value ← expression calls
    return .assign name.value value
  else if (← kindAt 0) = .word ∧ (← kindAt 1) = .symbol .dot ∧ (← kindAt 2) = .word ∧
      (← kindAt 3) = .symbol .assign then
    let object ← advance
    let _ ← advance
    let field ← advance
    let _ ← advance
    let value ← expression calls
    return .assignField object.value field.value value
  else
    refuse .unknownStatement

def forHead (calls : Nat) : Counted (Stmt × Expr × Stmt) := do
  let _ ← expect (.symbol .leftParen)
  let init ← assignment calls
  let _ ← expect (.symbol .semicolon)
  let condition ← expression calls
  let _ ← expect (.symbol .semicolon)
  let increment ← assignment calls
  let _ ← expect (.symbol .rightParen)
  return (init, condition, increment)

mutual

def statement : Nat → Counted Stmt
  | 0 => outOfCalls
  | calls + 1 => do
      enter
      leaving (unnested calls)

def unnested : Nat → Counted Stmt
  | 0 => outOfCalls
  | calls + 1 => do
      if ← eat (.keyword .printWord) then
        return .print (← expression calls)
      else if ← eat (.keyword .ifWord) then
        let condition ← expression calls
        let thenBranch ← body calls
        elseBranch calls condition thenBranch
      else if ← eat (.keyword .whileWord) then
        let condition ← expression calls
        return .whileLoop condition (← body calls)
      else if ← eat (.keyword .forWord) then
        let head ← forHead calls
        return .forLoop head.1 head.2.1 head.2.2 (← body calls)
      else
        assignment calls

def elseBranch : Nat → Expr → Stmt → Counted Stmt
  | 0, _, _ => outOfCalls
  | calls + 1, condition, thenBranch => do
      if ← eat (.keyword .elseWord) then
        return .branch condition thenBranch (some (← body calls))
      else
        return .branch condition thenBranch none

def body : Nat → Counted Stmt
  | 0 => outOfCalls
  | calls + 1 => do
      if (← current).kind = .symbol .leftBrace then
        let _ ← expect (.symbol .leftBrace)
        blockRest calls []
      else
        statement calls

def blockRest : Nat → List Stmt → Counted Stmt
  | 0, _ => outOfCalls
  | calls + 1, found => do
      if ← eat (.symbol .rightBrace) then
        return .block found.reverse
      else if (← current).kind = .endOfInput then
        refuse .unclosedBlock
      else
        let next ← statement calls
        blockRest calls (next :: found)

end

def program : Nat → List Stmt → Counted Stmt
  | 0, _ => outOfCalls
  | calls + 1, found => do
      if ← eat .endOfInput then
        return .block found.reverse
      else
        let next ← statement calls
        program calls (next :: found)

/-! ### What the pieces come to -/

/-- What an outcome says of a parser: its result, the tokens that are left and the depth that is
    counted, which is the given one if something was read. -/
def ended (sentinel : Token) (counter : Nat) : Outcome α → Except ParseError α × Parser
  | .ok value rest => (.ok value, ⟨rest, sentinel, counter⟩)
  | .fail fault rest depth =>
      (.error ⟨fault.cause, fault.place.headD sentinel⟩, ⟨rest, sentinel, depth⟩)

/-- With enough calls the result is always the same. -/
def ComesTo (m : Nat → Counted α) (p : Parser) (result : Except ParseError α × Parser) : Prop :=
  ∀ᶠ calls in atTop, m calls p = some result

variable {sentinel : Token} {depth counter after : Nat} {ts : List Token} {p q : Parser}
variable {m n : Nat → Counted α} {f : Nat → α → Counted β}
variable {result : Except ParseError α × Parser} {more : Except ParseError β × Parser}

theorem ComesTo.of_eq (same : ∀ calls, m calls p = some result) : ComesTo m p result :=
  .of_forall same

/-- One call more does not matter. -/
theorem comesTo_succ : ComesTo m p result ↔ ComesTo (fun calls => m (calls + 1)) p result := by
  unfold ComesTo
  conv_lhs => rw [← Filter.map_add_atTop_eq_nat 1]
  exact Filter.eventually_map

theorem comesTo_congr (same : ∀ calls, m calls p = n calls q) :
    ComesTo m p result ↔ ComesTo n q result := by
  simp only [ComesTo, same]

theorem ComesTo.bind {value : α} (first : ComesTo m p (.ok value, q))
    (second : ComesTo (fun calls => f calls value) q more) :
    ComesTo (fun calls => m calls >>= f calls) p more := by
  filter_upwards [first, second] with calls one two
  show Option.bind (m calls p) _ = _
  rw [one]
  exact two

theorem ComesTo.bind_error {e : ParseError} (first : ComesTo m p (.error e, q)) :
    ComesTo (fun calls => m calls >>= f calls) p (.error e, q) := by
  filter_upwards [first] with calls one
  show Option.bind (m calls p) _ = _
  rw [one]
  rfl

theorem comesTo_ite {c : Prop} [Decidable c] :
    ComesTo (fun calls => if c then m calls else n calls) p result ↔
      if c then ComesTo m p result else ComesTo n p result := by
  split <;> rfl

theorem comesTo_current {f : Nat → Token → Counted α} :
    ComesTo (fun calls => current >>= f calls) ⟨ts, sentinel, depth⟩ result ↔
      ComesTo (fun calls => f calls (ts.headD sentinel)) ⟨ts, sentinel, depth⟩ result :=
  Iff.rfl

theorem comesTo_kindAt {offset : Nat} {f : Nat → TokenKind → Counted α} :
    ComesTo (fun calls => kindAt offset >>= f calls) ⟨ts, sentinel, depth⟩ result ↔
      ComesTo (fun calls => f calls (frontKind (ts.drop offset))) ⟨ts, sentinel, depth⟩ result :=
  Iff.rfl

theorem comesTo_advance {f : Nat → Token → Counted α} :
    ComesTo (fun calls => advance >>= f calls) ⟨ts, sentinel, depth⟩ result ↔
      ComesTo (fun calls => f calls (ts.headD sentinel)) ⟨ts.tail, sentinel, depth⟩ result :=
  Iff.rfl

theorem comesTo_enter (room : depth < maxDepth) {f : Nat → Unit → Counted α} :
    ComesTo (fun calls => enter >>= f calls) ⟨ts, sentinel, depth⟩ result ↔
      ComesTo (fun calls => f calls ()) ⟨ts, sentinel, depth + 1⟩ result := by
  have within : ¬depth + 1 > maxDepth := by omega
  refine comesTo_congr fun calls => ?_
  show ((if depth + 1 > maxDepth then refuse .tooDeep else pure () : Counted Unit) >>= f calls)
    ⟨ts, sentinel, depth + 1⟩ = _
  rw [if_neg within]
  rfl

theorem enter_comesTo (full : ¬depth < maxDepth) {f : Nat → Unit → Counted α} :
    ComesTo (fun calls => enter >>= f calls) ⟨ts, sentinel, depth⟩
      (ended sentinel counter (Parser.tooDeep depth ts)) := by
  have beyond : depth + 1 > maxDepth := by omega
  refine ComesTo.bind_error (.of_eq fun calls => ?_)
  show (if depth + 1 > maxDepth then refuse .tooDeep else pure () : Counted Unit)
    ⟨ts, sentinel, depth + 1⟩ = _
  rw [if_pos beyond]
  rfl

/-- A failure leaves more levels counted than were counted outside, so there is one to take. -/
theorem leaving_comesTo {outcome : Outcome α} (charges : outcome.Charges (depth + 1))
    (inner : ComesTo m p (ended sentinel (depth + 1) outcome)) :
    ComesTo (fun calls => leaving (m calls)) p (ended sentinel depth outcome.leave) := by
  filter_upwards [inner] with calls same
  show Option.bind (m calls p) leave = _
  rw [same]
  cases outcome with
  | ok => rfl
  | fail fault rest reached =>
      obtain ⟨positive, _⟩ := charges
      cases reached with
      | zero => omega
      | succ reached => rfl

theorem exists_bind_ended {outcome : Outcome α} {next : α → List Token → Outcome β}
    (first : ComesTo m p (ended sentinel counter outcome))
    (second : ∀ value rest, ∃ after, ComesTo (fun calls => f calls value)
      ⟨rest, sentinel, counter⟩ (ended sentinel after (next value rest))) :
    ∃ after, ComesTo (fun calls => m calls >>= f calls) p
      (ended sentinel after (outcome.andThen next)) := by
  cases outcome with
  | ok value rest =>
      obtain ⟨after, comes⟩ := second value rest
      exact ⟨after, first.bind comes⟩
  | fail => exact ⟨counter, first.bind_error⟩

theorem bind_ended {outcome : Outcome α} {next : α → List Token → Outcome β}
    (first : ComesTo m p (ended sentinel counter outcome))
    (second : ∀ value rest, ComesTo (fun calls => f calls value) ⟨rest, sentinel, counter⟩
      (ended sentinel after (next value rest))) :
    ComesTo (fun calls => m calls >>= f calls) p (ended sentinel after (outcome.andThen next)) := by
  cases outcome with
  | ok value rest => exact first.bind (second value rest)
  | fail => exact first.bind_error

theorem map_ended {outcome : Outcome α} {f : α → β}
    (first : ComesTo m p (ended sentinel counter outcome)) :
    ComesTo (fun calls => m calls >>= fun value => pure (f value)) p
      (ended sentinel counter (outcome.map f)) :=
  bind_ended first fun _ _ => .of_eq fun _ => rfl

/-- Whatever is counted behind something that was read, it can be put back. -/
theorem restore_ended {outcome : Outcome α}
    (first : ComesTo m p (ended sentinel counter outcome)) (depth : Nat) :
    ComesTo (fun calls => m calls >>= fun value => restore depth >>= fun _ => pure value) p
      (ended sentinel depth outcome) := by
  have same : outcome.andThen .ok = outcome := by
    cases outcome <;> rfl
  rw [← same]
  exact bind_ended first fun _ _ => .of_eq fun _ => rfl

section Sentinel

variable (isEnd : sentinel.kind = .endOfInput)

include isEnd

theorem kind_headD (ts : List Token) : (ts.headD sentinel).kind = frontKind ts := by
  cases ts with
  | nil => exact isEnd
  | cons => rfl

/-- Taking a token or not decides how to go on. -/
theorem comesTo_eat {kind : TokenKind} {yes no : Nat → Counted α} :
    ComesTo (fun calls => eat kind >>= fun taken => if taken = true then yes calls else no calls)
        ⟨ts, sentinel, depth⟩ result ↔
      if frontKind ts = kind then ComesTo yes ⟨ts.tail, sentinel, depth⟩ result
      else ComesTo no ⟨ts, sentinel, depth⟩ result := by
  have decided (calls : Nat) : (eat kind >>= fun taken =>
      if taken = true then yes calls else no calls) ⟨ts, sentinel, depth⟩ =
        if frontKind ts = kind then yes calls ⟨ts.tail, sentinel, depth⟩
        else no calls ⟨ts, sentinel, depth⟩ := by
    show ((if (ts.headD sentinel).kind = kind then do
        let _ ← advance
        return true
      else return false : Counted Bool) >>= _) ⟨ts, sentinel, depth⟩ = _
    rw [kind_headD isEnd]
    split <;> rfl
  split
  · rename_i found
    exact comesTo_congr fun calls => (decided calls).trans (if_pos found)
  · rename_i missing
    exact comesTo_congr fun calls => (decided calls).trans (if_neg missing)

theorem expect_comesTo {kind : TokenKind} (different : kind ≠ .endOfInput) :
    ComesTo (fun _ => expect kind) ⟨ts, sentinel, depth⟩
      (ended sentinel depth (Parser.expect kind depth ts)) := by
  refine .of_eq fun _ => ?_
  show (if (ts.headD sentinel).kind = kind then advance else refuse (.expected kind) :
    Counted Token) ⟨ts, sentinel, depth⟩ = _
  rw [kind_headD isEnd]
  cases ts with
  | nil =>
      rw [if_neg (show ¬frontKind [] = kind from different.symm)]
      rfl
  | cons t rest =>
      rw [Parser.expect, frontKind]
      split <;> rfl

end Sentinel

end Counted

end Kiss
