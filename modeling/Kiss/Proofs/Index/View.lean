import Kiss.Proofs.Depth.Counter
import Kiss.Proofs.Index.Parser

/-!
# An index shows the tokens that are left

Of the tokens before its index a parser makes no use. What it shows without them is a parser that
holds the tokens that are left (`IndexedParser.view`): counting the index on takes one of them away,
and behind the last of them there is none to be taken. Each procedure that reads by index shows the
one that reads with a counter from the tokens that are left, call by call, so that they come to the
same or both have no result.
-/

namespace Kiss

open Kiss.Parser (Level frontKind)

namespace IndexedParser

/-- The parser of the tokens that are left. -/
def view (p : IndexedParser) : Parser := ⟨p.tokens.drop p.index, p.sentinel, p.depth⟩

/-- The parser of some tokens, at the first of them. -/
def ofTokens (tokens : List Token) : IndexedParser where
  tokens := tokens
  index := 0
  sentinel := (Parser.ofTokens tokens).sentinel
  isEnd := rfl
  depth := 0

theorem view_ofTokens (tokens : List Token) : (ofTokens tokens).view = Parser.ofTokens tokens := rfl

variable (p : IndexedParser)

theorem view_next : p.next.view = { p.view with rest := p.view.rest.tail } := by
  simp only [view, next, List.tail_drop]

theorem headD_drop (place : Nat) : (p.tokens.drop place).headD p.sentinel = p.tokenAt place := by
  rw [List.headD_eq_head?_getD, List.head?_drop, tokenAt]

theorem frontKind_drop_view (offset : Nat) :
    frontKind (p.view.rest.drop offset) = p.kindAt (p.index + offset) := by
  rw [view, List.drop_drop, ← Counted.kind_headD p.isEnd, headD_drop, kindAt]

end IndexedParser

namespace Indexed

variable {α β : Type} {m m' : Indexed α} {n n' : Counted α}

/-- A computation that shows another: from the parser that is shown, the other has the same result
    and leaves the parser that is shown then, or has no result where there is none. -/
def Shows (m : Indexed α) (n : Counted α) : Prop :=
  ∀ p, n p.view = (m p).map (Prod.map id IndexedParser.view)

/-! ### The pieces -/

theorem outOfCalls_shows : Shows (outOfCalls : Indexed α) Counted.outOfCalls := fun _ => rfl

theorem pure_shows (value : α) : Shows (pure value) (pure value) := fun _ => rfl

theorem throw_shows (e : ParseError) : Shows (throw e : Indexed α) (throw e) := fun _ => rfl

theorem Shows.bind {f : α → Indexed β} {g : α → Counted β} (first : Shows m n)
    (second : ∀ value, Shows (f value) (g value)) : Shows (m >>= f) (n >>= g) := by
  intro p
  show Option.bind (n p.view) _ = (Option.bind (m p) _).map _
  rw [first p]
  cases m p with
  | none => rfl
  | some reached =>
      obtain ⟨outcome, q⟩ := reached
      cases outcome with
      | ok value => exact second value q
      | error e => rfl

theorem Shows.map {f : α → β} (shows : Shows m n) :
    Shows (m >>= fun value => pure (f value)) (n >>= fun value => pure (f value)) :=
  shows.bind fun value => pure_shows (f value)

theorem Shows.ite {c : Prop} [Decidable c] (yes : Shows m n) (no : Shows m' n') :
    Shows (if c then m else m') (if c then n else n') := by
  split
  · exact yes
  · exact no

theorem current_shows : Shows current Counted.current := fun p =>
  congrArg (fun t => some (Except.ok t, p.view)) (p.headD_drop p.index)

theorem kindAhead_shows (offset : Nat) : Shows (kindAhead offset) (Counted.kindAt offset) :=
  fun p => congrArg (fun kind => some (Except.ok kind, p.view)) (p.frontKind_drop_view offset)

theorem advance_shows : Shows advance Counted.advance := by
  intro p
  show some (Except.ok (p.view.rest.headD p.sentinel), { p.view with rest := p.view.rest.tail }) =
    some (Except.ok (p.tokenAt p.index), p.next.view)
  rw [p.view_next, ← p.headD_drop]
  rfl

theorem refuse_shows (cause : ParseCause) :
    Shows (refuse cause : Indexed α) (Counted.refuse cause) := fun p =>
  congrArg (fun t => some (Except.error (ParseError.mk cause t), p.view)) (p.headD_drop p.index)

theorem counter_shows : Shows counter Counted.counter := fun _ => rfl

theorem restore_shows (depth : Nat) : Shows (restore depth) (Counted.restore depth) := fun _ => rfl

theorem enter_shows : Shows enter Counted.enter :=
  counter_shows.bind fun depth => (restore_shows (depth + 1)).bind fun _ =>
    counter_shows.bind fun _ => .ite (refuse_shows .tooDeep) (pure_shows ())

theorem leaving_shows (shows : Shows m n) : Shows (leaving m) (Counted.leaving n) := by
  intro p
  show Option.bind (n p.view) _ = (Option.bind (m p) _).map _
  rw [shows p]
  cases m p with
  | none => rfl
  | some reached =>
      obtain ⟨outcome, tokens, index, sentinel, isEnd, depth⟩ := reached
      cases depth with
      | zero => rfl
      | succ depth => rfl

theorem eat_shows (kind : TokenKind) : Shows (eat kind) (Counted.eat kind) :=
  current_shows.bind fun _ => .ite (advance_shows.bind fun _ => pure_shows true) (pure_shows false)

theorem expect_shows (kind : TokenKind) : Shows (expect kind) (Counted.expect kind) :=
  current_shows.bind fun _ => .ite advance_shows (refuse_shows (.expected kind))

/-- Both take a token of the given kind, or neither does. -/
theorem Shows.ifEaten (kind : TokenKind) (yes : Shows m n) (no : Shows m' n') :
    Shows (eat kind >>= fun taken => if taken = true then m else m')
      (Counted.eat kind >>= fun taken => if taken = true then n else n') :=
  (eat_shows kind).bind fun _ => .ite yes no

/-! ### Expressions -/

theorem numberLiteral_shows (t : Token) : Shows (numberLiteral t) (Counted.numberLiteral t) := by
  rw [numberLiteral, Counted.numberLiteral]
  cases Number.read? t.value with
  | none => exact throw_shows _
  | some value => exact pure_shows _

theorem hexLiteral_shows (t : Token) : Shows (hexLiteral t) (Counted.hexLiteral t) := by
  rw [hexLiteral, Counted.hexLiteral]
  cases Number.readHex? t.value with
  | none => exact throw_shows _
  | some value => exact pure_shows _

theorem nameOrField_shows (name : String) :
    Shows (nameOrField name) (Counted.nameOrField name) :=
  .ifEaten _ (expect_shows _).map (pure_shows _)

/-- The parts of an expression show those that are read with a counter, with the same calls. -/
structure ExpressionShows (calls : Nat) : Prop where
  expression : Shows (expression calls) (Counted.expression calls)
  chainAt : ∀ level, Shows (chainAt calls level) (Counted.chainAt calls level)
  chainRest : ∀ level left, Shows (chainRest calls level left) (Counted.chainRest calls level left)
  operand : ∀ level, Shows (operand calls level) (Counted.operand calls level)
  unary : Shows (unary calls) (Counted.unary calls)
  primary : Shows (primary calls) (Counted.primary calls)

theorem expression_levels_show (calls : Nat) : ExpressionShows calls := by
  induction calls with
  | zero =>
      exact
        { expression := outOfCalls_shows
          chainAt := fun _ => outOfCalls_shows
          chainRest := fun _ _ => outOfCalls_shows
          operand := fun _ => outOfCalls_shows
          unary := outOfCalls_shows
          primary := outOfCalls_shows }
  | succ calls ih =>
      constructor
      case expression => exact enter_shows.bind fun _ => leaving_shows (ih.chainAt .sum)
      case chainAt =>
        intro level
        exact counter_shows.bind fun depth => (ih.operand level).bind fun left =>
          (ih.chainRest level left).bind fun whole =>
          (restore_shows depth).bind fun _ => pure_shows whole
      case chainRest =>
        intro level left
        refine current_shows.bind fun t => ?_
        cases level.step? t.kind with
        | none => exact pure_shows left
        | some step =>
            cases step with
            | again op =>
                exact advance_shows.bind fun _ => enter_shows.bind fun _ =>
                  (ih.operand level).bind fun right => ih.chainRest level (.binary op left right)
            | last op => exact advance_shows.bind fun _ => (ih.operand level).map
            | nested op =>
                exact advance_shows.bind fun _ => enter_shows.bind fun _ => (ih.chainAt level).map
      case operand =>
        intro level
        cases level with
        | sum => exact ih.chainAt .comparison
        | comparison => exact ih.chainAt .product
        | product => exact ih.chainAt .disjunction
        | disjunction => exact ih.chainAt .conjunction
        | conjunction => exact ih.unary
      case unary =>
        exact .ifEaten _ ih.primary.map <| .ifEaten _ ih.primary <|
          .ifEaten _ ih.primary.map ih.primary
      case primary =>
        refine current_shows.bind fun t => ?_
        cases t.kind with
        | number => exact advance_shows.bind fun _ => numberLiteral_shows t
        | hexNumber => exact advance_shows.bind fun _ => hexLiteral_shows t
        | text => exact advance_shows.bind fun _ => pure_shows _
        | word => exact advance_shows.bind fun _ => nameOrField_shows t.value
        | keyword word =>
            cases word with
            | trueWord => exact advance_shows.bind fun _ => pure_shows _
            | falseWord => exact advance_shows.bind fun _ => pure_shows _
            | _ => exact refuse_shows _
        | symbol sign =>
            cases sign with
            | leftBrace => exact advance_shows.bind fun _ => (expect_shows _).map
            | leftParen =>
                exact advance_shows.bind fun _ => ih.expression.bind fun inner =>
                  (expect_shows _).bind fun _ => pure_shows inner
            | _ => exact refuse_shows _
        | _ => exact refuse_shows _

/-! ### Statements -/

theorem expression_shows (calls : Nat) : Shows (expression calls) (Counted.expression calls) :=
  (expression_levels_show calls).expression

theorem assignment_shows (calls : Nat) : Shows (assignment calls) (Counted.assignment calls) :=
  (kindAhead_shows 0).bind fun _ => (kindAhead_shows 1).bind fun _ =>
    .ite
      (advance_shows.bind fun _ => advance_shows.bind fun _ => (expression_shows calls).map)
      ((kindAhead_shows 0).bind fun _ => (kindAhead_shows 1).bind fun _ =>
        (kindAhead_shows 2).bind fun _ => (kindAhead_shows 3).bind fun _ =>
        .ite
          (advance_shows.bind fun _ => advance_shows.bind fun _ => advance_shows.bind fun _ =>
            advance_shows.bind fun _ => (expression_shows calls).map)
          (refuse_shows .unknownStatement))

theorem forHead_shows (calls : Nat) : Shows (forHead calls) (Counted.forHead calls) :=
  (expect_shows _).bind fun _ => (assignment_shows calls).bind fun _ =>
    (expect_shows _).bind fun _ => (expression_shows calls).bind fun _ =>
    (expect_shows _).bind fun _ => (assignment_shows calls).bind fun _ => (expect_shows _).map

/-- The parts of a statement show those that are read with a counter, with the same calls. -/
structure StatementShows (calls : Nat) : Prop where
  statement : Shows (statement calls) (Counted.statement calls)
  unnested : Shows (unnested calls) (Counted.unnested calls)
  elseBranch : ∀ condition thenBranch, Shows (elseBranch calls condition thenBranch)
    (Counted.elseBranch calls condition thenBranch)
  body : Shows (body calls) (Counted.body calls)
  blockRest : ∀ found, Shows (blockRest calls found) (Counted.blockRest calls found)

theorem statement_levels_show (calls : Nat) : StatementShows calls := by
  induction calls with
  | zero =>
      exact
        { statement := outOfCalls_shows
          unnested := outOfCalls_shows
          elseBranch := fun _ _ => outOfCalls_shows
          body := outOfCalls_shows
          blockRest := fun _ => outOfCalls_shows }
  | succ calls ih =>
      have value := expression_shows calls
      constructor
      case statement => exact enter_shows.bind fun _ => leaving_shows ih.unnested
      case unnested =>
        refine .ifEaten _ value.map ?_
        refine .ifEaten _ (value.bind fun condition => ih.body.bind (ih.elseBranch condition)) ?_
        refine .ifEaten _ (value.bind fun condition => ih.body.map) ?_
        refine .ifEaten _ ((forHead_shows calls).bind fun head => ih.body.map) ?_
        exact assignment_shows calls
      case elseBranch =>
        intro condition thenBranch
        exact .ifEaten _ ih.body.map (pure_shows _)
      case body =>
        exact current_shows.bind fun _ =>
          .ite ((expect_shows _).bind fun _ => ih.blockRest []) ih.statement
      case blockRest =>
        intro found
        refine .ifEaten _ (pure_shows _) (current_shows.bind fun _ => ?_)
        exact .ite (refuse_shows .unclosedBlock)
          (ih.statement.bind fun next => ih.blockRest (next :: found))

theorem program_shows (calls : Nat) (found : List Stmt) :
    Shows (program calls found) (Counted.program calls found) := by
  induction calls generalizing found with
  | zero => exact outOfCalls_shows
  | succ calls ih =>
      exact .ifEaten _ (pure_shows _)
        ((statement_levels_show calls).statement.bind fun next => ih (next :: found))

end Indexed

end Kiss
