import Kiss.Proofs.Depth.Counting
import Kiss.Proofs.Index.Barrier
import Kiss.Proofs.Index.View

/-!
# Reading by index ends

What reads with a counter ends, so what shows it ends as well. Where it ends is seen first of all
without the tokens before the index, but as the index does not pass the next end of the input there
is only one that it can be. So every procedure comes from every parser, with enough calls, to one
result, and it takes the tokens that it has to take without passing the end.
-/

namespace Kiss

open Filter (atTop)
open Kiss.Parser (Level Outcome readerAt)

namespace IndexedParser

variable {p q r : IndexedParser}

theorem barrier_le_max (p : IndexedParser) : p.barrier ≤ max p.index p.tokens.length :=
  barrier_le (Nat.le_max_left _ _) (p.kindAt_of_length_le (Nat.le_max_right _ _))

theorem eq_of_view (tokens : q.tokens = r.tokens) (index : q.index = r.index)
    (same : q.view = r.view) : q = r := by
  cases q
  cases r
  simp only [view, Parser.mk.injEq] at same
  simp only [mk.injEq]
  exact ⟨tokens, index, same.2⟩

/-- Up to the next end of the input a parser with fewer tokens left stands no earlier. -/
theorem Reaches.index_le (first : p.Reaches 0 q) (second : p.Reaches 0 r)
    (left : r.view.rest <:+ q.view.rest) : q.index ≤ r.index := by
  have fewer := left.length_le
  simp only [view, List.length_drop, first.tokens, second.tokens] at fewer
  have := first.within
  have := second.forward
  have := p.barrier_le_max
  omega

/-- Up to the next end of the input the tokens that are left say where a parser stands. -/
theorem Reaches.eq_of_view (first : p.Reaches 0 q) (second : p.Reaches 0 r)
    (same : q.view = r.view) : q = r := by
  refine IndexedParser.eq_of_view (first.tokens.trans second.tokens.symm) ?_ same
  apply Nat.le_antisymm
  · exact first.index_le second (by rw [same])
  · exact second.index_le first (by rw [same])

end IndexedParser

namespace Indexed

variable {α : Type} {p : IndexedParser} {count : Nat} {outcome : Outcome α}
variable {m : Nat → Indexed α} {n : Nat → Counted α} {result : Except ParseError α × Parser}

/-- With enough calls the result is always the same. -/
def ComesTo (m : Nat → Indexed α) (p : IndexedParser)
    (reached : Except ParseError α × IndexedParser) : Prop :=
  ∀ᶠ calls in atTop, m calls p = some reached

/-- What shows a computation that ends does so too, if it can end in one place only. -/
theorem exists_comesTo (shows : ∀ calls, Shows (m calls) (n calls))
    (comes : Counted.ComesTo n p.view result)
    (unique : ∀ {calls calls' q r}, m calls p = some (result.1, q) →
      m calls' p = some (result.1, r) → q.view = r.view → q = r) :
    ∃ q, q.view = result.2 ∧ ComesTo m p (result.1, q) := by
  have ends : ∀ᶠ calls in atTop, ∃ q, q.view = result.2 ∧ m calls p = some (result.1, q) := by
    filter_upwards [comes] with calls same
    rw [shows calls p, Option.map_eq_some_iff] at same
    obtain ⟨⟨_, q⟩, reached, rfl⟩ := same
    exact ⟨q, rfl, reached⟩
  obtain ⟨enough, q, view, reached⟩ := ends.exists
  refine ⟨q, view, ?_⟩
  filter_upwards [ends] with calls other
  obtain ⟨r, otherView, alsoReached⟩ := other
  rw [alsoReached, unique reached alsoReached (view.trans otherView.symm)]

/-- A procedure that comes to what a reader says, with the reader's tokens left and the reader's
    depth counted. However many calls it may make, it neither goes back nor passes the next end of
    the input, and with a value it takes so many tokens at least. -/
structure Advances (p : IndexedParser) (count : Nat) (m : Nat → Indexed α) (outcome : Outcome α) :
    Prop where
  ends : ∃ q, q.view = (Counted.ended p.sentinel p.depth outcome).2 ∧
    ComesTo m p ((Counted.ended p.sentinel p.depth outcome).1, q)
  moves : ∀ calls, Moves p count (m calls)

theorem Advances.of_shows (shows : ∀ calls, Shows (m calls) (n calls))
    (comes : Counted.ComesTo n p.view (Counted.ended p.sentinel p.depth outcome))
    (moves : ∀ calls, Moves p count (m calls)) : Advances p count m outcome where
  ends := exists_comesTo shows comes fun one other => (moves _ _ _ one).1.eq_of_view
    (moves _ _ _ other).1
  moves := moves

/-! ### The procedures -/

theorem statement_advances (p : IndexedParser) :
    Advances p 2 statement (Parser.statement p.depth p.view.rest) :=
  .of_shows (fun calls => (statement_levels_show calls).statement)
    (Counted.statement_comesTo p.isEnd p.depth p.view.rest)
    fun calls => (statement_levels_move calls).statement p

theorem block_advances (p : IndexedParser) :
    Advances p 2 block ((Parser.expect (.symbol .leftBrace) p.depth p.view.rest).andThen fun _ =>
      (readerAt p.depth (maxDepth - p.depth)).blockRest p.depth []) :=
  .of_shows (fun calls => (expect_shows _).bind fun _ => (statement_levels_show calls).blockRest [])
    (Counted.bind_ended (Counted.expect_comesTo p.isEnd (by decide)) fun _ =>
      Counted.blockRest_comesTo p.isEnd (Counted.statement_comesTo p.isEnd p.depth) [])
    fun calls => block_moves calls p

theorem expression_advances (p : IndexedParser) :
    Advances p 1 expression (Parser.expression p.depth p.view.rest) :=
  .of_shows expression_shows (Counted.expression_comesTo p.isEnd)
    fun calls => expression_moves calls p

theorem chainAt_advances (p : IndexedParser) (level : Level) :
    Advances p 1 (fun calls => chainAt calls level) (Parser.chainAt level p.depth p.view.rest) := by
  obtain ⟨_, comes, _⟩ := Counted.expression_levels_comeTo p.isEnd
  exact .of_shows (fun calls => (expression_levels_show calls).chainAt level)
    (comes level p.depth p.view.rest) fun calls => (expression_levels_move calls).chainAt p level

theorem unary_advances (p : IndexedParser) :
    Advances p 1 unary (Parser.unary p.depth p.view.rest) := by
  obtain ⟨_, _, _, _, comes, _⟩ := Counted.expression_levels_comeTo p.isEnd
  exact .of_shows (fun calls => (expression_levels_show calls).unary) (comes p.depth p.view.rest)
    fun calls => (expression_levels_move calls).unary p

theorem primary_advances (p : IndexedParser) :
    Advances p 1 primary (Parser.primary p.depth p.view.rest) := by
  obtain ⟨_, _, _, _, _, comes⟩ := Counted.expression_levels_comeTo p.isEnd
  exact .of_shows (fun calls => (expression_levels_show calls).primary) (comes p.depth p.view.rest)
    fun calls => (expression_levels_move calls).primary p

/-! ### Programs -/

theorem EndsAt.eq_of_view {result : Except ParseError Stmt} {q r : IndexedParser}
    (first : EndsAt p (result, q)) (second : EndsAt p (result, r)) (same : q.view = r.view) :
    q = r := by
  cases result with
  | ok tree =>
      exact IndexedParser.eq_of_view (first.1.trans second.1.symm) (first.2.trans second.2.symm)
        same
  | error e => exact IndexedParser.Reaches.eq_of_view first second same

/-- A program is read to its end from every parser, with the result that the parser of the tokens
    that are left comes to. -/
theorem program_ends (p : IndexedParser) :
    ∃ q, q.view = p.view.parse.2 ∧ EndsAt p (p.view.parse.1, q) ∧
      ComesTo (fun calls => program calls []) p (p.view.parse.1, q) := by
  obtain ⟨q, view, comes⟩ := exists_comesTo (fun calls => program_shows calls [])
    (Counted.program_comesTo_parse p.isEnd)
    fun one other => (program_endsAt one).eq_of_view (program_endsAt other)
  obtain ⟨calls, reached⟩ := comes.exists
  exact ⟨q, view, program_endsAt reached, comes⟩

/-- Whether there is an end of the input among some tokens or not, they can be read. -/
theorem parse_ends (tokens : List Token) :
    ∃ q, ComesTo (fun calls => program calls []) (.ofTokens tokens) (parse tokens, q) := by
  obtain ⟨q, _, _, comes⟩ := program_ends (.ofTokens tokens)
  rw [IndexedParser.view_ofTokens] at comes
  exact ⟨q, comes⟩

/-- Behind all tokens the input is at its end as often as it is looked at, and every program that is
    read there takes the index one further. -/
example : ((program 1 [] >>= fun _ => program 1 []) (.ofTokens [])).map (·.2.index) = some 2 := rfl

/-- From every parser, whatever its tokens are and wherever it stands among them or behind them,
    each procedure comes with enough calls to what the reader of its name says. Every call of it
    leaves the index where it was or further on, up to the next end of the input: further by two
    tokens or more if it read a statement or a block, and by one or more if it read an expression
    or a part of one. A program that is read passes that end, and nothing behind it. -/
theorem parsing_advances (p : IndexedParser) :
    Advances p 2 statement (Parser.statement p.depth p.view.rest) ∧
    Advances p 2 block ((Parser.expect (.symbol .leftBrace) p.depth p.view.rest).andThen fun _ =>
      (readerAt p.depth (maxDepth - p.depth)).blockRest p.depth []) ∧
    Advances p 1 expression (Parser.expression p.depth p.view.rest) ∧
    (∀ level, Advances p 1 (fun calls => chainAt calls level)
      (Parser.chainAt level p.depth p.view.rest)) ∧
    Advances p 1 unary (Parser.unary p.depth p.view.rest) ∧
    Advances p 1 primary (Parser.primary p.depth p.view.rest) ∧
    ∃ q, q.view = p.view.parse.2 ∧ EndsAt p (p.view.parse.1, q) ∧
      ComesTo (fun calls => program calls []) p (p.view.parse.1, q) :=
  ⟨statement_advances p, block_advances p, expression_advances p, chainAt_advances p,
    unary_advances p, primary_advances p, program_ends p⟩

end Indexed

end Kiss
