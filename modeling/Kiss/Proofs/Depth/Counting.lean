import Kiss.Proofs.Depth.Counter
import Kiss.Proofs.Grammar.StmtLockstep

/-!
# The counter is always where the depth is

Reading with a counter comes to what the readers come to that are told their depth: the same value
and the same tokens left, with the counter where it was; or the same failure with the depth that
the readers say. It has a result for all tokens, so it ends and never takes a level off a counter at
zero: behind the entry to a level no failure counts fewer levels than were counted at the entry.
-/

namespace Kiss.Counted

open Kiss.Parser (Level Outcome Reader frontKind readerAt)

variable {sentinel : Token} {depth : Nat} {ts : List Token}
variable {level : Level} {left : Expr} {op : BinaryOp} {result : Except ParseError Expr × Parser}

section Sentinel

variable (isEnd : sentinel.kind = .endOfInput)

include isEnd

theorem nameOrField_comesTo (name : String) :
    ComesTo (fun _ => nameOrField name) ⟨ts, sentinel, depth⟩
      (ended sentinel depth (Parser.nameOrField depth name ts)) := by
  simp only [nameOrField]
  rw [comesTo_eat isEnd, Parser.nameOrField]
  by_cases dotted : frontKind ts = .symbol .dot
  · rw [if_pos dotted, dotted]
    exact map_ended (expect_comesTo isEnd (by decide))
  · rw [if_neg dotted]
    split
    · contradiction
    · exact .of_eq fun _ => rfl

/-- What cannot begin a primary expression is refused. -/
theorem primary_of_not_begins
    (different : Parser.beginsPrimary (frontKind ts) = false) :
    ComesTo primary ⟨ts, sentinel, depth⟩
      (ended sentinel depth (Parser.primary depth ts)) := by
  rw [Parser.primary_of_not_begins different, comesTo_succ]
  simp only [primary]
  rw [comesTo_current, kind_headD isEnd]
  generalize frontKind ts = kind at different
  split <;> first | exact .of_eq fun _ => rfl | cases different

theorem comesTo_again (found : level.step? (frontKind ts) = some (.again op)) :
    ComesTo (fun calls => chainRest calls level left) ⟨ts, sentinel, depth⟩ result ↔
      ComesTo (fun calls => enter >>= fun _ => operand calls level >>= fun right =>
        chainRest calls level (.binary op left right)) ⟨ts.tail, sentinel, depth⟩ result := by
  rw [comesTo_succ]
  simp only [chainRest]
  rw [comesTo_current, kind_headD isEnd, found]
  exact comesTo_advance

theorem comesTo_last (found : level.step? (frontKind ts) = some (.last op)) :
    ComesTo (fun calls => chainRest calls level left) ⟨ts, sentinel, depth⟩ result ↔
      ComesTo (fun calls => operand calls level >>= fun right =>
        pure (.binary op left right)) ⟨ts.tail, sentinel, depth⟩ result := by
  rw [comesTo_succ]
  simp only [chainRest]
  rw [comesTo_current, kind_headD isEnd, found]
  exact comesTo_advance

theorem comesTo_nested (found : level.step? (frontKind ts) = some (.nested op)) :
    ComesTo (fun calls => chainRest calls level left) ⟨ts, sentinel, depth⟩ result ↔
      ComesTo (fun calls => enter >>= fun _ => chainAt calls level >>= fun right =>
        pure (.binary op left right)) ⟨ts.tail, sentinel, depth⟩ result := by
  rw [comesTo_succ]
  simp only [chainRest]
  rw [comesTo_current, kind_headD isEnd, found]
  exact comesTo_advance

theorem expression_levels_comeTo :
    (∀ depth ts, ComesTo expression ⟨ts, sentinel, depth⟩
      (ended sentinel depth (Parser.expression depth ts))) ∧
    (∀ level depth ts, ComesTo (fun calls => chainAt calls level) ⟨ts, sentinel, depth⟩
      (ended sentinel depth (Parser.chainAt level depth ts))) ∧
    (∀ level depth left ts, ∃ after,
      ComesTo (fun calls => chainRest calls level left) ⟨ts, sentinel, depth⟩
        (ended sentinel after (Parser.chainRest level depth left ts))) ∧
    (∀ level depth ts, ComesTo (fun calls => operand calls level) ⟨ts, sentinel, depth⟩
      (ended sentinel depth (Parser.operand level depth ts))) ∧
    (∀ depth ts, ComesTo unary ⟨ts, sentinel, depth⟩
      (ended sentinel depth (Parser.unary depth ts))) ∧
    (∀ depth ts, ComesTo primary ⟨ts, sentinel, depth⟩
      (ended sentinel depth (Parser.primary depth ts))) := by
  obtain ⟨_, charges, _⟩ := Grammar.closed_charges.expression_levels
  apply Parser.expression_induction
  case inside =>
    intro depth ts within inner
    rw [comesTo_succ]
    simp only [expression]
    rw [comesTo_enter within, Parser.expression, if_pos within]
    exact leaving_comesTo (charges .sum (depth + 1) ts) inner
  case beyond =>
    intro depth ts beyond
    rw [comesTo_succ]
    simp only [expression]
    rw [Parser.expression, if_neg beyond]
    exact enter_comesTo beyond
  case chain =>
    intro level depth ts first more
    rw [comesTo_succ]
    simp only [chainAt]
    rw [Parser.chainAt]
    refine bind_ended first fun left rest => ?_
    obtain ⟨after, comes⟩ := more left rest
    exact restore_ended comes depth
  case ended =>
    intro level depth left ts found
    refine ⟨depth, ?_⟩
    rw [comesTo_succ]
    simp only [chainRest]
    rw [comesTo_current, kind_headD isEnd, found, Parser.chainRest_ended found]
    exact .of_eq fun _ => rfl
  case again =>
    intro level depth left ts op found within first more
    obtain ⟨after, comes⟩ := exists_bind_ended first more
    refine ⟨after, ?_⟩
    rw [comesTo_again isEnd found, Parser.chainRest_again found within]
    exact (comesTo_enter within).mpr comes
  case againBeyond =>
    intro level depth left ts op found beyond
    refine ⟨depth, ?_⟩
    rw [comesTo_again isEnd found, Parser.chainRest_again_beyond found beyond]
    exact enter_comesTo beyond
  case last =>
    intro level depth left ts op found right
    refine ⟨depth, ?_⟩
    rw [comesTo_last isEnd found, Parser.chainRest_last found]
    exact map_ended right
  case nested =>
    intro level depth left ts op found within right
    refine ⟨depth + 1, ?_⟩
    rw [comesTo_nested isEnd found, Parser.chainRest_nested found within]
    exact (comesTo_enter within).mpr (map_ended right)
  case nestedBeyond =>
    intro level depth left ts op found beyond
    refine ⟨depth, ?_⟩
    rw [comesTo_nested isEnd found, Parser.chainRest_nested_beyond found beyond]
    exact enter_comesTo beyond
  case minus =>
    intro depth ts front inner
    rw [comesTo_succ]
    simp only [unary]
    rw [comesTo_eat isEnd, if_pos front, Parser.unary, front]
    exact map_ended inner
  case plus =>
    intro depth ts front inner
    rw [comesTo_succ]
    simp only [unary]
    rw [comesTo_eat isEnd, if_neg (by simp [front]), comesTo_eat isEnd, if_pos front,
      Parser.unary, front]
    exact inner
  case bang =>
    intro depth ts front inner
    rw [comesTo_succ]
    simp only [unary]
    rw [comesTo_eat isEnd, if_neg (by simp [front]), comesTo_eat isEnd, if_neg (by simp [front]),
      comesTo_eat isEnd, if_pos front, Parser.unary, front]
    exact map_ended inner
  case unsigned =>
    intro depth ts noMinus noPlus noBang inner
    rw [comesTo_succ]
    simp only [unary]
    rw [comesTo_eat isEnd, if_neg noMinus, comesTo_eat isEnd, if_neg noPlus, comesTo_eat isEnd,
      if_neg noBang, Parser.unary_unsigned noMinus noPlus noBang]
    exact inner
  case number =>
    intro depth t rest kind
    rw [comesTo_succ]
    simp only [primary]
    rw [comesTo_current, List.headD_cons, kind, Parser.primary, kind]
    refine .of_eq fun _ => ?_
    simp only [numberLiteral, Parser.numberLiteral]
    cases Number.read? t.value <;> rfl
  case hexNumber =>
    intro depth t rest kind
    rw [comesTo_succ]
    simp only [primary]
    rw [comesTo_current, List.headD_cons, kind, Parser.primary, kind]
    refine .of_eq fun _ => ?_
    simp only [hexLiteral, Parser.hexLiteral]
    cases Number.readHex? t.value <;> rfl
  case text | trueWord | falseWord =>
    intro depth t rest kind
    rw [comesTo_succ]
    simp only [primary]
    rw [comesTo_current, List.headD_cons, kind, Parser.primary, kind]
    exact .of_eq fun _ => rfl
  case word =>
    intro depth t rest kind
    rw [comesTo_succ]
    simp only [primary]
    rw [comesTo_current, List.headD_cons, kind, Parser.primary, kind]
    exact comesTo_advance.mpr (nameOrField_comesTo isEnd t.value)
  case leftBrace =>
    intro depth t rest kind
    rw [comesTo_succ]
    simp only [primary]
    rw [comesTo_current, List.headD_cons, kind, Parser.primary, kind]
    exact comesTo_advance.mpr (map_ended (expect_comesTo isEnd (by decide)))
  case leftParen =>
    intro depth t rest kind inner
    rw [comesTo_succ]
    simp only [primary]
    rw [comesTo_current, List.headD_cons, kind, Parser.primary, kind]
    refine comesTo_advance.mpr (bind_ended inner fun value rest => ?_)
    exact map_ended (expect_comesTo isEnd (by decide))
  case noPrimary => exact fun depth ts different => primary_of_not_begins isEnd different
  all_goals
    intro depth ts inner
    rw [comesTo_succ]
    simp only [operand]
    rw [Parser.operand]
    exact inner

theorem expression_comesTo :
    ComesTo expression ⟨ts, sentinel, depth⟩
      (ended sentinel depth (Parser.expression depth ts)) :=
  (expression_levels_comeTo isEnd).1 depth ts

/-- The first tokens decide which assignment it is, if any. -/
theorem assignment_comesTo :
    ComesTo assignment ⟨ts, sentinel, depth⟩
      (ended sentinel depth (Parser.assignment depth ts)) := by
  show ComesTo (fun calls => assignment calls) _ _
  simp only [assignment]
  rw [comesTo_kindAt, comesTo_kindAt, comesTo_ite, List.drop_zero, List.drop_one]
  by_cases isVariable : frontKind ts = .word ∧ frontKind ts.tail = .symbol .assign
  · rw [if_pos isVariable, comesTo_advance, comesTo_advance]
    obtain ⟨isWord, isSign⟩ := isVariable
    obtain ⟨name, _, rfl⟩ := Grammar.exists_cons isWord (by decide)
    obtain ⟨sign, rest, rfl⟩ := Grammar.exists_cons isSign (by decide)
    rw [Grammar.StmtPhrase.assignment_assign]
    exact map_ended (expression_comesTo isEnd)
  rw [if_neg isVariable, comesTo_kindAt, comesTo_kindAt, comesTo_kindAt, comesTo_kindAt,
    comesTo_ite]
  have shifts : ts.drop 2 = ts.tail.tail ∧ ts.drop 3 = ts.tail.tail.tail := by
    simp only [← List.drop_one, List.drop_drop, and_self]
  rw [List.drop_zero, List.drop_one, shifts.1, shifts.2]
  by_cases isField : frontKind ts = .word ∧ frontKind ts.tail = .symbol .dot ∧
      frontKind ts.tail.tail = .word ∧ frontKind ts.tail.tail.tail = .symbol .assign
  · rw [if_pos isField, comesTo_advance, comesTo_advance, comesTo_advance, comesTo_advance]
    obtain ⟨isWord, isDot, isField, isSign⟩ := isField
    obtain ⟨object, _, rfl⟩ := Grammar.exists_cons isWord (by decide)
    obtain ⟨dot, _, rfl⟩ := Grammar.exists_cons isDot (by decide)
    obtain ⟨field, _, rfl⟩ := Grammar.exists_cons isField (by decide)
    obtain ⟨sign, rest, rfl⟩ := Grammar.exists_cons isSign (by decide)
    rw [Grammar.StmtPhrase.assignment_assignField]
    exact map_ended (expression_comesTo isEnd)
  · rw [if_neg isField, Grammar.Lockstep.assignment_of_ne isVariable isField]
    exact .of_eq fun _ => rfl

theorem forHead_comesTo :
    ComesTo forHead ⟨ts, sentinel, depth⟩ (ended sentinel depth (Parser.forHead depth ts)) :=
  bind_ended (expect_comesTo isEnd (by decide)) fun _ _ =>
    bind_ended (assignment_comesTo isEnd) fun _ _ =>
    bind_ended (expect_comesTo isEnd (by decide)) fun _ _ =>
    bind_ended (expression_comesTo isEnd) fun _ _ =>
    bind_ended (expect_comesTo isEnd (by decide)) fun _ _ =>
    bind_ended (assignment_comesTo isEnd) fun _ _ => map_ended (expect_comesTo isEnd (by decide))

section Readers

variable {reader : Reader} (reads : ∀ ts, ComesTo statement ⟨ts, sentinel, depth⟩
  (ended sentinel depth (reader.read ts)))

include reads

theorem blockRest_comesTo (found : List Stmt) (ts : List Token) :
    ComesTo (fun calls => blockRest calls found) ⟨ts, sentinel, depth⟩
      (ended sentinel depth (reader.blockRest depth found ts)) := by
  rw [comesTo_succ]
  simp only [blockRest]
  rw [comesTo_eat isEnd]
  fun_induction Reader.blockRest reader depth found ts with
  | case1 found ts closing =>
      rw [if_pos closing]
      exact .of_eq fun _ => rfl
  | case2 found ts atEnd =>
      rw [if_neg (by simp [atEnd]), comesTo_current, kind_headD isEnd, comesTo_ite, if_pos atEnd]
      exact .of_eq fun _ => rfl
  | case3 found ts fault rest reached failed noBrace noEnd =>
      have first := reads ts
      rw [failed] at first
      rw [if_neg noBrace, comesTo_current, kind_headD isEnd, comesTo_ite, if_neg noEnd]
      exact first.bind_error
  | case4 found ts next rest done noBrace noEnd more =>
      have first := reads ts
      rw [done] at first
      rw [if_neg noBrace, comesTo_current, kind_headD isEnd, comesTo_ite, if_neg noEnd]
      refine first.bind (comesTo_succ.mpr ?_)
      simp only [blockRest]
      rw [comesTo_eat isEnd]
      exact more

theorem body_comesTo (ts : List Token) :
    ComesTo body ⟨ts, sentinel, depth⟩ (ended sentinel depth (reader.body depth ts)) := by
  rw [comesTo_succ]
  simp only [body]
  rw [comesTo_current, kind_headD isEnd, comesTo_ite, Reader.body]
  by_cases opening : frontKind ts = .symbol .leftBrace
  · obtain ⟨brace, rest, rfl⟩ := Grammar.exists_cons opening (by decide)
    rw [if_pos opening, opening]
    have taken : ComesTo (fun _ => expect (.symbol .leftBrace))
        ⟨brace.token :: rest, sentinel, depth⟩ (ended sentinel depth (.ok brace.token rest)) := by
      rw [← Grammar.expect_terminal]
      exact expect_comesTo isEnd (by decide)
    exact taken.bind (blockRest_comesTo isEnd reads [] rest)
  · rw [if_neg opening]
    split
    · contradiction
    · exact reads ts

theorem elseBranch_comesTo (condition : Expr) (thenBranch : Stmt) (ts : List Token) :
    ComesTo (fun calls => elseBranch calls condition thenBranch) ⟨ts, sentinel, depth⟩
      (ended sentinel depth (reader.elseBranch depth condition thenBranch ts)) := by
  rw [comesTo_succ]
  simp only [elseBranch]
  rw [comesTo_eat isEnd, Reader.elseBranch]
  by_cases other : frontKind ts = .keyword .elseWord
  · rw [if_pos other, other]
    exact map_ended (body_comesTo isEnd reads ts.tail)
  · rw [if_neg other]
    split
    · contradiction
    · exact .of_eq fun _ => rfl

theorem unnested_comesTo (ts : List Token) :
    ComesTo unnested ⟨ts, sentinel, depth⟩ (ended sentinel depth (reader.unnested depth ts)) := by
  rw [comesTo_succ]
  simp only [unnested]
  rw [comesTo_eat isEnd, comesTo_eat isEnd, comesTo_eat isEnd, comesTo_eat isEnd, Reader.unnested]
  by_cases isPrint : frontKind ts = .keyword .printWord
  · rw [if_pos isPrint, isPrint]
    exact map_ended (expression_comesTo isEnd)
  rw [if_neg isPrint]
  by_cases isIf : frontKind ts = .keyword .ifWord
  · rw [if_pos isIf, isIf]
    exact bind_ended (expression_comesTo isEnd) fun condition rest =>
      bind_ended (body_comesTo isEnd reads rest) fun thenBranch rest =>
        elseBranch_comesTo isEnd reads condition thenBranch rest
  rw [if_neg isIf]
  by_cases isWhile : frontKind ts = .keyword .whileWord
  · rw [if_pos isWhile, isWhile]
    exact bind_ended (expression_comesTo isEnd) fun condition rest =>
      map_ended (body_comesTo isEnd reads rest)
  rw [if_neg isWhile]
  by_cases isFor : frontKind ts = .keyword .forWord
  · rw [if_pos isFor, isFor]
    exact bind_ended (forHead_comesTo isEnd) fun head rest =>
      map_ended (body_comesTo isEnd reads rest)
  rw [if_neg isFor]
  split
  · contradiction
  · contradiction
  · contradiction
  · contradiction
  · exact assignment_comesTo isEnd

end Readers

/-- Statements of all levels, by induction on the levels that are free. -/
theorem statement_comesTo (depth : Nat) (ts : List Token) :
    ComesTo statement ⟨ts, sentinel, depth⟩
      (ended sentinel depth (Parser.statement depth ts)) := by
  induction free : maxDepth - depth generalizing depth ts with
  | zero =>
      have full : ¬depth < maxDepth := by omega
      rw [comesTo_succ]
      simp only [statement]
      rw [Grammar.statement_eq, if_neg full]
      exact enter_comesTo full
  | succ free ih =>
      have room : depth < maxDepth := by omega
      have reads (ts : List Token) := ih (depth + 1) ts (by omega)
      rw [comesTo_succ]
      simp only [statement]
      rw [comesTo_enter room, Grammar.statement_eq, if_pos room]
      exact leaving_comesTo (Grammar.closed_charges.unnested
        (Grammar.closed_charges.statement (depth + 1)) ts) (unnested_comesTo isEnd reads ts)

theorem program_comesTo (depth : Nat) (found : List Stmt) (ts : List Token) :
    ComesTo (fun calls => program calls found) ⟨ts, sentinel, depth⟩
      (ended sentinel depth (Parser.program depth found ts)) := by
  rw [comesTo_succ]
  simp only [program]
  rw [comesTo_eat isEnd]
  fun_induction Parser.program depth found ts with
  | case1 found ts atEnd =>
      rw [if_pos atEnd]
      exact .of_eq fun _ => rfl
  | case2 found ts fault rest reached failed noEnd =>
      have first := statement_comesTo isEnd depth ts
      rw [failed] at first
      rw [if_neg noEnd]
      exact first.bind_error
  | case3 found ts next rest done noEnd more =>
      have first := statement_comesTo isEnd depth ts
      rw [done] at first
      rw [if_neg noEnd]
      refine first.bind (comesTo_succ.mpr ?_)
      simp only [program]
      rw [comesTo_eat isEnd]
      exact more

end Sentinel

/-- A program that is read with a counter is the program that the parser reads, and leaves the same
    parser behind. -/
theorem program_comesTo_parse {p : Parser} (isEnd : p.sentinel.kind = .endOfInput) :
    ComesTo (fun calls => program calls []) p p.parse := by
  have read := program_comesTo isEnd p.depth [] p.rest
  rw [Parser.parse]
  cases result : Parser.program p.depth [] p.rest with
  | ok tree rest =>
      rw [result] at read
      exact read
  | fail fault rest reached =>
      rw [result] at read
      exact read

end Kiss.Counted
