import Kiss.Proofs.Grammar.ExprReading

/-!
# Statements are read as what they are

The induction over statements goes on from the one over expressions. A statement may end in an
expression or in an `if` that is still open, so what stands behind it must not go on with an
expression and must not be an `else` if the `if` is open.
-/

namespace Kiss.Grammar

open Kiss.Parser (Outcome Reader frontKind readerAt)

variable {depth : Nat} {rest : List Token}

/-- A statement is read one level deeper than its place, if there is such a level. -/
theorem statement_eq (depth : Nat) (ts : List Token) :
    Parser.statement depth ts =
      if depth < maxDepth then
        ((readerAt (depth + 1) (maxDepth - (depth + 1))).unnested (depth + 1) ts).leave
      else Parser.tooDeep depth ts := by
  rw [Parser.statement]
  split
  · rename_i room
    rw [show maxDepth - depth = (maxDepth - (depth + 1)) + 1 by omega]
    rfl
  · rename_i full
    rw [show maxDepth - depth = 0 by omega]
    rfl

/-- What stands behind a statement goes on neither with an expression at its end nor with an
    `if` that is still open. -/
def StopsStatement (ending : Ending) (ts : List Token) : Prop :=
  endsExpression (frontKind ts) ∧ (ending = .openIf → frontKind ts ≠ .keyword .elseWord)

theorem StopsStatement.of_closed {ts : List Token} (ends : endsExpression (frontKind ts)) :
    StopsStatement .closed ts :=
  ⟨ends, fun same => by cases same⟩

/-- Behind the last of a row of statements a closing brace stops every statement. -/
theorem stopsStatement_statements (phrase : StmtPhrase .statements) {ending : Ending}
    (ends : endsExpression (frontKind rest)) (noElse : frontKind rest ≠ .keyword .elseWord) :
    StopsStatement ending (phrase.tokens ++ rest) :=
  ⟨phrase.ends_statements ends, fun _ => phrase.ne_else_statements noElse⟩

namespace StmtPhrase

variable {part : StmtPart}

/-- A statement reaches the level at which it stands. -/
theorem le_reach (phrase : StmtPhrase part) : ∀ depth, depth ≤ phrase.reach depth := by
  induction phrase with
  | assign _ _ value | assignField _ _ _ _ value =>
      exact fun depth => Nat.le_trans (by omega) (value.le_reach (depth + 1))
  | print _ value => exact fun depth => Nat.le_trans (by omega) (value.le_reach (depth + 2))
  | assignment _ ih => exact fun depth => Nat.le_trans (by omega) (ih (depth + 1))
  | ifThen _ condition | ifElse _ condition | whileLoop _ condition =>
      intro depth
      have inside := condition.le_reach (depth + 2)
      simp only [reach]
      omega
  | forLoop _ _ _ _ condition =>
      intro depth
      have inside := condition.le_reach (depth + 2)
      simp only [reach]
      omega
  | block _ _ _ ih | single _ ih => exact ih
  | none => exact fun depth => Nat.le_refl depth
  | more _ _ first _ => exact fun depth => Nat.le_trans (first depth) (Nat.le_max_left _ _)

/-- How a phrase is read from a depth, in front of given tokens. The statements of a block are
    read with its closing brace. -/
def IsReadFrom (phrase : StmtPhrase part) (depth : Nat) (tree : part.Tree) (rest : List Token) :
    Prop :=
  match part with
  | .assignment =>
      (Parser.assignment depth (phrase.tokens ++ rest)).Gives (phrase.reach depth ≤ maxDepth)
        tree rest
  | .statement _ =>
      (Parser.statement depth (phrase.tokens ++ rest)).Gives (phrase.reach depth ≤ maxDepth)
        tree rest
  | .body _ =>
      ((readerAt depth (maxDepth - depth)).body depth (phrase.tokens ++ rest)).Gives
        (phrase.reach depth ≤ maxDepth) tree rest
  | .statements =>
      ∀ (found : List Stmt) (brace : Terminal (.symbol .rightBrace)),
        ((readerAt depth (maxDepth - depth)).blockRest depth found
          (phrase.tokens ++ brace.token :: rest)).Gives (phrase.reach depth ≤ maxDepth)
          (.block (found.reverse ++ tree)) rest

/-- What a part of a program needs behind it. -/
def StopsBehind : StmtPart → List Token → Prop
  | .assignment, ts => endsExpression (frontKind ts)
  | .statement ending, ts => StopsStatement ending ts
  | .body ending, ts => StopsStatement ending ts
  | .statements, _ => True

/-- How a phrase is read wherever there is room for it. -/
def IsRead (phrase : StmtPhrase part) : Prop :=
  ∀ {depth tree rest}, depth ≤ maxDepth → phrase.tree? = some tree → StopsBehind part rest →
    phrase.IsReadFrom depth tree rest

theorem assignment_assign (depth : Nat) (name : Terminal .word)
    (sign : Terminal (.symbol .assign)) (ts : List Token) :
    Parser.assignment depth (name.token :: sign.token :: ts) =
      (Parser.expression depth ts).map (.assign name.token.value) := by
  rw [name.token_eq, sign.token_eq]
  rfl

theorem assignment_assignField (depth : Nat) (object : Terminal .word)
    (dot : Terminal (.symbol .dot)) (field : Terminal .word) (sign : Terminal (.symbol .assign))
    (ts : List Token) :
    Parser.assignment depth (object.token :: dot.token :: field.token :: sign.token :: ts) =
      (Parser.expression depth ts).map (.assignField object.token.value field.token.value) := by
  rw [object.token_eq, dot.token_eq, field.token_eq, sign.token_eq]
  rfl

/-- A body is read by the reader of its level, whether it is in braces or not. -/
theorem body_single {ending : Ending} (phrase : StmtPhrase (.statement ending))
    (reader : Reader) (depth : Nat) (rest : List Token) :
    reader.body depth (phrase.tokens ++ rest) = reader.read (phrase.tokens ++ rest) := by
  have begins := phrase.front_statement rest
  rw [Reader.body]
  split
  · rename_i front
    simp [front, beginsStatement] at begins
  · rfl

/-- A block goes on as long as neither its brace nor the end of the input comes. -/
theorem blockRest_of_ne {reader : Reader} {ts : List Token} (depth : Nat) (found : List Stmt)
    (noBrace : frontKind ts ≠ .symbol .rightBrace) (noEnd : frontKind ts ≠ .endOfInput) :
    reader.blockRest depth found ts =
      (reader.read ts).andThen fun next rest => reader.blockRest depth (next :: found) rest := by
  rw [Reader.blockRest]
  split
  · contradiction
  · contradiction
  · split
    · rename_i read
      rw [read]
      rfl
    · rename_i read
      rw [read]
      rfl

/-- A block goes on as long as statements begin. -/
theorem blockRest_of_begins {found : List Stmt} {reader : Reader} {ts : List Token}
    (begins : beginsStatement (frontKind ts)) :
    reader.blockRest depth found ts =
      (reader.read ts).andThen fun next rest => reader.blockRest depth (next :: found) rest := by
  refine blockRest_of_ne depth found (fun brace => ?_) (fun atEnd => ?_)
  · simp [brace, beginsStatement] at begins
  · simp [atEnd, beginsStatement] at begins

/-- What is read of a statement, from what is read of its parts one level deeper. -/
theorem statement_gives {ts : List Token} {enough : Prop} {tree : Stmt}
    (deep : enough → depth < maxDepth)
    (gives : depth < maxDepth →
      ((readerAt (depth + 1) (maxDepth - (depth + 1))).unnested (depth + 1) ts).Gives enough
        tree rest) :
    (Parser.statement depth ts).Gives enough tree rest := by
  rw [statement_eq]
  split
  · rename_i room
    exact (gives room).leave
  · rename_i full
    exact gives_tooDeep _ _ _ fun holds => full (deep holds)

theorem block_isRead {left : Terminal (.symbol .leftBrace)} {inner : StmtPhrase .statements}
    {right : Terminal (.symbol .rightBrace)} (isRead : inner.IsRead) :
    (block left inner right).IsRead := by
  intro depth tree rest within found stops
  obtain ⟨trees, innerFound, rfl⟩ := Option.map_eq_some_iff.mp found
  have read : inner.IsReadFrom depth trees rest := isRead within innerFound trivial
  simp only [IsReadFrom, tokens, List.cons_append, List.append_assoc, List.nil_append]
  rw [Reader.body, frontKind_terminal]
  exact read [] right

theorem none_isRead : none.IsRead := by
  intro depth tree rest within found stops others brace
  cases found
  rw [tokens, List.nil_append, Reader.blockRest, frontKind_terminal]
  simp only [List.append_nil, List.tail_cons]
  exact gives_ok _ _ within

theorem more_isRead {ending : Ending} {first : StmtPhrase (.statement ending)}
    {others : StmtPhrase .statements} (firstRead : first.IsRead) (othersRead : others.IsRead) :
    (more first others).IsRead := by
  intro depth tree rest within found stops before brace
  simp only [tree?, Option.bind_eq_some_iff, Option.map_eq_some_iff] at found
  obtain ⟨firstTree, firstFound, otherTrees, othersFound, rfl⟩ := found
  have closes : frontKind (brace.token :: rest) = .symbol .rightBrace := frontKind_terminal _ _
  have stopsFirst : StopsStatement ending (others.tokens ++ brace.token :: rest) :=
    stopsStatement_statements others
      (by rw [closes]; exact endsExpression_symbol (by decide)) (by simp [closes])
  have read := firstRead within firstFound stopsFirst
  rw [tokens, List.append_assoc, blockRest_of_begins (first.front_statement _)]
  refine (Outcome.Gives.andThen read fun _ => ?_).congr Nat.max_le.symm
  have go : others.IsReadFrom depth otherTrees rest := othersRead within othersFound trivial
  simpa using go (firstTree :: before) brace

theorem print_isRead (word : Terminal (.keyword .printWord)) (value : Expression) :
    (print word value).IsRead := by
  intro depth tree rest within found stops
  obtain ⟨valueTree, valueFound, rfl⟩ := Option.map_eq_some_iff.mp found
  have reaches := value.le_reach (depth + 2)
  refine statement_gives (fun enough => by simp only [reach] at enough; omega) fun room => ?_
  rw [tokens, List.cons_append, Reader.unnested, frontKind_terminal]
  exact (value.expression_isRead (Nat.succ_le_of_lt room) valueFound stops.1).map _

theorem assignment_isRead {inner : StmtPhrase .assignment} (isRead : inner.IsRead) :
    (assignment inner).IsRead := by
  intro depth tree rest within found stops
  have reaches := inner.le_reach (depth + 1)
  refine statement_gives (fun enough => by simp only [reach] at enough; omega) fun room => ?_
  rw [tokens, Reader.unnested, inner.front_assignment rest]
  exact isRead (Nat.succ_le_of_lt room) found stops.1

theorem ifThen_isRead {ending : Ending} {word : Terminal (.keyword .ifWord)}
    {condition : Expression} {thenBody : StmtPhrase (.body ending)} (isRead : thenBody.IsRead) :
    (ifThen word condition thenBody).IsRead := by
  intro depth tree rest within found stops
  simp only [tree?, Option.bind_eq_some_iff, Option.map_eq_some_iff] at found
  obtain ⟨conditionTree, conditionFound, thenTree, thenFound, rfl⟩ := found
  have reaches := condition.le_reach (depth + 2)
  refine statement_gives (fun enough => by simp only [reach] at enough; omega) fun room => ?_
  have inside := Nat.succ_le_of_lt room
  -- the phrase is still open, so its context promises that no `else` comes next
  have noElse := stops.2 rfl
  have first := condition.expression_isRead inside conditionFound (thenBody.ends_body rest)
  have second : thenBody.IsReadFrom (depth + 1) thenTree rest :=
    isRead inside thenFound ⟨stops.1, fun _ => noElse⟩
  have last : ((readerAt (depth + 1) (maxDepth - (depth + 1))).elseBranch (depth + 1) conditionTree
      thenTree rest).Gives True (.branch conditionTree thenTree Option.none) rest := by
    rw [Reader.elseBranch]
    split
    · exact absurd ‹_› noElse
    · exact gives_ok _ _ trivial
  rw [tokens, List.cons_append, List.append_assoc, Reader.unnested, frontKind_terminal]
  exact (first.andThen fun _ => Outcome.Gives.andThen second fun _ => last).congr
    (by simp only [and_true, reach, Nat.max_le])

theorem ifElse_isRead {ending : Ending} {word : Terminal (.keyword .ifWord)}
    {condition : Expression} {thenBody : StmtPhrase (.body .closed)}
    {elseWord : Terminal (.keyword .elseWord)} {elseBody : StmtPhrase (.body ending)}
    (thenRead : thenBody.IsRead) (elseRead : elseBody.IsRead) :
    (ifElse word condition thenBody elseWord elseBody).IsRead := by
  intro depth tree rest within found stops
  simp only [tree?, Option.bind_eq_some_iff, Option.map_eq_some_iff] at found
  obtain ⟨conditionTree, conditionFound, thenTree, thenFound, elseTree, elseFound, rfl⟩ := found
  have reaches := condition.le_reach (depth + 2)
  refine statement_gives (fun enough => by simp only [reach] at enough; omega) fun room => ?_
  have inside := Nat.succ_le_of_lt room
  -- the first branch is closed: it may stand in front of the `else` and does not take it
  have stopsThen : StopsStatement .closed (elseWord.token :: (elseBody.tokens ++ rest)) :=
    .of_closed (by rw [frontKind_terminal]; exact endsExpression_keyword _)
  have first := condition.expression_isRead inside conditionFound
    (thenBody.ends_body (elseWord.token :: (elseBody.tokens ++ rest)))
  have second := thenRead inside thenFound stopsThen
  have third := elseRead inside elseFound stops
  have last : ((readerAt (depth + 1) (maxDepth - (depth + 1))).elseBranch (depth + 1) conditionTree
      thenTree (elseWord.token :: (elseBody.tokens ++ rest))).Gives
      (elseBody.reach (depth + 1) ≤ maxDepth)
      (.branch conditionTree thenTree (some elseTree)) rest := by
    rw [Reader.elseBranch, frontKind_terminal]
    exact Outcome.Gives.map _ third
  simp only [tokens, List.cons_append, List.append_assoc]
  rw [Reader.unnested, frontKind_terminal]
  exact (first.andThen fun _ => Outcome.Gives.andThen second fun _ => last).congr
    (by simp only [reach, Nat.max_le])

theorem whileLoop_isRead {ending : Ending} {word : Terminal (.keyword .whileWord)}
    {condition : Expression} {inner : StmtPhrase (.body ending)} (isRead : inner.IsRead) :
    (whileLoop word condition inner).IsRead := by
  intro depth tree rest within found stops
  simp only [tree?, Option.bind_eq_some_iff, Option.map_eq_some_iff] at found
  obtain ⟨conditionTree, conditionFound, innerTree, innerFound, rfl⟩ := found
  have reaches := condition.le_reach (depth + 2)
  refine statement_gives (fun enough => by simp only [reach] at enough; omega) fun room => ?_
  have inside := Nat.succ_le_of_lt room
  have first := condition.expression_isRead inside conditionFound (inner.ends_body rest)
  have second : inner.IsReadFrom (depth + 1) innerTree rest := isRead inside innerFound stops
  rw [tokens, List.cons_append, List.append_assoc, Reader.unnested, frontKind_terminal]
  exact (first.andThen fun _ => Outcome.Gives.map _ second).congr
    (by simp only [reach, Nat.max_le])

/-- The head of a counting loop is read as its three parts. -/
theorem forHead_gives (left : Terminal (.symbol .leftParen)) {init : StmtPhrase .assignment}
    (firstEnd : Terminal (.symbol .semicolon)) {condition : Expression}
    (secondEnd : Terminal (.symbol .semicolon)) {increment : StmtPhrase .assignment}
    (right : Terminal (.symbol .rightParen)) (rest : List Token) {initTree incrementTree : Stmt}
    {conditionTree : Expr} (initRead : init.IsRead) (incrementRead : increment.IsRead)
    (within : depth ≤ maxDepth) (initFound : init.tree? = some initTree)
    (conditionFound : condition.tree? = some conditionTree)
    (incrementFound : increment.tree? = some incrementTree) :
    (Parser.forHead depth (left.token :: (init.tokens ++ firstEnd.token :: (condition.tokens ++
      secondEnd.token :: (increment.tokens ++ right.token :: rest))))).Gives
      (init.reach depth ≤ maxDepth ∧ condition.reach (depth + 1) ≤ maxDepth ∧
        increment.reach depth ≤ maxDepth) (initTree, conditionTree, incrementTree) rest := by
  have ends : ∀ {symbol : Symbol} (t : Terminal (.symbol symbol)) (ts : List Token),
      symbol ∈ [.rightParen, .leftBrace, .rightBrace, .semicolon] →
      endsExpression (frontKind (t.token :: ts)) := by
    intro symbol t ts punctuation
    rw [frontKind_terminal]
    exact endsExpression_symbol punctuation
  have first := initRead within initFound (ends firstEnd (condition.tokens ++
    secondEnd.token :: (increment.tokens ++ right.token :: rest)) (by decide))
  have second := condition.expression_isRead within conditionFound
    (ends secondEnd (increment.tokens ++ right.token :: rest) (by decide))
  have third := incrementRead within incrementFound (ends right rest (by decide))
  have last : ((Parser.expect (.symbol .rightParen) depth (right.token :: rest)).map fun _ =>
      (initTree, conditionTree, incrementTree)).Gives True
      (initTree, conditionTree, incrementTree) rest := by
    rw [expect_terminal]
    exact gives_ok _ _ trivial
  -- each part of the head is followed by the token that the reader expects there
  simp only [Parser.forHead, expect_terminal, Outcome.ok_andThen]
  refine (Outcome.Gives.andThen first fun _ => ?_).congr Iff.rfl
  simp only [expect_terminal, Outcome.ok_andThen]
  refine second.andThen fun _ => ?_
  simp only [expect_terminal, Outcome.ok_andThen]
  exact (Outcome.Gives.andThen third fun _ => last).congr (by rw [and_true])

theorem forLoop_isRead {ending : Ending} {word : Terminal (.keyword .forWord)}
    {left : Terminal (.symbol .leftParen)} {init : StmtPhrase .assignment}
    {firstEnd : Terminal (.symbol .semicolon)} {condition : Expression}
    {secondEnd : Terminal (.symbol .semicolon)} {increment : StmtPhrase .assignment}
    {right : Terminal (.symbol .rightParen)} {inner : StmtPhrase (.body ending)}
    (initRead : init.IsRead) (incrementRead : increment.IsRead) (isRead : inner.IsRead) :
    (forLoop word left init firstEnd condition secondEnd increment right inner).IsRead := by
  intro depth tree rest within found stops
  simp only [tree?, Option.bind_eq_some_iff, Option.map_eq_some_iff] at found
  obtain ⟨initTree, initFound, conditionTree, conditionFound, incrementTree, incrementFound,
    innerTree, innerFound, rfl⟩ := found
  have reaches := condition.le_reach (depth + 2)
  refine statement_gives (fun enough => by simp only [reach] at enough; omega) fun room => ?_
  have inside := Nat.succ_le_of_lt room
  have last : inner.IsReadFrom (depth + 1) innerTree rest := isRead inside innerFound stops
  simp only [tokens, List.cons_append, List.append_assoc]
  rw [Reader.unnested, frontKind_terminal]
  have head := forHead_gives left firstEnd secondEnd right (inner.tokens ++ rest) initRead
    incrementRead inside initFound conditionFound incrementFound
  exact (Outcome.Gives.andThen head fun _ => Outcome.Gives.map _ last).congr
    (by simp only [reach, Nat.max_le, and_assoc])

/-- Every phrase of a statement is read as what it is. -/
theorem isRead (phrase : StmtPhrase part) : phrase.IsRead := by
  induction phrase with
  | assign name sign value =>
      intro depth tree rest within found stops
      obtain ⟨valueTree, valueFound, rfl⟩ := Option.map_eq_some_iff.mp found
      simp only [IsReadFrom, tokens, List.cons_append, assignment_assign]
      exact (value.expression_isRead within valueFound stops).map _
  | assignField object dot field sign value =>
      intro depth tree rest within found stops
      obtain ⟨valueTree, valueFound, rfl⟩ := Option.map_eq_some_iff.mp found
      simp only [IsReadFrom, tokens, List.cons_append, assignment_assignField]
      exact (value.expression_isRead within valueFound stops).map _
  | print word value => exact print_isRead word value
  | assignment inner ih => exact assignment_isRead ih
  | ifThen word condition thenBody ih => exact ifThen_isRead ih
  | ifElse word condition thenBody elseWord elseBody ihThen ihElse =>
      exact ifElse_isRead ihThen ihElse
  | whileLoop word condition inner ih => exact whileLoop_isRead ih
  | forLoop word left init first condition second increment right inner ihInit ihIncrement ih =>
      exact forLoop_isRead ihInit ihIncrement ih
  | block left inner right ih => exact block_isRead ih
  | single inner ih =>
      intro depth tree rest within found stops
      simp only [IsReadFrom, tokens, body_single]
      exact ih within found stops
  | none => exact none_isRead
  | more first others ihFirst ihOthers => exact more_isRead ihFirst ihOthers

end StmtPhrase

end Kiss.Grammar
