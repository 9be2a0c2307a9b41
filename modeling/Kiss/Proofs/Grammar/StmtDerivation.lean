import Kiss.Proofs.Grammar.ExprDerivation

/-!
# What is read as a statement is one

The readers of statements are built level by level, so what they read is shown to be a phrase
for one level from the next deeper one. An `if` takes every `else` that it meets: behind what
is read as a statement that ends in an open `if` there is no `else`, and so what stands in
front of an `else` is closed.
-/

namespace Kiss.Grammar

open Kiss.Parser (Outcome Reader frontKind readerAt)

variable {ts : List Token} {reader : Reader}

/-- The tokens in front of what is left are an assignment with the given tree. -/
def IsAssignment (ts : List Token) (tree : Stmt) (rest : List Token) : Prop :=
  ∃ phrase : StmtPhrase .assignment, phrase.tokens ++ rest = ts ∧ phrase.tree? = some tree

/-- The tokens in front of what is left are a statement with the given tree, and no `else`
    is left for an `if` at its end. -/
def IsStatement (ts : List Token) (tree : Stmt) (rest : List Token) : Prop :=
  ∃ (ending : Ending) (phrase : StmtPhrase (.statement ending)),
    phrase.tokens ++ rest = ts ∧ phrase.tree? = some tree ∧
      (ending = .openIf → frontKind rest ≠ .keyword .elseWord)

/-- The same of the body of another statement. -/
def IsBody (ts : List Token) (tree : Stmt) (rest : List Token) : Prop :=
  ∃ (ending : Ending) (phrase : StmtPhrase (.body ending)),
    phrase.tokens ++ rest = ts ∧ phrase.tree? = some tree ∧
      (ending = .openIf → frontKind rest ≠ .keyword .elseWord)

/-- The tokens in front of what is left are statements, which come behind those found before,
    and a closing brace. -/
def IsBlockRest (found : List Stmt) (ts : List Token) (tree : Stmt) (rest : List Token) : Prop :=
  ∃ (phrase : StmtPhrase .statements) (brace : Terminal (.symbol .rightBrace))
    (trees : List Stmt), phrase.tokens ++ brace.token :: rest = ts ∧
      phrase.tree? = some trees ∧ tree = .block (found.reverse ++ trees)

/-- A reader that takes nothing but statements. -/
def TakesStatements (reader : Reader) : Prop :=
  ∀ ts, (reader.read ts).Ensures (IsStatement ts)

theorem assignment_ensures (depth : Nat) (ts : List Token) :
    (Parser.assignment depth ts).Ensures (IsAssignment ts) := by
  unfold Parser.assignment
  split
  · rename_i name p signValue q rest
    refine (expression_ensures depth rest).map fun value behind found => ?_
    obtain ⟨phrase, rfl, tree⟩ := found
    exact ⟨.assign ⟨⟨.word, name, p⟩, rfl⟩ ⟨⟨.symbol .assign, signValue, q⟩, rfl⟩ phrase, rfl,
      by rw [StmtPhrase.tree?, tree]; rfl⟩
  · rename_i object p dotValue q field r signValue s rest
    refine (expression_ensures depth rest).map fun value behind found => ?_
    obtain ⟨phrase, rfl, tree⟩ := found
    exact ⟨.assignField ⟨⟨.word, object, p⟩, rfl⟩ ⟨⟨.symbol .dot, dotValue, q⟩, rfl⟩
      ⟨⟨.word, field, r⟩, rfl⟩ ⟨⟨.symbol .assign, signValue, s⟩, rfl⟩ phrase, rfl,
      by rw [StmtPhrase.tree?, tree]; rfl⟩
  · trivial

/-- One more statement in front of the statements of a block. -/
theorem IsStatement.cons_blockRest {found : List Stmt} {first tree : Stmt}
    {behind rest : List Token} (isFirst : IsStatement ts first behind)
    (others : IsBlockRest (first :: found) behind tree rest) :
    IsBlockRest found ts tree rest := by
  obtain ⟨ending, firstPhrase, rfl, firstTree, _⟩ := isFirst
  obtain ⟨phrase, brace, trees, rfl, treesFound, rfl⟩ := others
  refine ⟨.more firstPhrase phrase, brace, first :: trees, ?_, ?_, by simp⟩
  · rw [StmtPhrase.tokens, List.append_assoc]
  · rw [StmtPhrase.tree?, firstTree, treesFound]
    rfl

theorem blockRest_ensures (statements : TakesStatements reader) (depth : Nat)
    (found : List Stmt) (ts : List Token) :
    (reader.blockRest depth found ts).Ensures (IsBlockRest found ts) := by
  fun_induction Reader.blockRest reader depth found ts with
  | case1 found ts closing =>
      obtain ⟨brace, split⟩ := exists_terminal closing (by decide)
      exact ⟨.none, brace, [], split.symm, rfl, by simp⟩
  | case2 => trivial
  | case3 => trivial
  | case4 found ts next rest done _ _ more =>
      have first := statements ts
      rw [done] at first
      exact more.mono fun tree behind others => first.cons_blockRest others

theorem body_ensures (statements : TakesStatements reader) (depth : Nat)
    (ts : List Token) : (reader.body depth ts).Ensures (IsBody ts) := by
  rw [Reader.body]
  split
  · rename_i opening
    obtain ⟨left, split⟩ := exists_terminal opening (by decide)
    refine (blockRest_ensures statements depth [] ts.tail).mono fun tree rest inner => ?_
    obtain ⟨phrase, right, trees, same, found, rfl⟩ := inner
    refine ⟨.closed, .block left phrase right, ?_, ?_, fun same => by cases same⟩
    · rw [split, ← same]
      simp [StmtPhrase.tokens]
    · rw [StmtPhrase.tree?, found]
      rfl
  · refine (statements ts).mono fun tree rest isStatement => ?_
    obtain ⟨ending, phrase, same, found, noElse⟩ := isStatement
    exact ⟨ending, .single phrase, same, found, noElse⟩

/-- An `else` behind the first branch of an `if` is taken, so the branch is closed. -/
theorem elseBranch_ensures (statements : TakesStatements reader) (depth : Nat)
    {before : List Token} {condition : Expr} {thenBranch : Stmt} {thenTokens : List Token}
    (word : Terminal (.keyword .ifWord)) (isCondition : IsExpr (.chain .sum) before condition
      thenTokens) (isThen : IsBody thenTokens thenBranch ts) :
    (reader.elseBranch depth condition thenBranch ts).Ensures
      (IsStatement (word.token :: before)) := by
  obtain ⟨conditionPhrase, rfl, conditionTree⟩ := isCondition
  obtain ⟨ending, thenPhrase, rfl, thenTree, noElse⟩ := isThen
  rw [Reader.elseBranch]
  split
  · rename_i front
    obtain ⟨elseWord, split⟩ := exists_terminal front (by decide)
    refine (body_ensures statements depth ts.tail).map fun tree rest isElse => ?_
    obtain ⟨elseEnding, elsePhrase, same, elseTree, noMore⟩ := isElse
    -- an open first branch would have taken the `else` itself
    cases ending with
    | openIf => exact absurd front (noElse rfl)
    | closed =>
        refine ⟨elseEnding, .ifElse word conditionPhrase thenPhrase elseWord elsePhrase, ?_, ?_,
          noMore⟩
        · rw [split, ← same]
          simp [StmtPhrase.tokens]
        · rw [StmtPhrase.tree?, conditionTree, thenTree, elseTree]
          rfl
  · rename_i front
    refine ⟨.openIf, .ifThen word conditionPhrase thenPhrase, ?_, ?_, fun _ => front⟩
    · simp [StmtPhrase.tokens]
    · rw [StmtPhrase.tree?, conditionTree, thenTree]
      rfl

/-- The tokens in front of what is left are the head of a counting loop. -/
def IsForHead (ts : List Token) (head : Stmt × Expr × Stmt) (rest : List Token) : Prop :=
  ∃ (left : Terminal (.symbol .leftParen)) (init : StmtPhrase .assignment)
    (first : Terminal (.symbol .semicolon)) (condition : Expression)
    (second : Terminal (.symbol .semicolon)) (increment : StmtPhrase .assignment)
    (right : Terminal (.symbol .rightParen)),
    left.token :: (init.tokens ++ first.token :: (condition.tokens ++ second.token ::
      (increment.tokens ++ right.token :: rest))) = ts ∧ init.tree? = some head.1 ∧
      condition.tree? = some head.2.1 ∧ increment.tree? = some head.2.2

theorem forHead_ensures (depth : Nat) (ts : List Token) :
    (Parser.forHead depth ts).Ensures (IsForHead ts) := by
  refine (expect_ensures _ depth ts).andThen fun _ inHead hasLeft => ?_
  refine (assignment_ensures depth inHead).andThen fun init behindInit hasInit => ?_
  refine (expect_ensures _ depth behindInit).andThen fun _ inCondition hasFirst => ?_
  refine (expression_ensures depth inCondition).andThen fun condition behind hasCondition => ?_
  refine (expect_ensures _ depth behind).andThen fun _ inIncrement hasSecond => ?_
  refine (assignment_ensures depth inIncrement).andThen fun increment atEnd hasIncrement => ?_
  refine (expect_ensures _ depth atEnd).map fun _ rest hasRight => ?_
  obtain ⟨left, rfl, rfl⟩ := hasLeft
  obtain ⟨initPhrase, rfl, initTree⟩ := hasInit
  obtain ⟨first, rfl, rfl⟩ := hasFirst
  obtain ⟨conditionPhrase, rfl, conditionTree⟩ := hasCondition
  obtain ⟨second, rfl, rfl⟩ := hasSecond
  obtain ⟨incrementPhrase, rfl, incrementTree⟩ := hasIncrement
  obtain ⟨right, rfl, rfl⟩ := hasRight
  exact ⟨left, initPhrase, first, conditionPhrase, second, incrementPhrase, right, rfl, initTree,
    conditionTree, incrementTree⟩

theorem unnested_ensures (statements : TakesStatements reader) (depth : Nat)
    (ts : List Token) : (reader.unnested depth ts).Ensures (IsStatement ts) := by
  rw [Reader.unnested]
  split
  · rename_i front
    obtain ⟨word, split⟩ := exists_terminal front (by decide)
    refine (expression_ensures depth ts.tail).map fun value rest found => ?_
    obtain ⟨phrase, same, tree⟩ := found
    refine ⟨.closed, .print word phrase, ?_, ?_, fun same => by cases same⟩
    · rw [split, ← same]
      rfl
    · rw [StmtPhrase.tree?, tree]
      rfl
  · rename_i front
    obtain ⟨word, split⟩ := exists_terminal front (by decide)
    refine (expression_ensures depth ts.tail).andThen fun condition inThen isCondition => ?_
    refine (body_ensures statements depth inThen).andThen fun thenBranch rest isThen => ?_
    rw [split]
    exact elseBranch_ensures statements depth word isCondition isThen
  · rename_i front
    obtain ⟨word, split⟩ := exists_terminal front (by decide)
    refine (expression_ensures depth ts.tail).andThen fun condition inBody isCondition => ?_
    refine (body_ensures statements depth inBody).map fun tree rest isBody => ?_
    obtain ⟨conditionPhrase, same, conditionTree⟩ := isCondition
    obtain ⟨ending, phrase, rfl, bodyTree, noElse⟩ := isBody
    refine ⟨ending, .whileLoop word conditionPhrase phrase, ?_, ?_, noElse⟩
    · rw [split, ← same]
      simp [StmtPhrase.tokens]
    · rw [StmtPhrase.tree?, conditionTree, bodyTree]
      rfl
  · rename_i front
    obtain ⟨word, split⟩ := exists_terminal front (by decide)
    refine (forHead_ensures depth ts.tail).andThen fun head inBody isHead => ?_
    refine (body_ensures statements depth inBody).map fun tree rest isBody => ?_
    obtain ⟨left, init, first, condition, second, increment, right, same, initTree,
      conditionTree, incrementTree⟩ := isHead
    obtain ⟨ending, phrase, rfl, bodyTree, noElse⟩ := isBody
    refine ⟨ending, .forLoop word left init first condition second increment right phrase, ?_, ?_,
      noElse⟩
    · rw [split, ← same]
      simp [StmtPhrase.tokens]
    · rw [StmtPhrase.tree?, initTree, conditionTree, incrementTree, bodyTree]
      rfl
  · refine (assignment_ensures depth ts).mono fun tree rest isAssignment => ?_
    obtain ⟨phrase, same, found⟩ := isAssignment
    exact ⟨.closed, .assignment phrase, same, found, fun same => by cases same⟩

/-- The readers of all levels take nothing but statements. -/
theorem readerAt_takesStatements (free : Nat) :
    ∀ depth, TakesStatements (readerAt depth free) := by
  induction free with
  | zero => exact fun depth ts => trivial
  | succ free ih => exact fun depth ts => (unnested_ensures (ih (depth + 1)) (depth + 1) ts).leave

theorem statement_ensures (depth : Nat) (ts : List Token) :
    (Parser.statement depth ts).Ensures (IsStatement ts) :=
  readerAt_takesStatements (maxDepth - depth) depth ts

end Kiss.Grammar
