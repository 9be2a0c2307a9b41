import Kiss.Proofs.Grammar.StmtDerivation
import Kiss.Proofs.Grammar.StmtReading

/-!
# Which token lists are programs

A parser accepts just the programs of the grammar, and gives the tree of the derivation. What
lies behind the first end of the input does not matter. The one thing that may keep it from
accepting a program whose literals denote numbers is the greatest depth:
`parse_of_program` says that it decides by the level that the derivation reaches.
-/

namespace Kiss.Grammar

open Kiss.Parser (Outcome frontKind)

variable {ts : List Token} {rest : List Token}

/-- The tree of a whole program is a block. -/
def blockTree? (program : Program) : Option Stmt :=
  program.tree?.map .block

theorem body_append_dropWhile (ts : List Token) :
    body ts ++ ts.dropWhile (fun t => t.kind ≠ .endOfInput) = ts :=
  List.takeWhile_append_dropWhile

/-- The program in front of an end of the input has no end of the input in it. -/
theorem frontKind_dropWhile (ts : List Token) :
    frontKind (ts.dropWhile fun t => t.kind ≠ .endOfInput) = .endOfInput := by
  induction ts with
  | nil => rfl
  | cons t rest ih =>
      by_cases ends : t.kind = .endOfInput
      · rw [List.dropWhile_cons_of_neg (by simp [ends])]
        exact ends
      · rw [List.dropWhile_cons_of_pos (by simp [ends])]
        exact ih

theorem body_append {before : List Token} (noEnd : ∀ t ∈ before, t.kind ≠ .endOfInput)
    (rest : List Token) : body (before ++ rest) = before ++ body rest :=
  List.takeWhile_append_of_pos fun t member => by simpa using noEnd t member

theorem body_eq_nil (atEnd : frontKind rest = .endOfInput) : body rest = [] := by
  cases rest with
  | nil => rfl
  | cons t rest =>
      have ends : t.kind = .endOfInput := atEnd
      simp [body, ends]

/-- No terminal of an expression is an end of the input. -/
theorem ExprPhrase.kind_ne_endOfInput {part : ExprPart} (phrase : ExprPhrase part) :
    ∀ t ∈ phrase.tokens, t.kind ≠ .endOfInput := by
  induction phrase <;> simp_all [tokens, Terminal.hasKind, or_imp]

/-- No terminal of a statement is an end of the input. -/
theorem StmtPhrase.kind_ne_endOfInput {part : StmtPart} (phrase : StmtPhrase part) :
    ∀ t ∈ phrase.tokens, t.kind ≠ .endOfInput := by
  induction phrase <;> simp_all [tokens, Terminal.hasKind, or_imp]
  all_goals exact ExprPhrase.kind_ne_endOfInput _

/-- Without an end of the input in it a phrase is all body. -/
theorem StmtPhrase.body_tokens {part : StmtPart} (phrase : StmtPhrase part) :
    body phrase.tokens = phrase.tokens := by
  have whole := body_append phrase.kind_ne_endOfInput []
  rw [List.append_nil] at whole
  exact whole.trans (List.append_nil _)

/-- A literal in an expression is all that can keep it from having a tree. -/
theorem ExprPhrase.exists_tree {part : ExprPart} (phrase : ExprPhrase part)
    (converts : ∀ t ∈ phrase.tokens, Converts t) : ∃ tree, phrase.tree? = some tree := by
  induction phrase with
  | number literal =>
      have denotes := (converts literal.token (by simp [tokens])).1 literal.hasKind
      obtain ⟨value, found⟩ := Option.isSome_iff_exists.mp denotes
      exact ⟨_, by rw [tree?, found]; rfl⟩
  | hexNumber literal =>
      have denotes := (converts literal.token (by simp [tokens])).2 literal.hasKind
      obtain ⟨value, found⟩ := Option.isSome_iff_exists.mp denotes
      exact ⟨_, by rw [tree?, found]; rfl⟩
  | group _ inner _ ih =>
      exact ih fun t member => converts t (by simp [tokens, member])
  | bare inner ih | operand inner ih | whole inner ih => exact ih converts
  | positive _ inner ih => exact ih fun t member => converts t (by simp [tokens, member])
  | negated _ inner ih | inverted _ inner ih =>
      obtain ⟨tree, found⟩ := ih fun t member => converts t (by simp [tokens, member])
      exact ⟨_, by rw [tree?, found]; rfl⟩
  | joined _ left _ _ right ihLeft ihRight | strictOr left _ right ihLeft ihRight
  | strictAnd left _ right ihLeft ihRight =>
      obtain ⟨leftTree, leftFound⟩ := ihLeft fun t member => converts t (by simp [tokens, member])
      obtain ⟨rightTree, rightFound⟩ :=
        ihRight fun t member => converts t (by simp [tokens, member])
      exact ⟨_, by rw [tree?, leftFound, rightFound]; rfl⟩
  | _ => exact ⟨_, rfl⟩

/-- A literal in a statement is all that can keep it from having a tree. -/
theorem StmtPhrase.exists_tree {part : StmtPart} (phrase : StmtPhrase part)
    (converts : ∀ t ∈ phrase.tokens, Converts t) : ∃ tree, phrase.tree? = some tree := by
  induction phrase with
  | assign _ _ value | assignField _ _ _ _ value | print _ value =>
      obtain ⟨tree, found⟩ :=
        value.exists_tree fun t member => converts t (by simp [tokens, member])
      exact ⟨_, by rw [tree?, found]; rfl⟩
  | assignment inner ih | single inner ih => exact ih converts
  | ifThen _ condition _ ih | whileLoop _ condition _ ih =>
      obtain ⟨conditionTree, conditionFound⟩ :=
        condition.exists_tree fun t member => converts t (by simp [tokens, member])
      obtain ⟨tree, found⟩ := ih fun t member => converts t (by simp [tokens, member])
      exact ⟨_, by rw [tree?, conditionFound, found]; rfl⟩
  | ifElse _ condition _ _ _ ihThen ihElse =>
      obtain ⟨conditionTree, conditionFound⟩ :=
        condition.exists_tree fun t member => converts t (by simp [tokens, member])
      obtain ⟨thenTree, thenFound⟩ := ihThen fun t member => converts t (by simp [tokens, member])
      obtain ⟨elseTree, elseFound⟩ := ihElse fun t member => converts t (by simp [tokens, member])
      exact ⟨_, by rw [tree?, conditionFound, thenFound, elseFound]; rfl⟩
  | forLoop _ _ _ _ condition _ _ _ _ ihInit ihIncrement ih =>
      obtain ⟨initTree, initFound⟩ := ihInit fun t member => converts t (by simp [tokens, member])
      obtain ⟨conditionTree, conditionFound⟩ :=
        condition.exists_tree fun t member => converts t (by simp [tokens, member])
      obtain ⟨incrementTree, incrementFound⟩ :=
        ihIncrement fun t member => converts t (by simp [tokens, member])
      obtain ⟨tree, found⟩ := ih fun t member => converts t (by simp [tokens, member])
      exact ⟨_, by rw [tree?, initFound, conditionFound, incrementFound, found]; rfl⟩
  | block _ inner _ ih =>
      obtain ⟨trees, found⟩ := ih fun t member => converts t (by simp [tokens, member])
      exact ⟨_, by rw [tree?, found]; rfl⟩
  | none => exact ⟨[], rfl⟩
  | more _ _ ihFirst ihOthers =>
      obtain ⟨tree, found⟩ := ihFirst fun t member => converts t (by simp [tokens, member])
      obtain ⟨trees, treesFound⟩ := ihOthers fun t member => converts t (by simp [tokens, member])
      exact ⟨_, by rw [tree?, found, treesFound]; rfl⟩

/-- A program goes on as long as its end is not reached. -/
theorem program_of_ne (depth : Nat) (found : List Stmt) (noEnd : frontKind ts ≠ .endOfInput) :
    Parser.program depth found ts =
      (Parser.statement depth ts).andThen fun next rest =>
        Parser.program depth (next :: found) rest := by
  rw [Parser.program]
  split
  · contradiction
  · split
    · rename_i read
      rw [read]
      rfl
    · rename_i read
      rw [read]
      rfl

/-- A program goes on as long as statements begin. -/
theorem program_of_begins {depth : Nat} {found : List Stmt}
    (begins : beginsStatement (frontKind ts)) :
    Parser.program depth found ts =
      (Parser.statement depth ts).andThen fun next rest =>
        Parser.program depth (next :: found) rest := by
  refine program_of_ne depth found fun atEnd => ?_
  simp [atEnd, beginsStatement] at begins

/-- A program is read up to the end of the input behind it. -/
theorem program_isRead (depth : Nat) (within : depth ≤ maxDepth)
    (atEnd : frontKind rest = .endOfInput) :
    ∀ (program : Program) (found trees : List Stmt), program.tree? = some trees →
      (Parser.program depth found (program.tokens ++ rest)).Gives
        (program.reach depth ≤ maxDepth) (.block (found.reverse ++ trees)) rest.tail
  | .none, found, trees, treesFound => by
      cases treesFound
      rw [StmtPhrase.tokens, List.nil_append, Parser.program, atEnd, List.append_nil]
      exact gives_ok _ _ within
  | @StmtPhrase.more ending first others, found, trees, treesFound => by
      simp only [StmtPhrase.tree?, Option.bind_eq_some_iff, Option.map_eq_some_iff] at treesFound
      obtain ⟨firstTree, firstFound, otherTrees, othersFound, rfl⟩ := treesFound
      -- behind a statement comes another one or the end, and neither goes on with it
      have stops : StopsStatement ending (others.tokens ++ rest) :=
        stopsStatement_statements others (atEnd ▸ endsExpression_endOfInput) (by simp [atEnd])
      have read := first.isRead within firstFound stops
      rw [StmtPhrase.tokens, List.append_assoc, program_of_begins (first.front_statement _)]
      refine (Outcome.Gives.andThen read fun _ => ?_).congr Nat.max_le.symm
      have go :=
        program_isRead depth within atEnd others (firstTree :: found) otherTrees othersFound
      simpa using go

/-- What is read as a program is one, in front of the first end of the input. -/
theorem program_ensures (depth : Nat) (found : List Stmt) (ts : List Token) :
    (Parser.program depth found ts).Ensures fun tree _ =>
      ∃ (program : Program) (trees : List Stmt), program.tokens = body ts ∧
        program.tree? = some trees ∧ tree = .block (found.reverse ++ trees) := by
  fun_induction Parser.program depth found ts with
  | case1 found ts atEnd =>
      exact ⟨.none, [], (body_eq_nil atEnd).symm, rfl, by simp⟩
  | case2 => trivial
  | case3 found ts next rest done _ more =>
      have first := statement_ensures depth ts
      rw [done] at first
      obtain ⟨ending, firstPhrase, rfl, firstTree, _⟩ := first
      refine more.mono fun tree _ others => ?_
      obtain ⟨phrase, trees, same, treesFound, rfl⟩ := others
      refine ⟨.more firstPhrase phrase, next :: trees, ?_, ?_, by simp⟩
      · rw [StmtPhrase.tokens, same, body_append firstPhrase.kind_ne_endOfInput]
      · rw [StmtPhrase.tree?, firstTree, treesFound]
        rfl

/-- Whether the program in front of the first end of the input is accepted hangs on the level
    that it reaches. -/
theorem parse_of_program {program : Program} {tree : Stmt} (same : program.tokens = body ts)
    (found : blockTree? program = some tree) :
    (program.reach 0 ≤ maxDepth ∧ parse ts = .ok tree) ∨
      (¬program.reach 0 ≤ maxDepth ∧ ∃ t, parse ts = .error ⟨.tooDeep, t⟩) := by
  obtain ⟨trees, treesFound, rfl⟩ := Option.map_eq_some_iff.mp found
  have read := program_isRead 0 (Nat.zero_le _) (frontKind_dropWhile ts) program [] trees treesFound
  rw [same, body_append_dropWhile] at read
  simp only [parse, Parser.parse, Parser.ofTokens]
  cases result : Parser.program 0 [] ts with
  | ok tree rest =>
      rw [result] at read
      obtain ⟨fits, rfl, _⟩ := read
      exact .inl ⟨fits, rfl⟩
  | fail fault rest depth =>
      rw [result] at read
      obtain ⟨beyond, cause⟩ := read
      refine .inr ⟨beyond, fault.place.headD (Parser.ofTokens ts).sentinel, ?_⟩
      rw [← cause]
      rfl

/-- An accepted program is derived by the grammar. -/
theorem exists_program_of_parse {tree : Stmt} (accepted : parse ts = .ok tree) :
    ∃ program : Program, program.tokens = body ts ∧ blockTree? program = some tree := by
  have read := program_ensures 0 [] ts
  simp only [parse, Parser.parse, Parser.ofTokens] at accepted
  cases result : Parser.program 0 [] ts with
  | ok found rest =>
      rw [result] at read accepted
      cases accepted
      obtain ⟨program, trees, same, treesFound, rfl⟩ := read
      exact ⟨program, same, by rw [blockTree?, treesFound]; rfl⟩
  | fail fault rest depth =>
      rw [result] at accepted
      cases accepted

theorem text_tooDeep (t : Token) :
    ParseError.text ⟨.tooDeep, t⟩ = "Maximum nesting depth (256) exceeded" := by
  rfl

/-- Acceptance is derivability: whatever is accepted is a derivation of the tokens in front of
    the first end of the input, and gives its tree; and whenever these tokens have a derivation
    and their literals denote numbers, the answer is its tree or that it nests too deep. -/
theorem parse_iff_derivation (ts : List Token) :
    (∀ tree, parse ts = .ok tree →
      ∃ program : Program, program.tokens = body ts ∧ blockTree? program = some tree) ∧
    (∀ program : Program, program.tokens = body ts → (∀ t ∈ body ts, Converts t) →
      ∃ tree, blockTree? program = some tree ∧
        (parse ts = .ok tree ∨
          ∃ e, parse ts = .error e ∧ e.text = "Maximum nesting depth (256) exceeded")) := by
  constructor
  · intro tree accepted
    exact exists_program_of_parse accepted
  · intro program same converts
    obtain ⟨trees, found⟩ := program.exists_tree (same ▸ converts)
    have blockFound : blockTree? program = some (.block trees) := by
      rw [blockTree?, found]
      rfl
    refine ⟨.block trees, blockFound, ?_⟩
    rcases parse_of_program same blockFound with ⟨_, accepted⟩ | ⟨_, t, refused⟩
    · exact .inl accepted
    · exact .inr ⟨_, refused, text_tooDeep t⟩

/-- The derivation of `print true`, from the beginning of a text. -/
def printedTruth : Program :=
  .more (.print ⟨⟨.keyword .printWord, "print", ⟨1, 1⟩⟩, rfl⟩
    (.whole (.operand (.whole (.operand (.whole (.operand (.whole (.operand (.whole (.operand
      (.bare (.trueWord ⟨⟨.keyword .trueWord, "true", ⟨1, 7⟩⟩, rfl⟩)))))))))))))
    .none

/-- The program `print true` is read, and what is read is derived. -/
theorem parse_iff_derivation_printedTruth :
    parse (printedTruth.tokens ++ [.endOfInput ⟨1, 11⟩]) = .ok (.block [.print (.bool true)]) ∧
      ∃ program : Program, program.tokens = printedTruth.tokens ∧
        blockTree? program = some (.block [.print (.bool true)]) := by
  have same : printedTruth.tokens = body (printedTruth.tokens ++ [Token.endOfInput ⟨1, 11⟩]) := by
    rfl
  rcases parse_of_program same rfl with ⟨_, accepted⟩ | ⟨beyond, _⟩
  · refine ⟨accepted, ?_⟩
    have derived := (parse_iff_derivation _).1 _ accepted
    rwa [← same] at derived
  · exact absurd (by decide) beyond

end Kiss.Grammar
