import Kiss.Proofs.Grammar.ExprBeginning

/-!
# What is read of a program before it fails begins one

The readers of statements read the products of the languages of their parts, level by level.
The one place where a part decides what may follow it is the `else`: in front of one the first
branch is closed, since an open one would have taken it.
-/

namespace Kiss.Grammar

open Kiss.Parser (Outcome Reader frontKind readerAt)

variable {ts : List Token} {reader : Reader}

/-- The phrases of a part of a program, as tokens. -/
def StmtPart.language (part : StmtPart) : Language Token :=
  {us | ∃ phrase : StmtPhrase part, phrase.tokens = us}

theorem StmtPhrase.mem {part : StmtPart} (phrase : StmtPhrase part) :
    phrase.tokens ∈ part.language :=
  ⟨phrase, rfl⟩

/-- A whole expression. -/
def expressions : Language Token :=
  (ExprPart.chain .sum).language

/-- A statement, however it ends. -/
def statements : Language Token :=
  {us | ∃ ending, us ∈ (StmtPart.statement ending).language}

/-- The body of another statement, however it ends. -/
def bodies : Language Token :=
  {us | ∃ ending, us ∈ (StmtPart.body ending).language}

/-- The rest of a block behind its opening brace. -/
def blockRests : Language Token :=
  StmtPart.statements.language * terminals (.symbol .rightBrace)

/-- What may stand behind the condition of an `if`. -/
def branches : Language Token :=
  bodies + (StmtPart.body .closed).language * (terminals (.keyword .elseWord) * bodies)

/-- The head of a counting loop in its parentheses. -/
def forHeads : Language Token :=
  terminals (.symbol .leftParen) * (StmtPart.assignment.language *
    (terminals (.symbol .semicolon) * (expressions * (terminals (.symbol .semicolon) *
      (StmtPart.assignment.language * terminals (.symbol .rightParen))))))

/-- The expression `true`. -/
def ExprPhrase.sample : Expression :=
  .raise (.shortest .sum)

/-- The assignment `a = true`. -/
def StmtPhrase.sample : StmtPhrase .assignment :=
  .assign ⟨⟨.word, "a", .start⟩, rfl⟩ (.ofSymbol .assign) .sample

/-! ### The rules of the grammar -/

theorem assign_le_assignment :
    terminals .word * (terminals (.symbol .assign) * expressions) ≤
      StmtPart.assignment.language := by
  rintro _ ⟨_, ⟨name, rfl⟩, _, ⟨_, ⟨sign, rfl⟩, _, ⟨value, rfl⟩, rfl⟩, rfl⟩
  exact ⟨.assign name sign value, rfl⟩

theorem assignField_le_assignment :
    terminals .word * (terminals (.symbol .dot) * (terminals .word *
      (terminals (.symbol .assign) * expressions))) ≤ StmtPart.assignment.language := by
  rintro _ ⟨_, ⟨object, rfl⟩, _, ⟨_, ⟨dot, rfl⟩, _, ⟨_, ⟨field, rfl⟩, _, ⟨_, ⟨sign, rfl⟩, _,
    ⟨value, rfl⟩, rfl⟩, rfl⟩, rfl⟩, rfl⟩
  exact ⟨.assignField object dot field sign value, rfl⟩

theorem assignment_le_statements : StmtPart.assignment.language ≤ statements := by
  rintro _ ⟨inner, rfl⟩
  exact ⟨.closed, .assignment inner, rfl⟩

theorem print_le_statements : terminals (.keyword .printWord) * expressions ≤ statements := by
  rintro _ ⟨_, ⟨word, rfl⟩, _, ⟨value, rfl⟩, rfl⟩
  exact ⟨.closed, .print word value, rfl⟩

theorem if_le_statements :
    terminals (.keyword .ifWord) * (expressions * branches) ≤ statements := by
  rintro _ ⟨_, ⟨word, rfl⟩, _, ⟨_, ⟨condition, rfl⟩, _, branch, rfl⟩, rfl⟩
  rcases branch with ⟨ending, thenBody, rfl⟩ | branch
  · exact ⟨.openIf, .ifThen word condition thenBody, rfl⟩
  · obtain ⟨_, ⟨thenBody, rfl⟩, _, ⟨_, ⟨elseWord, rfl⟩, _, ⟨ending, elseBody, rfl⟩, rfl⟩, rfl⟩ :=
      branch
    exact ⟨ending, .ifElse word condition thenBody elseWord elseBody, rfl⟩

theorem while_le_statements :
    terminals (.keyword .whileWord) * (expressions * bodies) ≤ statements := by
  rintro _ ⟨_, ⟨word, rfl⟩, _, ⟨_, ⟨condition, rfl⟩, _, ⟨ending, inner, rfl⟩, rfl⟩, rfl⟩
  exact ⟨ending, .whileLoop word condition inner, rfl⟩

theorem for_le_statements :
    terminals (.keyword .forWord) * (forHeads * bodies) ≤ statements := by
  rintro _ ⟨_, ⟨word, rfl⟩, _, ⟨_, ⟨_, ⟨left, rfl⟩, _, ⟨_, ⟨init, rfl⟩, _, ⟨_, ⟨first, rfl⟩, _,
    ⟨_, ⟨condition, rfl⟩, _, ⟨_, ⟨second, rfl⟩, _, ⟨_, ⟨increment, rfl⟩, _, ⟨right, rfl⟩, rfl⟩,
    rfl⟩, rfl⟩, rfl⟩, rfl⟩, rfl⟩, _, ⟨ending, inner, rfl⟩, rfl⟩, rfl⟩
  exact ⟨ending, .forLoop word left init first condition second increment right inner,
    by simp [StmtPhrase.tokens]⟩

theorem statement_blockRests_le : statements * blockRests ≤ blockRests := by
  rintro _ ⟨_, ⟨ending, first, rfl⟩, _, ⟨_, ⟨others, rfl⟩, brace, isBrace, rfl⟩, rfl⟩
  exact ⟨_, (StmtPhrase.more first others).mem, brace, isBrace, by simp [StmtPhrase.tokens]⟩

theorem rightBrace_le_blockRests : terminals (.symbol .rightBrace) ≤ blockRests := by
  intro us isBrace
  exact Language.append_mem_mul StmtPhrase.none.mem isBrace

theorem block_le_closed :
    terminals (.symbol .leftBrace) * blockRests ≤ (StmtPart.body .closed).language := by
  rintro _ ⟨_, ⟨left, rfl⟩, _, ⟨_, ⟨inner, rfl⟩, _, ⟨right, rfl⟩, rfl⟩, rfl⟩
  exact ⟨.block left inner right, rfl⟩

theorem closed_le_bodies : (StmtPart.body .closed).language ≤ bodies :=
  fun _ mem => ⟨.closed, mem⟩

theorem statements_le_bodies : statements ≤ bodies := by
  rintro _ ⟨ending, inner, rfl⟩
  exact ⟨ending, .single inner, rfl⟩

theorem bodies_le_branches : bodies ≤ branches :=
  fun _ mem => .inl mem

theorem statement_program_le :
    statements * StmtPart.statements.language ≤ StmtPart.statements.language := by
  rintro _ ⟨_, ⟨ending, first, rfl⟩, _, ⟨others, rfl⟩, rfl⟩
  exact ⟨.more first others, rfl⟩

/-! ### Every part has words -/

theorem sample_mem_statements : StmtPhrase.sample.tokens ∈ statements :=
  assignment_le_statements StmtPhrase.sample.mem

theorem sample_mem_bodies : StmtPhrase.sample.tokens ∈ bodies :=
  statements_le_bodies sample_mem_statements

theorem rightBrace_mem_blockRests : [(Terminal.ofSymbol .rightBrace).token] ∈ blockRests :=
  rightBrace_le_blockRests (Terminal.mem _)

/-! ### The readers -/

theorem assignment_reads (depth : Nat) (ts : List Token) :
    (Parser.assignment depth ts).Reads StmtPart.assignment.language ts := by
  unfold Parser.assignment
  split
  · rename_i name p signValue q rest
    have value := (expression_reads depth rest).map (f := Stmt.assign name)
    exact (reads_cons ⟨⟨.word, name, p⟩, rfl⟩ (reads_cons ⟨⟨.symbol .assign, signValue, q⟩, rfl⟩
      value)).mono assign_le_assignment
  · rename_i object p dotValue q field r signValue s rest
    have value := (expression_reads depth rest).map (f := Stmt.assignField object field)
    exact (reads_cons ⟨⟨.word, object, p⟩, rfl⟩ (reads_cons ⟨⟨.symbol .dot, dotValue, q⟩, rfl⟩
      (reads_cons ⟨⟨.word, field, r⟩, rfl⟩ (reads_cons ⟨⟨.symbol .assign, signValue, s⟩, rfl⟩
        value)))).mono assignField_le_assignment
  · exact failHere_reads StmtPhrase.sample.mem _ _ _

theorem forHead_reads (depth : Nat) (ts : List Token) :
    (Parser.forHead depth ts).Reads forHeads ts := by
  have paren := (Terminal.ofSymbol .rightParen).mem
  have semicolon := (Terminal.ofSymbol .semicolon).mem
  have increment := Language.append_mem_mul StmtPhrase.sample.mem paren
  have second := Language.append_mem_mul semicolon increment
  have condition := Language.append_mem_mul ExprPhrase.sample.mem second
  have first := Language.append_mem_mul semicolon condition
  have init := Language.append_mem_mul StmtPhrase.sample.mem first
  exact (expect_reads _ depth ts).andThen init fun _ rest =>
    (assignment_reads depth rest).andThen first fun _ rest =>
    (expect_reads _ depth rest).andThen condition fun _ rest =>
    (expression_reads depth rest).andThen second fun _ rest =>
    (expect_reads _ depth rest).andThen increment fun _ rest =>
    (assignment_reads depth rest).andThen paren fun _ rest => (expect_reads _ depth rest).map

/-- A reader that reads statements. -/
def ReadsStatements (reader : Reader) : Prop :=
  ∀ ts, (reader.read ts).Reads statements ts

theorem blockRest_reads (reads : ReadsStatements reader) (depth : Nat) (found : List Stmt)
    (ts : List Token) : (reader.blockRest depth found ts).Reads blockRests ts := by
  fun_induction Reader.blockRest reader depth found ts with
  | case1 found ts closing =>
      obtain ⟨brace, rest, rfl⟩ := exists_cons closing (by decide)
      exact ⟨[brace.token], rightBrace_le_blockRests brace.mem, rfl⟩
  | case2 => exact failHere_reads rightBrace_mem_blockRests _ _ _
  | case3 found ts fault rest reached failed _ _ =>
      have first := reads ts
      rw [failed] at first
      exact (Begins.first first rightBrace_mem_blockRests).mono statement_blockRests_le
  | case4 found ts next rest done _ _ more =>
      have first := reads ts
      rw [done] at first
      obtain ⟨taken, mem, rfl⟩ := first
      exact (more.behind mem).mono statement_blockRests_le

theorem body_reads (reads : ReadsStatements reader) (depth : Nat) (ts : List Token) :
    (reader.body depth ts).Reads bodies ts := by
  rw [Reader.body]
  split
  · rename_i opening
    obtain ⟨left, rest, rfl⟩ := exists_cons opening (by decide)
    have block := reads_cons left (blockRest_reads reads depth [] rest)
    exact (block.mono block_le_closed).mono closed_le_bodies
  · exact (reads ts).mono statements_le_bodies

/-- The branches of an `if`. A fault behind an `else` stands behind a closed first branch. -/
theorem branches_reads (takes : TakesStatements reader) (reads : ReadsStatements reader)
    (depth : Nat) (condition : Expr) (ts : List Token) :
    ((reader.body depth ts).andThen fun thenBranch rest =>
      reader.elseBranch depth condition thenBranch rest).Reads branches ts := by
  have first := body_reads reads depth ts
  have isBody := body_ensures takes depth ts
  cases result : reader.body depth ts with
  | fail fault rest reached =>
      rw [result] at first
      exact Begins.mono first bodies_le_branches
  | ok thenBranch rest =>
      rw [result] at isBody
      obtain ⟨ending, phrase, rfl, _, noElse⟩ := isBody
      simp only [Outcome.ok_andThen, Reader.elseBranch]
      split
      · rename_i front
        cases ending with
        | openIf => exact absurd front (noElse rfl)
        | closed =>
            obtain ⟨elseWord, others, rfl⟩ := exists_cons front (by decide)
            have second := reads_cons elseWord (body_reads reads depth others)
            exact (second.map.behind phrase.mem).mono fun _ mem => .inr mem
      · exact ⟨phrase.tokens, bodies_le_branches ⟨ending, phrase.mem⟩, rfl⟩

theorem unnested_reads (takes : TakesStatements reader) (reads : ReadsStatements reader)
    (depth : Nat) (ts : List Token) : (reader.unnested depth ts).Reads statements ts := by
  have value := ExprPhrase.sample.mem
  have inner := sample_mem_bodies
  rw [Reader.unnested]
  split
  · rename_i front
    obtain ⟨word, rest, rfl⟩ := exists_cons front (by decide)
    exact (reads_cons word (expression_reads depth rest).map).mono print_le_statements
  · rename_i front
    obtain ⟨word, rest, rfl⟩ := exists_cons front (by decide)
    have parts := (expression_reads depth rest).andThen (bodies_le_branches inner)
      fun condition rest => branches_reads takes reads depth condition rest
    exact (reads_cons word parts).mono if_le_statements
  · rename_i front
    obtain ⟨word, rest, rfl⟩ := exists_cons front (by decide)
    have parts := (expression_reads depth rest).andThen inner fun condition rest =>
      (body_reads reads depth rest).map (f := Stmt.whileLoop condition)
    exact (reads_cons word parts).mono while_le_statements
  · rename_i front
    obtain ⟨word, rest, rfl⟩ := exists_cons front (by decide)
    have parts := (forHead_reads depth rest).andThen inner fun head rest =>
      (body_reads reads depth rest).map (f := Stmt.forLoop head.1 head.2.1 head.2.2)
    exact (reads_cons word parts).mono for_le_statements
  · exact (assignment_reads depth ts).mono assignment_le_statements

/-- The readers of all levels read statements. -/
theorem readerAt_readsStatements (free : Nat) :
    ∀ depth, ReadsStatements (readerAt depth free) := by
  induction free with
  | zero => exact fun depth ts => failHere_reads sample_mem_statements _ _ _
  | succ free ih =>
      intro depth ts
      have takes := readerAt_takesStatements free (depth + 1)
      exact (unnested_reads takes (ih (depth + 1)) (depth + 1) ts).leave

theorem statement_reads (depth : Nat) (ts : List Token) :
    (Parser.statement depth ts).Reads statements ts :=
  readerAt_readsStatements (maxDepth - depth) depth ts

/-- What is read in front of a fault in a program begins one. -/
theorem begins_program {depth reached : Nat} {found : List Stmt} {fault : Parser.Fault}
    {rest : List Token} (failed : Parser.program depth found ts = .fail fault rest reached) :
    Begins StmtPart.statements.language ts fault.place := by
  fun_induction Parser.program depth found ts with
  | case1 => cases failed
  | case2 found ts stmtFault left stmtReached stmtFailed _ =>
      cases failed
      have first := statement_reads depth ts
      rw [stmtFailed] at first
      exact (Begins.first first StmtPhrase.none.mem).mono statement_program_le
  | case3 found ts next left done _ more =>
      have first := statement_reads depth ts
      rw [done] at first
      obtain ⟨taken, mem, rfl⟩ := first
      exact ((more failed).behind mem).mono statement_program_le

end Kiss.Grammar
