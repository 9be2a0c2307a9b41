import Kiss.Proofs.Grammar.ExprLockstep

/-!
# Two runs of the reader of programs in lockstep

The induction over statements goes on from the one over expressions, from each level to the next
deeper one. `Parallel` says of two readers that they come to the same on all tokens that look
alike; readers that are put together from such ones are such readers. An assignment is the one
statement that is told from its first four tokens, which is why the runs look three tokens beyond
the limit.
-/

namespace Kiss.Grammar

open Kiss.Parser (Outcome Reader frontKind readerAt)

namespace Lockstep

variable {α β : Type} {lock : Lockstep} {ts us : List Token} {reader : Reader}

/-- Two readers that come to the same on tokens that look alike. -/
structure Parallel (lock : Lockstep) (f g : List Token → Outcome α) : Prop where
  stays : ∀ ts, (f ts).Stays ts
  follows : ∀ {ts us}, lock.agree ts us → lock.limit ≤ ts.length → lock.Follows (f ts) (g us)

namespace Parallel

variable {f g : List Token → Outcome α}

/-- Behind a token that has been looked at, which may be the last one within the limit. -/
theorem behind (parallel : lock.Parallel f g) (agree : lock.agree ts us) :
    lock.Follows (f ts) (g us) :=
  .of_stays (parallel.stays ts) (parallel.follows agree)

theorem ok {value other : α} (equal : lock.same → other = value) :
    lock.Parallel (.ok value) (.ok other) :=
  ⟨fun _ => Nat.le_refl _, fun agree _ => follows_ok equal agree⟩

theorem andThen {k l : α → List Token → Outcome β} (first : lock.Parallel f g)
    (second : ∀ value other, (lock.same → other = value) → lock.Parallel (k value) (l other)) :
    lock.Parallel (fun ts => (f ts).andThen k) fun us => (g us).andThen l where
  stays ts := (first.stays ts).andThen fun value => (second value value fun _ => rfl).stays
  follows agree near :=
    (first.follows agree near).andThen (fun value => (second value value fun _ => rfl).stays)
      fun value other _ _ equal => (second value other equal).follows

theorem map {m n : α → β} (parallel : lock.Parallel f g) (alike : lock.same → n = m) :
    lock.Parallel (fun ts => (f ts).map m) fun us => (g us).map n where
  stays ts := (parallel.stays ts).map
  follows agree near := (parallel.follows agree near).map alike

theorem leave (parallel : lock.Parallel f g) :
    lock.Parallel (fun ts => (f ts).leave) fun us => (g us).leave where
  stays ts := by
    have stays := parallel.stays ts
    cases result : f ts <;> rw [result] at stays <;> exact stays
  follows agree near := (parallel.follows agree near).leave

/-- A token that is expected, whatever its value is. -/
theorem expect {kind : TokenKind} (different : kind ≠ .endOfInput) (depth : Nat)
    (parallel : lock.Parallel f g) :
    lock.Parallel (fun ts => (Parser.expect kind depth ts).andThen fun _ => f)
      fun us => (Parser.expect kind depth us).andThen fun _ => g where
  stays ts := (expect_reads kind depth ts).stays.andThen fun _ => parallel.stays
  follows agree near :=
    expect_follows different depth agree near (fun _ => parallel.stays)
      fun _ _ _ _ _ => parallel.follows

end Parallel

theorem expression_parallel (depth : Nat) :
    lock.Parallel (Parser.expression depth) (Parser.expression depth) :=
  ⟨fun ts => (expression_reads depth ts).stays, expression_follows⟩

/-- Tokens that look like the beginning of neither assignment are none. -/
theorem assignment_of_ne
    (noVariable : ¬(frontKind ts = .word ∧ frontKind ts.tail = .symbol .assign))
    (noField : ¬(frontKind ts = .word ∧ frontKind ts.tail = .symbol .dot ∧
      frontKind ts.tail.tail = .word ∧ frontKind ts.tail.tail.tail = .symbol .assign))
    (depth : Nat) : Parser.assignment depth ts = Parser.failHere .unknownStatement depth ts := by
  unfold Parser.assignment
  split
  · exact absurd ⟨rfl, rfl⟩ noVariable
  · exact absurd ⟨rfl, rfl, rfl, rfl⟩ noField
  · rfl

/-- Behind a token that has been looked at there is one of the same kind. -/
theorem front_tail (agree : lock.agree ts us) (near : lock.limit ≤ ts.length + 2)
    (different : frontKind ts ≠ .endOfInput) :
    lock.agree ts.tail us.tail ∧ frontKind us.tail = frontKind ts.tail := by
  have also := lock.tail agree (by omega) different
  exact ⟨also, lock.front also (by rw [List.length_tail]; omega)⟩

/-- The two assignments look alike in both runs. -/
theorem assignment_fronts (agree : lock.agree ts us) (near : lock.limit ≤ ts.length) :
    ((frontKind us = .word ∧ frontKind us.tail = .symbol .assign) →
      frontKind ts = .word ∧ frontKind ts.tail = .symbol .assign) ∧
    ((frontKind us = .word ∧ frontKind us.tail = .symbol .dot ∧
      frontKind us.tail.tail = .word ∧ frontKind us.tail.tail.tail = .symbol .assign) →
      frontKind ts = .word ∧ frontKind ts.tail = .symbol .dot ∧
      frontKind ts.tail.tail = .word ∧ frontKind ts.tail.tail.tail = .symbol .assign) := by
  have first := lock.front agree (by omega)
  by_cases isWord : frontKind ts = .word
  · obtain ⟨agree, second⟩ := front_tail agree (by omega) (by rw [isWord]; decide)
    refine ⟨fun ⟨_, sign⟩ => ⟨isWord, second ▸ sign⟩, fun ⟨_, dot, word, sign⟩ => ?_⟩
    have isDot := second ▸ dot
    obtain ⟨agree, third⟩ :=
      front_tail agree (by rw [List.length_tail]; omega) (by rw [isDot]; decide)
    have isField := third ▸ word
    obtain ⟨_, fourth⟩ :=
      front_tail agree (by simp only [List.length_tail]; omega) (by rw [isField]; decide)
    exact ⟨isWord, isDot, isField, fourth ▸ sign⟩
  · exact ⟨fun ⟨word, _⟩ => absurd (first ▸ word) isWord,
      fun ⟨word, _⟩ => absurd (first ▸ word) isWord⟩

theorem assignment_parallel (depth : Nat) :
    lock.Parallel (Parser.assignment depth) (Parser.assignment depth) := by
  refine ⟨fun ts => (assignment_reads depth ts).stays, fun {ts us} agree near => ?_⟩
  have free : TokenKind.word.hasFreeValue := rfl
  have value : lock.Parallel (Parser.expression depth) (Parser.expression depth) :=
    expression_parallel depth
  obtain ⟨variableToo, fieldToo⟩ := assignment_fronts agree near
  by_cases isVariable : frontKind ts = .word ∧ frontKind ts.tail = .symbol .assign
  · obtain ⟨isWord, isSign⟩ := isVariable
    obtain ⟨name, _, rfl⟩ := Grammar.exists_cons isWord (by decide)
    obtain ⟨sign, rest, rfl⟩ := Grammar.exists_cons isSign (by decide)
    simp only [List.length_cons] at near
    obtain ⟨otherName, _, rfl, behindName⟩ :=
      exists_cons agree (by simp only [List.length_cons]; omega) (by decide)
    obtain ⟨otherSign, others, rfl, also⟩ := exists_cons behindName (by omega) (by decide)
    rw [StmtPhrase.assignment_assign, StmtPhrase.assignment_assign]
    refine (value.behind also).map fun same => ?_
    rw [lock.value same agree (by rwa [name.hasKind])]
  by_cases isField : frontKind ts = .word ∧ frontKind ts.tail = .symbol .dot ∧
      frontKind ts.tail.tail = .word ∧ frontKind ts.tail.tail.tail = .symbol .assign
  · obtain ⟨isWord, isDot, isField, isSign⟩ := isField
    obtain ⟨object, _, rfl⟩ := Grammar.exists_cons isWord (by decide)
    obtain ⟨dot, _, rfl⟩ := Grammar.exists_cons isDot (by decide)
    obtain ⟨field, _, rfl⟩ := Grammar.exists_cons isField (by decide)
    obtain ⟨sign, rest, rfl⟩ := Grammar.exists_cons isSign (by decide)
    simp only [List.length_cons] at near
    obtain ⟨otherObject, _, rfl, behindObject⟩ :=
      exists_cons agree (by simp only [List.length_cons]; omega) (by decide)
    obtain ⟨otherDot, _, rfl, behindDot⟩ :=
      exists_cons behindObject (by simp only [List.length_cons]; omega) (by decide)
    obtain ⟨otherField, _, rfl, behindField⟩ :=
      exists_cons behindDot (by simp only [List.length_cons]; omega) (by decide)
    obtain ⟨otherSign, others, rfl, also⟩ := exists_cons behindField (by omega) (by decide)
    rw [StmtPhrase.assignment_assignField, StmtPhrase.assignment_assignField]
    refine (value.behind also).map fun same => ?_
    rw [lock.value same agree (by rwa [object.hasKind]),
      lock.value same behindDot (by rwa [field.hasKind])]
  · rw [assignment_of_ne isVariable isField,
      assignment_of_ne (fun also => isVariable (variableToo also))
        fun also => isField (fieldToo also)]
    exact follows_failHere _ _ agree

theorem forHead_parallel (depth : Nat) :
    lock.Parallel (Parser.forHead depth) (Parser.forHead depth) := by
  refine .expect (by decide) depth ?_
  refine (assignment_parallel depth).andThen fun init otherInit sameInit => ?_
  refine .expect (by decide) depth ?_
  refine (expression_parallel depth).andThen fun condition otherCondition sameCondition => ?_
  refine .expect (by decide) depth ?_
  refine (assignment_parallel depth).andThen fun increment otherIncrement sameIncrement => ?_
  refine .expect (by decide) depth (.ok fun same => ?_)
  rw [sameInit same, sameCondition same, sameIncrement same]

section Readers

variable (reads : ReadsStatements reader) (parallel : lock.Parallel reader.read reader.read)

include reads parallel

theorem blockRest_follows (depth : Nat) (found : List Stmt) (ts : List Token) :
    ∀ (other : List Stmt) (us : List Token), (lock.same → other = found) → lock.agree ts us →
      lock.limit ≤ ts.length →
        lock.Follows (reader.blockRest depth found ts) (reader.blockRest depth other us) := by
  fun_induction Reader.blockRest reader depth found ts with
  | case1 found ts closing =>
      intro other us equal agree near
      obtain ⟨brace, rest, rfl⟩ := Grammar.exists_cons closing (by decide)
      obtain ⟨otherBrace, others, rfl, also⟩ :=
        exists_cons agree (Nat.le_trans near (by simp)) (by decide)
      rw [Reader.blockRest, frontKind_terminal]
      exact follows_ok (fun same => by rw [equal same]) also
  | case2 found ts atEnd =>
      intro other us equal agree near
      rw [Reader.blockRest, lock.front agree (by omega), atEnd]
      exact follows_failHere _ _ agree
  | case3 found ts fault rest reached failed noBrace noEnd =>
      intro other us equal agree near
      have front := lock.front agree (by omega)
      have first := parallel.follows agree near
      rw [failed] at first
      rw [StmtPhrase.blockRest_of_ne depth other (front ▸ noBrace) (front ▸ noEnd)]
      exact first.fail_andThen
  | case4 found ts next rest done noBrace noEnd more =>
      intro other us equal agree near
      have front := lock.front agree (by omega)
      have first := parallel.follows agree near
      rw [done] at first
      rw [StmtPhrase.blockRest_of_ne depth other (front ▸ noBrace) (front ▸ noEnd)]
      refine first.ok_andThen (blockRest_reads reads depth _ rest).stays fun value left same => ?_
      exact more (value :: other) left fun holds => by rw [same holds, equal holds]

theorem body_parallel (depth : Nat) : lock.Parallel (reader.body depth) (reader.body depth) := by
  refine ⟨fun ts => (body_reads reads depth ts).stays, fun {ts us} agree near => ?_⟩
  rw [Reader.body, Reader.body, lock.front agree (by omega)]
  split
  · rename_i opening
    obtain ⟨left, rest, rfl⟩ := Grammar.exists_cons opening (by decide)
    obtain ⟨otherLeft, others, rfl, also⟩ :=
      exists_cons agree (Nat.le_trans near (by simp)) (by decide)
    exact .of_stays (blockRest_reads reads depth [] rest).stays
      (blockRest_follows reads parallel depth [] rest [] others (fun _ => rfl) also)
  · exact parallel.follows agree near

theorem elseBranch_parallel (depth : Nat) {condition otherCondition : Expr}
    {thenBranch otherThen : Stmt} (sameCondition : lock.same → otherCondition = condition)
    (sameThen : lock.same → otherThen = thenBranch) :
    lock.Parallel (reader.elseBranch depth condition thenBranch)
      (reader.elseBranch depth otherCondition otherThen) := by
  have body := body_parallel reads parallel depth
  have stays (ts : List Token) : (reader.elseBranch depth condition thenBranch ts).Stays ts := by
    rw [Reader.elseBranch]
    split
    · rename_i front
      obtain ⟨word, rest, rfl⟩ := Grammar.exists_cons front (by decide)
      exact ((body_reads reads depth rest).stays.mono (Nat.le_succ _)).map
    · exact Nat.le_refl _
  refine ⟨stays, fun {ts us} agree near => ?_⟩
  rw [Reader.elseBranch, Reader.elseBranch, lock.front agree (by omega)]
  split
  · rename_i front
    obtain ⟨word, rest, rfl⟩ := Grammar.exists_cons front (by decide)
    obtain ⟨otherWord, others, rfl, also⟩ :=
      exists_cons agree (Nat.le_trans near (by simp)) (by decide)
    exact (body.behind also).map fun same => by rw [sameCondition same, sameThen same]
  · exact follows_ok (fun same => by rw [sameCondition same, sameThen same]) agree

theorem unnested_parallel (depth : Nat) (takes : TakesStatements reader) :
    lock.Parallel (reader.unnested depth) (reader.unnested depth) := by
  have body := body_parallel reads parallel depth
  have value : lock.Parallel (Parser.expression depth) (Parser.expression depth) :=
    expression_parallel depth
  refine ⟨fun ts => (unnested_reads takes reads depth ts).stays, fun {ts us} agree near => ?_⟩
  rw [Reader.unnested, Reader.unnested, lock.front agree (by omega)]
  split
  case h_5 => exact (assignment_parallel depth).follows agree near
  all_goals
    rename_i front
    obtain ⟨word, rest, rfl⟩ := Grammar.exists_cons front (by decide)
    obtain ⟨otherWord, others, rfl, also⟩ :=
      exists_cons agree (Nat.le_trans near (by simp)) (by decide)
  · exact (value.behind also).map fun _ => rfl
  · refine (value.andThen fun condition other sameCondition => ?_).behind also
    refine body.andThen fun thenBranch otherThen sameThen => ?_
    exact elseBranch_parallel reads parallel depth sameCondition sameThen
  · refine (value.andThen fun condition other sameCondition => ?_).behind also
    exact body.map fun same => by rw [sameCondition same]
  · refine ((forHead_parallel depth).andThen fun head other sameHead => ?_).behind also
    exact body.map fun same => by rw [sameHead same]

end Readers

/-- The readers of all levels come to the same in both runs. -/
theorem readerAt_parallel (free : Nat) :
    ∀ depth, lock.Parallel (readerAt depth free).read (readerAt depth free).read := by
  induction free with
  | zero => exact fun depth => ⟨fun _ => Nat.le_refl _, fun agree _ => follows_failHere _ _ agree⟩
  | succ free ih =>
      intro depth
      have reads := readerAt_readsStatements free (depth + 1)
      have takes := readerAt_takesStatements free (depth + 1)
      exact (unnested_parallel reads (ih (depth + 1)) (depth + 1) takes).leave

theorem statement_parallel (depth : Nat) :
    lock.Parallel (Parser.statement depth) (Parser.statement depth) :=
  readerAt_parallel (maxDepth - depth) depth

/-- A program that fails within the limit fails for the same cause in the second run. -/
theorem program_fails {depth reached : Nat} {found : List Stmt} {fault : Parser.Fault}
    {rest : List Token} (failed : Parser.program depth found ts = .fail fault rest reached)
    (literal : fault.cause.IsLiteral → lock.same) (near : lock.limit ≤ fault.place.length)
    (agree : lock.agree ts us) (other : List Stmt) :
    ∃ place left, Parser.program depth other us = .fail ⟨fault.cause, place⟩ left reached ∧
      lock.agree fault.place place ∧ lock.agree rest left := by
  have inside := Nat.le_trans near (begins_program failed).length_le
  have front := lock.front agree (by omega)
  fun_induction Parser.program depth found ts generalizing us other with
  | case1 => cases failed
  | case2 found ts stmtFault left stmtReached stmtFailed noEnd =>
      cases failed
      have first := (statement_parallel depth).follows agree inside
      rw [stmtFailed] at first
      obtain ⟨place, others, same, also⟩ := first near literal
      rw [program_of_ne depth other (front ▸ noEnd), same]
      exact ⟨place, others, rfl, also⟩
  | case3 found ts next left done noEnd more =>
      have behind := Nat.le_trans near (begins_program failed).length_le
      have first := (statement_parallel depth).follows agree inside
      rw [done] at first
      obtain ⟨value, others, same, _, also⟩ := first behind
      rw [program_of_ne depth other (front ▸ noEnd), same]
      exact more failed also (value :: other) behind (lock.front also (by omega))

/-- Without a limit, a program that is read is read in the second run as well, with the same tree
    if values are the same, and both runs stop behind an end of the input. -/
theorem program_reads {depth : Nat} {found : List Stmt} {tree : Stmt} {rest : List Token}
    (unlimited : lock.limit = 0) (same : lock.same)
    (done : Parser.program depth found ts = .ok tree rest) (agree : lock.agree ts us) :
    ∃ last left, frontKind last = .endOfInput ∧ rest = last.tail ∧ lock.agree last left ∧
      Parser.program depth found us = .ok tree left.tail := by
  fun_induction Parser.program depth found ts generalizing us with
  | case1 found ts atEnd =>
      cases done
      refine ⟨ts, us, atEnd, rfl, agree, ?_⟩
      rw [Parser.program, lock.front agree (by omega), atEnd]
  | case2 => cases done
  | case3 found ts next left read noEnd more =>
      have front := lock.front agree (by omega)
      have first := (statement_parallel depth).follows agree (by omega)
      rw [read] at first
      obtain ⟨value, others, also, equal, behind⟩ := first (by omega)
      cases equal same
      rw [program_of_ne depth found (front ▸ noEnd), also]
      exact more done behind

end Lockstep

end Kiss.Grammar
