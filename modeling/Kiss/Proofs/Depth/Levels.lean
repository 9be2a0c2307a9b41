import Kiss.Proofs.Grammar.Tallest

/-!
# The limit on nesting is exact

Statements, whole expressions and operators stand at levels. `levels` lists, for a derivation,
the level of everything in it that is counted when it is entered: each statement, each expression
of a statement, each inside of parentheses, and each operator but the single `|`. A program whose
literals denote numbers is accepted just if none of these is beyond the limit
(`parse_eq_ok_iff_levels`).
-/

namespace Kiss.Grammar

open Kiss.Parser (Level)

variable {bound : Nat}

namespace ExprPhrase

variable {part : ExprPart}

/-- The levels that are entered in an expression that stands at a level. The `i`-th operator of a
    chain, and all of its right side, is `i` levels above the beginning of the chain. -/
def levels : {part : ExprPart} → ExprPhrase part → Nat → List Nat
  | _, .group _ inner _, depth => (depth + 1) :: inner.levels (depth + 1)
  | _, .bare inner, depth => inner.levels depth
  | _, .positive _ inner, depth => inner.levels depth
  | _, .negated _ inner, depth => inner.levels depth
  | _, .inverted _ inner, depth => inner.levels depth
  | _, .operand inner, depth => inner.levels depth
  | _, .joined _ left _ _ right, depth =>
      left.levels depth ++
        (depth + left.operators + 1) :: right.levels (depth + left.operators + 1)
  | _, .whole inner, depth => inner.levels depth
  | _, .strictOr left _ right, depth =>
      left.levels depth ++ right.levels (depth + left.operators)
  | _, .strictAnd left _ right, depth =>
      left.levels depth ++
        (depth + left.operators + 1) :: right.levels (depth + left.operators + 1)
  | _, _, _ => []

/-- An expression reaches the greatest of its levels. -/
theorem reach_le_iff (phrase : ExprPhrase part) :
    ∀ depth, phrase.reach depth ≤ bound ↔
      depth ≤ bound ∧ ∀ level ∈ phrase.levels depth, level ≤ bound := by
  induction phrase with
  | group left inner right ih =>
      intro depth
      rw [reach, levels, ih, List.forall_mem_cons]
      exact ⟨fun within => ⟨Nat.le_of_succ_le within.1, within⟩, And.right⟩
  | bare _ ih | positive _ _ ih | negated _ _ ih | inverted _ _ ih | operand _ ih | whole _ ih =>
      exact ih
  | joined op left operator joins right ihLeft ihRight =>
      intro depth
      rw [reach, levels, Nat.max_le, ihLeft, ihRight, List.forall_mem_append,
        List.forall_mem_cons, and_assoc]
  | strictOr left operator right ihLeft ihRight =>
      intro depth
      have charged := left.operators_le_reach depth
      rw [reach, levels, Nat.max_le, ihRight, List.forall_mem_append,
        ← and_assoc (a := depth ≤ bound), ← ihLeft]
      -- the level that the chain has reached is one of those in front of the single operator
      exact ⟨fun within => ⟨within.1, within.2.2⟩,
        fun within => ⟨within.1, Nat.le_trans charged within.1, within.2⟩⟩
  | strictAnd left operator right ihLeft ihRight =>
      intro depth
      rw [reach, levels, Nat.max_le, ihLeft, ihRight, List.forall_mem_append,
        List.forall_mem_cons, and_assoc]
  | _ => exact fun depth => ⟨fun within => ⟨within, by simp [levels]⟩, And.left⟩

end ExprPhrase

namespace StmtPhrase

variable {part : StmtPart}

/-- The levels that are entered in a statement that stands at a level. -/
def levels : {part : StmtPart} → StmtPhrase part → Nat → List Nat
  | _, .assign _ _ value, depth => (depth + 1) :: value.levels (depth + 1)
  | _, .assignField _ _ _ _ value, depth => (depth + 1) :: value.levels (depth + 1)
  | _, .print _ value, depth => (depth + 1) :: (depth + 2) :: value.levels (depth + 2)
  | _, .assignment inner, depth => (depth + 1) :: inner.levels (depth + 1)
  | _, .ifThen _ condition thenBody, depth =>
      (depth + 1) :: (depth + 2) :: (condition.levels (depth + 2) ++ thenBody.levels (depth + 1))
  | _, .ifElse _ condition thenBody _ elseBody, depth =>
      (depth + 1) :: (depth + 2) :: (condition.levels (depth + 2) ++
        (thenBody.levels (depth + 1) ++ elseBody.levels (depth + 1)))
  | _, .whileLoop _ condition inner, depth =>
      (depth + 1) :: (depth + 2) :: (condition.levels (depth + 2) ++ inner.levels (depth + 1))
  | _, .forLoop _ _ init _ condition _ increment _ inner, depth =>
      (depth + 1) :: (init.levels (depth + 1) ++ (depth + 2) :: (condition.levels (depth + 2) ++
        (increment.levels (depth + 1) ++ inner.levels (depth + 1))))
  | _, .block _ inner _, depth => inner.levels depth
  | _, .single inner, depth => inner.levels depth
  | _, .none, _ => []
  | _, .more first others, depth => first.levels depth ++ others.levels depth

/-- A statement reaches the greatest of its levels. -/
theorem reach_le_iff (phrase : StmtPhrase part) :
    ∀ depth, phrase.reach depth ≤ bound ↔
      depth ≤ bound ∧ ∀ level ∈ phrase.levels depth, level ≤ bound := by
  induction phrase with
  | assign name sign value | assignField object dot field sign value =>
      intro depth
      rw [reach, levels, value.reach_le_iff, List.forall_mem_cons]
      exact ⟨fun within => ⟨Nat.le_of_succ_le within.1, within⟩, And.right⟩
  | print word value =>
      intro depth
      rw [reach, levels, value.reach_le_iff]
      simp only [List.forall_mem_cons]
      grind
  | assignment inner ih =>
      intro depth
      rw [reach, levels, ih, List.forall_mem_cons]
      exact ⟨fun within => ⟨Nat.le_of_succ_le within.1, within⟩, And.right⟩
  | ifThen word condition thenBody ih =>
      intro depth
      rw [reach, levels, Nat.max_le, condition.reach_le_iff, ih]
      simp only [List.forall_mem_cons, List.forall_mem_append]
      grind
  | ifElse word condition thenBody elseWord elseBody ihThen ihElse =>
      intro depth
      rw [reach, levels, Nat.max_le, Nat.max_le, condition.reach_le_iff, ihThen, ihElse]
      simp only [List.forall_mem_cons, List.forall_mem_append]
      grind
  | whileLoop word condition inner ih =>
      intro depth
      rw [reach, levels, Nat.max_le, condition.reach_le_iff, ih]
      simp only [List.forall_mem_cons, List.forall_mem_append]
      grind
  | forLoop word left init first condition second increment right inner ihInit ihIncrement ih =>
      intro depth
      rw [reach, levels, Nat.max_le, Nat.max_le, Nat.max_le, condition.reach_le_iff, ihInit,
        ihIncrement, ih]
      simp only [List.forall_mem_cons, List.forall_mem_append]
      grind
  | block _ _ _ ih | single _ ih => exact ih
  | none => exact fun depth => ⟨fun within => ⟨within, by simp [levels]⟩, And.left⟩
  | more first others ihFirst ihOthers =>
      intro depth
      rw [reach, levels, Nat.max_le, ihFirst, ihOthers, List.forall_mem_append]
      exact ⟨fun within => ⟨within.1.1, within.1.2, within.2.2⟩,
        fun within => ⟨⟨within.1, within.2.1⟩, within.1, within.2.2⟩⟩

end StmtPhrase

/-- A program begins on no level at all, so it reaches just what it enters. -/
theorem reach_le_maxDepth_iff (program : Program) :
    program.reach 0 ≤ maxDepth ↔ ∀ level ∈ program.levels 0, level ≤ 256 := by
  rw [program.reach_le_iff]
  exact ⟨And.right, fun within => ⟨Nat.zero_le _, within⟩⟩

/-- The limit is exact: a program whose literals denote numbers is accepted just if no level that
    is entered in it is beyond 256, and if one is, the answer is that it nests too deep. -/
theorem parse_eq_ok_iff_levels {ts : List Token} {program : Program}
    (same : program.tokens = body ts) (converts : ∀ t ∈ body ts, Converts t) :
    ((∃ tree, parse ts = .ok tree) ↔ ∀ level ∈ program.levels 0, level ≤ 256) ∧
      ((∃ level ∈ program.levels 0, 256 < level) →
        ∃ e, parse ts = .error e ∧ e.text = "Maximum nesting depth (256) exceeded") := by
  obtain ⟨trees, treesFound⟩ := program.exists_tree (same ▸ converts)
  have found : blockTree? program = some (.block trees) := by
    rw [blockTree?, treesFound]
    rfl
  rw [← reach_le_maxDepth_iff]
  rcases parse_of_program same found with ⟨within, accepted⟩ | ⟨beyond, t, refused⟩
  · refine ⟨⟨fun _ => within, fun _ => ⟨_, accepted⟩⟩, ?_⟩
    rintro ⟨level, member, deep⟩
    have le := (reach_le_maxDepth_iff program).mp within level member
    omega
  · refine ⟨⟨?_, fun within => absurd within beyond⟩, fun _ => ⟨_, refused, text_tooDeep t⟩⟩
    rintro ⟨_, accepted⟩
    rw [refused] at accepted
    cases accepted

/-- The truth value in so many parentheses. -/
def ExprPhrase.grouped : Nat → ExprPhrase .primary
  | 0 => truth
  | n + 1 =>
      .group (.ofSymbol .leftParen)
        (raise (raise (raise (raise (raise (.bare (grouped n)))))))
        (.ofSymbol .rightParen)

/-- The statement that prints the truth value in so many parentheses. -/
def StmtPhrase.groupedPrint (n : Nat) : Program :=
  .more (.printed (.raise (.raise (.raise (.raise (.raise (.bare (.grouped n)))))))) .none

theorem ExprPhrase.levels_grouped (n : Nat) :
    ∀ depth, (grouped n).levels depth = List.range' (depth + 1) n := by
  induction n with
  | zero => exact fun depth => rfl
  | succ n ih =>
      intro depth
      rw [List.range'_succ, ← ih]
      rfl

theorem StmtPhrase.levels_groupedPrint (n : Nat) :
    (groupedPrint n).levels 0 = List.range' 1 (n + 2) := by
  have inside : (groupedPrint n).levels 0 = 1 :: 2 :: ((ExprPhrase.grouped n).levels 2 ++ []) :=
    rfl
  rw [inside, List.append_nil, ExprPhrase.levels_grouped, List.range'_succ, List.range'_succ]

/-- A token that is no literal needs no number. -/
theorem Terminal.converts {kind : TokenKind} (t : Terminal kind) (decimal : kind ≠ .number)
    (hex : kind ≠ .hexNumber) : Converts t.token :=
  ⟨fun number => absurd (t.hasKind.symm.trans number) decimal,
    fun number => absurd (t.hasKind.symm.trans number) hex⟩

theorem ExprPhrase.converts_grouped (n : Nat) : ∀ t ∈ (grouped n).tokens, Converts t := by
  induction n with
  | zero =>
      intro t member
      rw [List.mem_singleton.mp member]
      exact (Terminal.ofKeyword .trueWord).converts (by decide) (by decide)
  | succ n ih =>
      intro t member
      rcases List.mem_cons.mp member with rfl | member
      · exact (Terminal.ofSymbol .leftParen).converts (by decide) (by decide)
      rcases List.mem_append.mp member with inside | last
      · exact ih t inside
      · rw [List.mem_singleton.mp last]
        exact (Terminal.ofSymbol .rightParen).converts (by decide) (by decide)

theorem StmtPhrase.converts_groupedPrint (n : Nat) :
    ∀ t ∈ (groupedPrint n).tokens, Converts t := by
  intro t member
  have split : t ∈ (Terminal.ofKeyword .printWord).token :: (ExprPhrase.grouped n).tokens := by
    simpa [groupedPrint, printed, tokens, ExprPhrase.raise, ExprPhrase.tokens] using member
  rcases List.mem_cons.mp split with rfl | inside
  · exact (Terminal.ofKeyword .printWord).converts (by decide) (by decide)
  · exact ExprPhrase.converts_grouped n t inside

/-- The statement that prints is on the first level and its expression on the second, so there is
    room for 254 parentheses and not for one more. -/
theorem parse_eq_ok_iff_levels_groupedPrint :
    (∃ tree, parse (StmtPhrase.groupedPrint 254).tokens = .ok tree) ∧
      ∃ e, parse (StmtPhrase.groupedPrint 255).tokens = .error e ∧
        e.text = "Maximum nesting depth (256) exceeded" := by
  have whole (n : Nat) := (StmtPhrase.groupedPrint n).body_tokens
  have converts (n : Nat) : ∀ t ∈ body (StmtPhrase.groupedPrint n).tokens, Converts t := by
    rw [whole n]
    exact StmtPhrase.converts_groupedPrint n
  constructor
  · refine (parse_eq_ok_iff_levels (whole 254).symm (converts 254)).1.mpr fun level member => ?_
    rw [StmtPhrase.levels_groupedPrint, List.mem_range'_1] at member
    omega
  · refine (parse_eq_ok_iff_levels (whole 255).symm (converts 255)).2 ⟨257, ?_, by decide⟩
    rw [StmtPhrase.levels_groupedPrint, List.mem_range'_1]
    omega

end Kiss.Grammar
