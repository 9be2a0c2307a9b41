import Kiss.Proofs.Grammar.Acceptance
import Kiss.Proofs.Grammar.Height

/-!
# The tallest programs

Programs that use up what the depth limit allows. In a steep expression every level has a full
chain, and the first operand of each chain is the chain of the next level; the tallest
expressions are steep and have the tallest ones with a level less in parentheses at their
bottom. They show that the bound on the height is exact.
-/

namespace Kiss

theorem Expr.height_pos (e : Expr) : 0 < e.height := by
  cases e <;> simp [Expr.height]

/-- An operator with a truth value on its right side adds one node. -/
theorem Expr.height_binary_bool (op : BinaryOp) (left : Expr) (value : Bool) :
    (Expr.binary op left (.bool value)).height = left.height + 1 := by
  have positive := left.height_pos
  simp only [Expr.height]
  omega

namespace Grammar

open Kiss.Parser (Level)

/-- A symbol, wherever it stands. -/
def Terminal.ofSymbol (s : Symbol) : Terminal (.symbol s) :=
  ⟨⟨.symbol s, s.lexeme, .start⟩, rfl⟩

/-- A keyword, wherever it stands. -/
def Terminal.ofKeyword (k : Keyword) : Terminal (.keyword k) :=
  ⟨⟨.keyword k, k.lexeme, .start⟩, rfl⟩

namespace ExprPhrase

variable {part : ExprPart} {free height : Nat}

/-- A chain without operators. -/
def raise {level : Level} (inner : ExprPhrase (operandOf level)) : ExprPhrase (.chain level) :=
  .whole (.operand inner)

/-- The shortest primary expression: a truth value. -/
def truth : ExprPhrase .primary :=
  .trueWord (.ofKeyword .trueWord)

/-- A truth value as an operand of a level. -/
def shortest : (level : Level) → ExprPhrase (operandOf level)
  | .conjunction => .bare truth
  | .disjunction => raise (.bare truth)
  | .product => raise (raise (.bare truth))
  | .comparison => raise (raise (raise (.bare truth)))
  | .sum => raise (raise (raise (raise (.bare truth))))

/-- A repeating operator of a level. -/
def joiner (level : Level) : Symbol × BinaryOp :=
  (joiners level).head (by cases level <;> simp [joiners])

theorem joiner_mem (level : Level) : joiner level ∈ joiners level :=
  List.head_mem _

/-- A run of so many operators behind its first operand, each with a truth value on its right
    side. -/
def lengthen (level : Level) (first : ExprPhrase (operandOf level)) :
    Nat → ExprPhrase (.run level)
  | 0 => .operand first
  | n + 1 =>
      .joined (joiner level).2 (lengthen level first n) (.ofSymbol (joiner level).1)
        (joiner_mem level) (shortest level)

/-- A primary expression behind a sign, below a full chain of each level. -/
def steep (inner : ExprPhrase .primary) (free : Nat) : Expression :=
  let conjunction : ExprPhrase (.chain .conjunction) :=
    .whole (lengthen .conjunction (.negated (.ofSymbol .minus) inner) free)
  let disjunction : ExprPhrase (.chain .disjunction) :=
    .strictOr (lengthen .disjunction conjunction free) (.ofSymbol .singleOr)
      (raise (.bare truth))
  let product : ExprPhrase (.chain .product) := .whole (lengthen .product disjunction free)
  let comparison : ExprPhrase (.chain .comparison) :=
    .whole (lengthen .comparison product free)
  .whole (lengthen .sum comparison free)

/-- The tallest primary expression where so many levels are free. -/
def tallest : Nat → ExprPhrase .primary
  | 0 => truth
  | free + 1 =>
      .group (.ofSymbol .leftParen) (steep (tallest free) free) (.ofSymbol .rightParen)

/-- A phrase fits wherever so many levels are free, and its tree has a given height. -/
structure Fits (phrase : ExprPhrase part) (free height : Nat) : Prop where
  reach_le : ∀ depth, phrase.reach depth ≤ depth + free
  height_eq : ∃ tree, phrase.tree? = some tree ∧ tree.height = height

theorem truth_fits (free : Nat) : truth.Fits free 1 :=
  ⟨fun depth => Nat.le_add_right depth free, .bool true, rfl, rfl⟩

theorem reach_shortest (level : Level) (depth : Nat) : (shortest level).reach depth = depth := by
  cases level <;> rfl

theorem tree?_shortest (level : Level) : (shortest level).tree? = some (.bool true) := by
  cases level <;> rfl

theorem operators_lengthen (level : Level) (first : ExprPhrase (operandOf level)) (n : Nat) :
    (lengthen level first n).operators = n := by
  induction n with
  | zero => rfl
  | succ n ih => rw [lengthen, operators, ih]

namespace Fits

theorem negated {inner : ExprPhrase .primary} (fits : inner.Fits free height) :
    (ExprPhrase.negated (.ofSymbol .minus) inner).Fits free (height + 1) := by
  obtain ⟨tree, found, rfl⟩ := fits.height_eq
  exact ⟨fits.reach_le, .unary .negate tree, by rw [tree?, found]; rfl, rfl⟩

theorem whole {level : Level} {inner : ExprPhrase (.run level)}
    (fits : inner.Fits free height) : (ExprPhrase.whole inner).Fits free height :=
  ⟨fits.reach_le, fits.height_eq⟩

/-- An operator for each free level is what a run can hold, and each adds a node. -/
theorem lengthen (level : Level) {first : ExprPhrase (operandOf level)}
    (fits : first.Fits free height) (n : Nat) (room : n ≤ free) :
    (ExprPhrase.lengthen level first n).Fits free (height + n) := by
  induction n with
  | zero => exact ⟨fits.reach_le, fits.height_eq⟩
  | succ n ih =>
      obtain ⟨reach_le, tree, found, same⟩ := ih (Nat.le_of_succ_le room)
      refine ⟨fun depth => ?_, .binary (joiner level).2 tree (.bool true), ?_, ?_⟩
      · rw [ExprPhrase.lengthen, reach, operators_lengthen, reach_shortest]
        exact Nat.max_le.mpr ⟨reach_le depth, by omega⟩
      · rw [ExprPhrase.lengthen, tree?, found, tree?_shortest]
        rfl
      · rw [Expr.height_binary_bool, same, Nat.add_assoc]

/-- A single `|` needs no level of its own. -/
theorem strictOr {left : ExprPhrase (.run .disjunction)} (fits : left.Fits free height)
    (room : left.operators ≤ free) :
    (ExprPhrase.strictOr left (.ofSymbol .singleOr) (raise (.bare truth))).Fits free
      (height + 1) := by
  obtain ⟨tree, found, rfl⟩ := fits.height_eq
  refine ⟨fun depth => ?_, .binary (.logical .strictOr) tree (.bool true), ?_,
    Expr.height_binary_bool _ tree true⟩
  · exact Nat.max_le.mpr ⟨fits.reach_le depth, Nat.add_le_add_left room depth⟩
  · rw [tree?, found]
    rfl

/-- A steep expression has a node for the sign, one for the single `|`, and one for each free
    level of each of the five levels of operators. -/
theorem steep {inner : ExprPhrase .primary} (fits : inner.Fits free height) :
    (ExprPhrase.steep inner free).Fits free (height + 5 * free + 2) := by
  have all := Nat.le_refl free
  have conjunction := (lengthen .conjunction fits.negated free all).whole
  have run := lengthen .disjunction conjunction free all
  have disjunction := run.strictOr (Nat.le_of_eq (operators_lengthen _ _ free))
  have product := (lengthen .product disjunction free all).whole
  have comparison := (lengthen .comparison product free all).whole
  have sum := (lengthen .sum comparison free all).whole
  have total : height + 1 + free + free + 1 + free + free + free = height + 5 * free + 2 := by
    omega
  rw [total] at sum
  exact sum

/-- Parentheses need one level more than what they hold. -/
theorem group {inner : Expression} (fits : inner.Fits free height) :
    (ExprPhrase.group (.ofSymbol .leftParen) inner (.ofSymbol .rightParen)).Fits (free + 1)
      height := by
  refine ⟨fun depth => ?_, fits.height_eq⟩
  have deeper := fits.reach_le (depth + 1)
  simp only [reach]
  omega

end Fits

/-- The bound on the height of an expression is reached. -/
theorem tallest_fits (free : Nat) : (tallest free).Fits free (tallestPrimary free) := by
  induction free with
  | zero => exact truth_fits 0
  | succ free ih => exact ih.steep.group

end ExprPhrase

namespace StmtPhrase

/-- The statement `print value`. -/
def printed (value : Expression) : StmtPhrase (.statement .closed) :=
  .print (.ofKeyword .printWord) value

/-- The loop `for (x = value; true; x = true) {}`. -/
def counted (value : Expression) : StmtPhrase (.statement .closed) :=
  let name : Terminal .word := ⟨⟨.word, "x", .start⟩, rfl⟩
  let truth : Expression := .raise (.shortest .sum)
  .forLoop (.ofKeyword .forWord) (.ofSymbol .leftParen) (.assign name (.ofSymbol .assign) value)
    (.ofSymbol .semicolon) truth (.ofSymbol .semicolon)
    (.assign name (.ofSymbol .assign) truth) (.ofSymbol .rightParen)
    (.block (.ofSymbol .leftBrace) .none (.ofSymbol .rightBrace))

end StmtPhrase

variable {value : Expression} {height : Nat}

/-- A program of a single statement is accepted if the statement does not nest too deep. -/
theorem parse_single {ending : Ending} {statement : StmtPhrase (.statement ending)} {tree : Stmt}
    (found : statement.tree? = some tree) (within : statement.reach 0 ≤ maxDepth) :
    parse statement.tokens = .ok (.block [tree]) := by
  have same : (StmtPhrase.more statement .none).tokens = body statement.tokens := by
    rw [statement.body_tokens]
    exact List.append_nil _
  have treeFound : blockTree? (.more statement .none) = some (.block [tree]) := by
    rw [blockTree?, StmtPhrase.tree?, found]
    rfl
  rcases parse_of_program same treeFound with ⟨_, accepted⟩ | ⟨beyond, _⟩
  · exact accepted
  · exact absurd (Nat.max_le.mpr ⟨within, Nat.zero_le _⟩) beyond

/-- What a print statement of a tall expression is read as. -/
theorem exists_parse_printed (fits : value.Fits 254 height) :
    ∃ tree, parse (StmtPhrase.printed value).tokens = .ok tree ∧ tree.height = height + 2 := by
  obtain ⟨tree, found, rfl⟩ := fits.height_eq
  have stmtFound : (StmtPhrase.printed value).tree? = some (.print tree) := by
    rw [StmtPhrase.printed, StmtPhrase.tree?, found]
    rfl
  exact ⟨_, parse_single stmtFound (fits.reach_le 2), rfl⟩

/-- What a loop from a tall expression on is read as. -/
theorem exists_parse_counted (fits : value.Fits 254 height) :
    ∃ tree, parse (StmtPhrase.counted value).tokens = .ok tree ∧ tree.height = height + 3 := by
  obtain ⟨tree, found, rfl⟩ := fits.height_eq
  have stmtFound : (StmtPhrase.counted value).tree? =
      some (.forLoop (.assign "x" tree) (.bool true) (.assign "x" (.bool true)) (.block [])) := by
    simp only [StmtPhrase.counted, StmtPhrase.tree?, found]
    rfl
  have within : (StmtPhrase.counted value).reach 0 ≤ maxDepth :=
    Nat.max_le.mpr ⟨fits.reach_le 2, by decide⟩
  refine ⟨_, parse_single stmtFound within, ?_⟩
  have positive := tree.height_pos
  simp only [Stmt.height, Stmt.heightOfAll, Expr.height]
  omega

/-- The height that so many free levels allow, in closed form. -/
theorem two_mul_tallestPrimary (free : Nat) :
    2 * tallestPrimary free + free = 5 * free * free + 2 := by
  induction free with
  | zero => rfl
  | succ free ih =>
      have square : 5 * (free + 1) * (free + 1) = 5 * free * free + 10 * free + 5 := by
        simp only [Nat.mul_add, Nat.add_mul, Nat.mul_one]
        omega
      rw [tallestPrimary_succ, square]
      omega

/-- The depth limit bounds the height of a program, and this is the bound: a program is
    accepted only if no path in its tree has more than 162439 nodes, and one of this height
    is accepted. -/
theorem parse_height_le_iff (bound : Nat) :
    (∀ ts tree, parse ts = .ok tree → tree.height ≤ bound) ↔ 162439 ≤ bound := by
  constructor
  · intro bounded
    have steep := (ExprPhrase.tallest_fits 254).steep
    obtain ⟨tree, accepted, same⟩ := exists_parse_counted steep
    have le := bounded _ tree accepted
    have value := two_mul_tallestPrimary 254
    omega
  · intro enough ts tree accepted
    obtain ⟨program, same, found⟩ := exists_program_of_parse accepted
    rcases parse_of_program same found with ⟨within, _⟩ | ⟨_, _, refused⟩
    · obtain ⟨trees, treesFound, rfl⟩ := Option.map_eq_some_iff.mp found
      have height := program.height_le_tallest 0 maxDepth trees treesFound within
      have value := two_mul_tallestPrimary 255
      simp only [StmtPart.height, StmtPart.tallest, maxDepth, Nat.reduceSub] at height
      simp only [Stmt.height]
      omega
    · rw [accepted] at refused
      cases refused

/-- A program with one full chain of each level, whose tree is already more than four times as
    tall as the depth limit. -/
theorem exists_parse_printed_steep :
    ∃ tree, parse (StmtPhrase.printed (.steep .truth 254)).tokens = .ok tree ∧
      4 * maxDepth < tree.height := by
  obtain ⟨tree, accepted, same⟩ := exists_parse_printed (ExprPhrase.truth_fits 254).steep
  exact ⟨tree, accepted, by rw [same]; decide⟩

end Grammar

end Kiss
