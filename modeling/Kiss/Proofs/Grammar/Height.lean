import Kiss.Proofs.Grammar.StmtReading

/-!
# How tall a tree the depth limit allows

The height of a tree is the number of nodes on its longest path. A chain gives back the levels
that it has charged as soon as it ends, although its operators stay in the tree, and a single
`|` charges nothing at all. So the five levels of an expression can each spend the same free
levels once more, and every pair of parentheses can do so again with one level less: the height
that is allowed grows with the square of the limit. `height_le_tallest` bounds the height of a
derivation by the levels that are free where it stands.
-/

namespace Kiss

/-- The number of nodes on the longest path of an expression. -/
def Expr.height : Expr → Nat
  | .unary _ operand => operand.height + 1
  | .binary _ left right => max left.height right.height + 1
  | _ => 1

namespace Stmt

mutual

/-- The number of nodes on the longest path of a statement, those of its expressions
    included. -/
def height : Stmt → Nat
  | .print value => value.height + 1
  | .assign _ value => value.height + 1
  | .assignField _ _ value => value.height + 1
  | .block statements => heightOfAll statements + 1
  | .branch condition thenBranch none => max condition.height thenBranch.height + 1
  | .branch condition thenBranch (some elseBranch) =>
      max condition.height (max thenBranch.height elseBranch.height) + 1
  | .whileLoop condition body => max condition.height body.height + 1
  | .forLoop init condition increment body =>
      max init.height (max condition.height (max increment.height body.height)) + 1

/-- The number of nodes on the longest path of any of several statements. -/
def heightOfAll : List Stmt → Nat
  | [] => 0
  | first :: rest => max first.height (heightOfAll rest)

end

end Stmt

namespace Grammar

open Kiss.Parser (Level)

/-- The height of the tree of a part of a program; that of several statements is that of the
    tallest. -/
def StmtPart.height : (part : StmtPart) → part.Tree → Nat
  | .statements, trees => Stmt.heightOfAll trees
  | .assignment, tree => Stmt.height tree
  | .statement _, tree => Stmt.height tree
  | .body _, tree => Stmt.height tree

/-- The most nodes on a path of a primary expression where so many levels are free. Around
    the one that stands a level deeper come a sign, a full chain of each level and one single
    `|`. -/
def tallestPrimary : Nat → Nat
  | 0 => 1
  | free + 1 => tallestPrimary free + 5 * free + 2

/-- The most nodes on a path of an expression where so many levels are free, not counting the
    operators of a run. -/
def ExprPart.tallest (part : ExprPart) (free : Nat) : Nat :=
  match part with
  | .primary => tallestPrimary free
  | .unary | .run .conjunction => tallestPrimary free + 1
  | .chain .conjunction | .run .disjunction => tallestPrimary free + free + 1
  | .chain .disjunction | .run .product => tallestPrimary free + 2 * free + 2
  | .chain .product | .run .comparison => tallestPrimary free + 3 * free + 2
  | .chain .comparison | .run .sum => tallestPrimary free + 4 * free + 2
  | .chain .sum => tallestPrimary free + 5 * free + 2

/-- The most nodes on a path of a statement where so many levels are free. The assignments in
    the head of a loop are the parts of a statement that stand least deep. -/
def StmtPart.tallest (part : StmtPart) (free : Nat) : Nat :=
  match part with
  | .assignment => tallestPrimary free + 1
  | .statement _ | .statements => tallestPrimary (free - 1) + 2
  | .body _ => tallestPrimary (free - 1) + 3

theorem tallestPrimary_succ (free : Nat) :
    tallestPrimary (free + 1) = tallestPrimary free + 5 * free + 2 := rfl

theorem tallestPrimary_pos (free : Nat) : 0 < tallestPrimary free := by
  induction free with
  | zero => exact Nat.one_pos
  | succ free ih =>
      rw [tallestPrimary_succ]
      omega

theorem tallestPrimary_mono {fewer more : Nat} (le : fewer ≤ more) :
    tallestPrimary fewer ≤ tallestPrimary more := by
  induction le with
  | refl => exact Nat.le_refl _
  | step _ ih =>
      rw [tallestPrimary_succ]
      omega

namespace ExprPart

/-- The first operand of a run stands where the run stands. -/
theorem tallest_operand (level : Level) (free : Nat) :
    (operandOf level).tallest free = (ExprPart.run level).tallest free := by
  cases level <;> rfl

/-- A chain holds a run with an operator for each free level. -/
theorem tallest_run_le_chain (level : Level) (free : Nat) :
    (ExprPart.run level).tallest free + free ≤ (ExprPart.chain level).tallest free := by
  cases level <;> simp only [tallest] <;> omega

end ExprPart

namespace ExprPhrase

variable {part : ExprPart}

/-- Only a run has operators of its own. -/
theorem operators_eq_zero (phrase : ExprPhrase part) (notRun : ∀ level, part ≠ .run level) :
    phrase.operators = 0 := by
  cases phrase with
  | joined => exact absurd rfl (notRun _)
  | _ => rfl

theorem operators_operand {level : Level} (phrase : ExprPhrase (operandOf level)) :
    phrase.operators = 0 :=
  phrase.operators_eq_zero fun _ => by cases level <;> simp [operandOf]

theorem operators_chain {level : Level} (phrase : ExprPhrase (.chain level)) :
    phrase.operators = 0 :=
  phrase.operators_eq_zero fun _ => by simp

/-- The height of an expression is bounded by the levels that are free where it stands, and by
    the operators that its run has so far. -/
theorem height_le_tallest (phrase : ExprPhrase part) :
    ∀ (depth free : Nat) (tree : Expr), phrase.tree? = some tree →
      phrase.reach depth ≤ depth + free →
      tree.height ≤ part.tallest free + phrase.operators := by
  induction phrase with
  | number | hexNumber =>
      intro depth free tree found _
      obtain ⟨value, _, rfl⟩ := Option.map_eq_some_iff.mp found
      exact Nat.le_add_right_of_le (tallestPrimary_pos free)
  | text | trueWord | falseWord | var | field | emptyObject =>
      intro depth free tree found _
      cases found
      exact Nat.le_add_right_of_le (tallestPrimary_pos free)
  | group _ inner _ ih =>
      intro depth free tree found fits
      -- what is in the parentheses stands a level deeper, so at least one level is free
      have inside := Nat.le_trans (inner.le_reach (depth + 1)) fits
      obtain ⟨left, rfl⟩ : ∃ left, free = left + 1 := ⟨free - 1, by omega⟩
      have bound := ih (depth + 1) left tree found (by simp only [reach] at fits; omega)
      rwa [inner.operators_chain] at bound
  | bare inner ih =>
      intro depth free tree found fits
      have bound := ih depth free _ found fits
      rw [inner.operators_eq_zero (by simp)] at bound
      exact Nat.le_succ_of_le bound
  | positive _ inner ih =>
      intro depth free tree found fits
      have bound := ih depth free _ found fits
      rw [inner.operators_eq_zero (by simp)] at bound
      exact Nat.le_succ_of_le bound
  | negated _ inner ih | inverted _ inner ih =>
      intro depth free tree found fits
      obtain ⟨operand, operandFound, rfl⟩ := Option.map_eq_some_iff.mp found
      have bound := ih depth free _ operandFound fits
      rw [inner.operators_eq_zero (by simp)] at bound
      exact Nat.succ_le_succ bound
  | @operand level inner ih =>
      intro depth free tree found fits
      have bound := ih depth free _ found fits
      rwa [inner.operators_operand, ExprPart.tallest_operand] at bound
  | @joined level _ op left _ _ right ihLeft ihRight =>
      intro depth free tree found fits
      obtain ⟨l, r, leftFound, rightFound, rfl⟩ := pair_eq_some found
      obtain ⟨leftFits, rightFits⟩ := Nat.max_le.mp fits
      have leftBound := ihLeft depth free _ leftFound leftFits
      -- the bound for all free levels is enough: an operand is no taller than its run
      have rightBound := ihRight (depth + left.operators + 1) free r rightFound (by omega)
      rw [right.operators_operand, ExprPart.tallest_operand] at rightBound
      simp only [Expr.height, operators]
      omega
  | @whole level inner ih =>
      intro depth free tree found fits
      have bound := ih depth free _ found fits
      have charged := Nat.le_trans (inner.operators_le_reach depth) fits
      have room := ExprPart.tallest_run_le_chain level free
      simp only [operators]
      omega
  | strictOr left _ right ihLeft ihRight =>
      intro depth free tree found fits
      obtain ⟨l, r, leftFound, rightFound, rfl⟩ := pair_eq_some found
      obtain ⟨leftFits, rightFits⟩ := Nat.max_le.mp fits
      have leftBound := ihLeft depth free _ leftFound leftFits
      have rightBound := ihRight (depth + left.operators) free r rightFound (by omega)
      have charged := Nat.le_trans (left.operators_le_reach depth) leftFits
      rw [right.operators_chain] at rightBound
      simp only [ExprPart.tallest, Expr.height, operators] at *
      omega
  | strictAnd left _ right ihLeft ihRight =>
      intro depth free tree found fits
      obtain ⟨l, r, leftFound, rightFound, rfl⟩ := pair_eq_some found
      obtain ⟨leftFits, rightFits⟩ := Nat.max_le.mp fits
      have inside := Nat.le_trans (right.le_reach _) rightFits
      have leftBound := ihLeft depth free _ leftFound leftFits
      -- the right side has only the levels that are left behind the operator
      have rightBound := ihRight (depth + left.operators + 1) (free - left.operators - 1) r
        rightFound (by omega)
      have fewer := tallestPrimary_mono (Nat.sub_le (free - left.operators) 1)
      have fewest := tallestPrimary_mono (Nat.sub_le free left.operators)
      rw [right.operators_chain] at rightBound
      simp only [ExprPart.tallest, Expr.height, operators] at *
      omega

/-- The height of a whole expression, by the levels that are free around it. -/
theorem height_le_tallestPrimary {phrase : Expression} {depth free : Nat} {tree : Expr}
    (found : phrase.tree? = some tree) (fits : phrase.reach (depth + 1) ≤ depth + free) :
    tree.height ≤ tallestPrimary free := by
  have inside := Nat.le_trans (phrase.le_reach (depth + 1)) fits
  obtain ⟨left, rfl⟩ : ∃ left, free = left + 1 := ⟨free - 1, by omega⟩
  have bound := phrase.height_le_tallest (depth + 1) left tree found (by omega)
  rwa [phrase.operators_chain] at bound

/-- An expression in a statement needs a level for the statement and one for itself. -/
theorem two_le_of_fits {phrase : Expression} {depth free : Nat}
    (fits : phrase.reach (depth + 2) ≤ depth + free) : 2 ≤ free := by
  have inside := Nat.le_trans (phrase.le_reach (depth + 2)) fits
  omega

/-- The height of the expression in a statement other than an assignment, by the levels that
    are free around the statement. -/
theorem height_le_inside {phrase : Expression} {depth free : Nat} {tree : Expr}
    (found : phrase.tree? = some tree) (fits : phrase.reach (depth + 2) ≤ depth + free) :
    tree.height ≤ tallestPrimary (free - 1) := by
  have room := two_le_of_fits fits
  have enough : depth + free ≤ depth + 1 + (free - 1) := by omega
  exact height_le_tallestPrimary found (Nat.le_trans fits enough)

end ExprPhrase

namespace StmtPhrase

variable {part : StmtPart}

/-- A statement in another one has a level less, so that it is shorter than what its place
    allows even when a block and a branch are put around it. -/
theorem tallest_body_lt {free : Nat} (room : 2 ≤ free) :
    (StmtPart.body .closed).tallest (free - 1) < tallestPrimary (free - 1) + 2 := by
  obtain ⟨left, rfl⟩ : ∃ left, free = left + 2 := ⟨free - 2, by omega⟩
  have grows : tallestPrimary (left + 1) = tallestPrimary left + 5 * left + 2 := rfl
  simp only [StmtPart.tallest, Nat.add_sub_cancel, Nat.reduceSubDiff]
  omega

/-- The height of a statement is bounded by the levels that are free where it stands. -/
theorem height_le_tallest (phrase : StmtPhrase part) :
    ∀ (depth free : Nat) (tree : part.Tree), phrase.tree? = some tree →
      phrase.reach depth ≤ depth + free → part.height tree ≤ part.tallest free := by
  induction phrase with
  | assign _ _ value | assignField _ _ _ _ value =>
      intro depth free tree found fits
      obtain ⟨valueTree, valueFound, rfl⟩ := Option.map_eq_some_iff.mp found
      exact Nat.succ_le_succ (ExprPhrase.height_le_tallestPrimary valueFound fits)
  | print _ value =>
      intro depth free tree found fits
      obtain ⟨valueTree, valueFound, rfl⟩ := Option.map_eq_some_iff.mp found
      exact Nat.le_succ_of_le (Nat.succ_le_succ (ExprPhrase.height_le_inside valueFound fits))
  | assignment inner ih =>
      intro depth free tree found fits
      have inside := Nat.le_trans (inner.le_reach (depth + 1)) fits
      have bound := ih (depth + 1) (free - 1) tree found (by simp only [reach] at fits; omega)
      exact Nat.le_succ_of_le bound
  | ifThen _ condition thenBody ih =>
      intro depth free tree found fits
      simp only [tree?, Option.bind_eq_some_iff, Option.map_eq_some_iff] at found
      obtain ⟨conditionTree, conditionFound, thenTree, thenFound, rfl⟩ := found
      obtain ⟨conditionFits, thenFits⟩ := Nat.max_le.mp fits
      have room := ExprPhrase.two_le_of_fits conditionFits
      have conditionBound := ExprPhrase.height_le_inside conditionFound conditionFits
      have thenBound := ih (depth + 1) (free - 1) thenTree thenFound (by omega)
      have short := tallest_body_lt room
      simp only [StmtPart.height, StmtPart.tallest, Stmt.height] at *
      omega
  | ifElse _ condition thenBody _ elseBody ihThen ihElse =>
      intro depth free tree found fits
      simp only [tree?, Option.bind_eq_some_iff, Option.map_eq_some_iff] at found
      obtain ⟨conditionTree, conditionFound, thenTree, thenFound, elseTree, elseFound, rfl⟩ := found
      obtain ⟨conditionFits, branchesFit⟩ := Nat.max_le.mp fits
      obtain ⟨thenFits, elseFits⟩ := Nat.max_le.mp branchesFit
      have room := ExprPhrase.two_le_of_fits conditionFits
      have conditionBound := ExprPhrase.height_le_inside conditionFound conditionFits
      have thenBound := ihThen (depth + 1) (free - 1) thenTree thenFound (by omega)
      have elseBound := ihElse (depth + 1) (free - 1) elseTree elseFound (by omega)
      have short := tallest_body_lt room
      simp only [StmtPart.height, StmtPart.tallest, Stmt.height] at *
      omega
  | whileLoop _ condition inner ih =>
      intro depth free tree found fits
      simp only [tree?, Option.bind_eq_some_iff, Option.map_eq_some_iff] at found
      obtain ⟨conditionTree, conditionFound, innerTree, innerFound, rfl⟩ := found
      obtain ⟨conditionFits, innerFits⟩ := Nat.max_le.mp fits
      have room := ExprPhrase.two_le_of_fits conditionFits
      have conditionBound := ExprPhrase.height_le_inside conditionFound conditionFits
      have innerBound := ih (depth + 1) (free - 1) innerTree innerFound (by omega)
      have short := tallest_body_lt room
      simp only [StmtPart.height, StmtPart.tallest, Stmt.height] at *
      omega
  | forLoop _ _ init _ condition _ increment _ inner ihInit ihIncrement ih =>
      intro depth free tree found fits
      simp only [tree?, Option.bind_eq_some_iff, Option.map_eq_some_iff] at found
      obtain ⟨initTree, initFound, conditionTree, conditionFound, incrementTree, incrementFound,
        innerTree, innerFound, rfl⟩ := found
      obtain ⟨initFits, othersFit⟩ := Nat.max_le.mp fits
      obtain ⟨conditionFits, lastFit⟩ := Nat.max_le.mp othersFit
      obtain ⟨incrementFits, innerFits⟩ := Nat.max_le.mp lastFit
      have room := ExprPhrase.two_le_of_fits conditionFits
      have initBound := ihInit (depth + 1) (free - 1) initTree initFound (by omega)
      have conditionBound := ExprPhrase.height_le_inside conditionFound conditionFits
      have incrementBound :=
        ihIncrement (depth + 1) (free - 1) incrementTree incrementFound (by omega)
      have innerBound := ih (depth + 1) (free - 1) innerTree innerFound (by omega)
      have short := tallest_body_lt room
      simp only [StmtPart.height, StmtPart.tallest, Stmt.height] at *
      omega
  | block _ inner _ ih =>
      intro depth free tree found fits
      obtain ⟨trees, treesFound, rfl⟩ := Option.map_eq_some_iff.mp found
      exact Nat.succ_le_succ (ih depth free trees treesFound fits)
  | single inner ih =>
      intro depth free tree found fits
      exact Nat.le_succ_of_le (ih depth free tree found fits)
  | none =>
      intro depth free tree found _
      cases found
      exact Nat.zero_le _
  | more first others ihFirst ihOthers =>
      intro depth free tree found fits
      simp only [tree?, Option.bind_eq_some_iff, Option.map_eq_some_iff] at found
      obtain ⟨firstTree, firstFound, otherTrees, othersFound, rfl⟩ := found
      obtain ⟨firstFits, othersFit⟩ := Nat.max_le.mp fits
      exact Nat.max_le.mpr ⟨ihFirst depth free firstTree firstFound firstFits,
        ihOthers depth free otherTrees othersFound othersFit⟩

end StmtPhrase

end Grammar

end Kiss
