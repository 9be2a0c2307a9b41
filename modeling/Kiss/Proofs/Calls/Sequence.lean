import Kiss.Proofs.Depth.Counting
import Mathlib.Logic.Function.Iterate

/-!
# One call after another

A parser can be asked for a program again, whether it gave one the time before or not. A call that
reads a program leaves the counter where it was. One that fails leaves no level uncounted that was
counted before it, so what it leaves behind stays counted in all calls to come; but it adds at most
one level to what is above the limit.
-/

namespace Kiss

namespace Parser

/-- The parser behind so many calls. -/
def after (p : Parser) (calls : Nat) : Parser :=
  (fun p => p.parse.2)^[calls] p

/-- What the call behind so many others gives. -/
def result (p : Parser) (calls : Nat) : Except ParseError Stmt :=
  (p.after calls).parse.1

variable (p : Parser)

/-- The last call is made by the parser that the others left. -/
theorem after_succ (calls : Nat) : p.after (calls + 1) = (p.after calls).parse.2 :=
  Function.iterate_succ_apply' _ calls p

/-- The other calls are made by the parser that the first left. -/
theorem after_succ_first (calls : Nat) : p.after (calls + 1) = p.parse.2.after calls :=
  rfl

theorem result_zero : p.result 0 = p.parse.1 :=
  rfl

theorem result_add (calls more : Nat) :
    p.result (calls + more) = (p.after calls).result more := by
  rw [result, result, after, after, after, Nat.add_comm, Function.iterate_add_apply]

@[simp]
theorem parse_sentinel : p.parse.2.sentinel = p.sentinel := by
  rw [parse]
  split <;> rfl

@[simp]
theorem after_sentinel (calls : Nat) : (p.after calls).sentinel = p.sentinel := by
  induction calls with
  | zero => rfl
  | succ calls ih => rw [after_succ, parse_sentinel, ih]

/-- What one call does to the counter. -/
theorem parse_depth :
    match p.parse with
    | (.ok _, next) => next.depth = p.depth
    | (.error _, next) => p.depth ≤ next.depth ∧ next.depth ≤ max (maxDepth + 1) (p.depth + 1) := by
  have charges := Grammar.program_charges p.depth [] p.rest
  rw [parse]
  cases result : program p.depth [] p.rest with
  | ok tree rest => rfl
  | fail fault rest reached => rwa [result] at charges

theorem depth_le_parse : p.depth ≤ p.parse.2.depth := by
  have step := p.parse_depth
  split at step
  · rename_i called
    rw [called, step]
  · rename_i called
    rw [called]
    exact step.1

theorem parse_depth_le : p.parse.2.depth ≤ max maxDepth p.depth + 1 := by
  have step := p.parse_depth
  split at step
  · rename_i next called
    rw [called]
    show next.depth ≤ _
    omega
  · rename_i next called
    rw [called]
    show next.depth ≤ _
    omega

/-- The counter never falls from call to call. -/
theorem depth_le_after (calls : Nat) : p.depth ≤ (p.after calls).depth := by
  induction calls with
  | zero => exact Nat.le_refl _
  | succ calls ih =>
      rw [after_succ]
      exact ih.trans (depth_le_parse _)

/-- It takes one call for each level above the limit. -/
theorem depth_after_le (calls : Nat) : (p.after calls).depth ≤ max maxDepth p.depth + calls := by
  induction calls with
  | zero => exact Nat.le_max_right _ _
  | succ calls ih =>
      have step := (p.after calls).parse_depth_le
      rw [after_succ]
      omega

end Parser

/-- However often a parser of some tokens was called before, reading with a counter comes to what
    the next call comes to, so a level is taken off the counter only where one is counted; and the
    counter is where it was if a program was read, and otherwise no lower than it was and no higher
    than one level above the limit or above where it was. -/
theorem Counted.program_after (ts : List Token) (n : Nat) :
    ComesTo (fun calls => Counted.program calls []) ((Parser.ofTokens ts).after n)
        ((Parser.ofTokens ts).after n).parse ∧
      match ((Parser.ofTokens ts).after n).parse with
      | (.ok _, next) => next.depth = ((Parser.ofTokens ts).after n).depth
      | (.error _, next) =>
          ((Parser.ofTokens ts).after n).depth ≤ next.depth ∧
          next.depth ≤ max 257 (((Parser.ofTokens ts).after n).depth + 1) := by
  refine ⟨program_comesTo_parse ?_, Parser.parse_depth _⟩
  rw [Parser.after_sentinel]
  rfl

end Kiss
