import Kiss.Proofs.Calls.Sequence
import Kiss.Proofs.Depth.Loosening

/-!
# Levels that stay counted

Failures of earlier calls leave levels counted that no call will take off again. They can turn what
a call gives into an error of the depth, and do nothing else: a parser with fewer levels counted
gives the same tree or the same error, and stops at the same place, as long as the other one gives
no error of the depth; and if it does, the parser with fewer levels stops no earlier. A parser in
which no level is free any more never gives anything but that error.
-/

namespace Kiss.Parser

/-- A parser of the same tokens with the same of them left, and with no more levels counted. -/
structure Shallower (q p : Parser) : Prop where
  rest : q.rest = p.rest
  sentinel : q.sentinel = p.sentinel
  depth : q.depth ≤ p.depth

variable {p q : Parser}

/-- One call. -/
theorem Shallower.parse (shallower : q.Shallower p) :
    match p.parse with
    | (.ok tree, next) => q.parse = (.ok tree, { next with depth := q.depth })
    | (.error e, next) =>
        if e.cause = .tooDeep then q.parse.2.rest <:+ next.rest
        else q.parse.1 = .error e ∧ q.parse.2.Shallower next := by
  have loosens := Grammar.program_loosens shallower.depth [] p.rest
  rw [Parser.parse, Parser.parse, shallower.rest]
  cases result : program p.depth [] p.rest with
  | ok tree rest =>
      rw [result] at loosens
      rw [loosens]
      simp only [shallower.sentinel]
  | fail fault rest reached =>
      rw [result] at loosens
      simp only [Outcome.LoosensTo] at loosens ⊢
      split at loosens
      · rw [if_pos ‹_›]
        cases other : program q.depth [] p.rest <;> rw [other] at loosens <;> exact loosens
      · rw [if_neg ‹_›]
        obtain ⟨lower, le, same⟩ := loosens
        rw [same]
        exact ⟨by simp only [shallower.sentinel], rfl, shallower.sentinel, le⟩

/-- Behind any call that gave no error of the depth the two parsers are as they were. -/
theorem Shallower.next (shallower : q.Shallower p)
    (fits : ∀ token, p.parse.1 ≠ .error ⟨.tooDeep, token⟩) :
    q.parse.1 = p.parse.1 ∧ q.parse.2.Shallower p.parse.2 := by
  have step := shallower.parse
  split at step
  · rename_i tree next called
    have depth := p.parse_depth
    rw [called] at depth
    rw [called, step]
    exact ⟨rfl, rfl, rfl, shallower.depth.trans depth.ge⟩
  · rename_i e next called
    rw [called]
    split at step
    · rename_i deep
      obtain ⟨_, token⟩ := e
      cases deep
      rw [called] at fits
      exact absurd rfl (fits token)
    · exact step

/-- As long as the parser with more levels counted gives no error of the depth, the two give the
    same from call to call. -/
theorem Shallower.after (shallower : q.Shallower p) {calls : Nat}
    (fits : ∀ call < calls, ∀ token, p.result call ≠ .error ⟨.tooDeep, token⟩) :
    (q.after calls).Shallower (p.after calls) ∧
      ∀ call < calls, q.result call = p.result call := by
  induction calls with
  | zero => exact ⟨shallower, fun _ impossible => absurd impossible (Nat.not_lt_zero _)⟩
  | succ calls ih =>
      obtain ⟨still, same⟩ := ih fun call before => fits call (Nat.lt_succ_of_lt before)
      obtain ⟨alsoSame, stillToo⟩ := still.next (fits calls (Nat.lt_succ_self calls))
      rw [after_succ, after_succ]
      refine ⟨stillToo, fun call within => ?_⟩
      rcases Nat.lt_succ_iff_lt_or_eq.mp within with before | rfl
      · exact same call before
      · exact alsoSame

section Full

variable (full : ¬p.depth < maxDepth) (noEnd : frontKind p.rest ≠ .endOfInput)

include full noEnd

/-- Where no level is free not even a statement can be entered, and one level more is counted. -/
theorem parse_of_full :
    p.parse = (.error ⟨.tooDeep, p.rest.headD p.sentinel⟩, { p with depth := p.depth + 1 }) := by
  rw [parse, Grammar.program_of_ne p.depth [] noEnd, Grammar.statement_eq, if_neg full]
  rfl

/-- Whatever is counted besides, the same holds. -/
theorem parse_of_fuller (levels : Nat) :
    { p with depth := p.depth + levels }.parse =
      (.error ⟨.tooDeep, p.rest.headD p.sentinel⟩, { p with depth := p.depth + levels + 1 }) :=
  parse_of_full (p := { p with depth := p.depth + levels })
    (fun less => full (Nat.lt_of_le_of_lt (Nat.le_add_right _ _) less)) noEnd

/-- No token is taken by such a call, so from then on all calls are the same. -/
theorem after_of_full (calls : Nat) : p.after calls = { p with depth := p.depth + calls } := by
  induction calls with
  | zero => rfl
  | succ calls ih =>
      rw [after_succ, ih, parse_of_fuller full noEnd]
      rfl

theorem result_of_full (calls : Nat) :
    p.result calls = .error ⟨.tooDeep, p.rest.headD p.sentinel⟩ := by
  rw [result, after_of_full full noEnd, parse_of_fuller full noEnd]

end Full

/-- Levels that are counted besides can turn what a call gives into an error of the depth, but never
    into another tree or another error: without them a tree is the same and the call ends at the
    same place, an error that is none of the depth is the same and stands where it stood, and where
    the depth was an error the call ends no earlier. -/
theorem parse_of_levels (p : Parser) (levels : Nat) :
    match { p with depth := p.depth + levels }.parse with
    | (.ok tree, next) => p.parse.1 = .ok tree ∧ p.parse.2.rest = next.rest
    | (.error e, next) =>
        if e.cause = .tooDeep then p.parse.2.rest <:+ next.rest
        else p.parse.1 = .error e ∧ p.parse.2.rest = next.rest := by
  have shallower : p.Shallower { p with depth := p.depth + levels } :=
    ⟨rfl, rfl, Nat.le_add_right p.depth levels⟩
  have step := shallower.parse
  split at step
  · rw [step]
    exact ⟨rfl, rfl⟩
  · split at step
    · exact (if_pos ‹_›).mpr step
    · exact (if_neg ‹_›).mpr ⟨step.1, step.2.rest⟩

end Kiss.Parser
