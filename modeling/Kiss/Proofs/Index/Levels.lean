import Kiss.Proofs.Calls.Leaking
import Kiss.Proofs.Index.Ending

/-!
# Levels that stay counted, by index

The tokens that are left say where a parser stands among its tokens, but not how often it has read
the end of the input behind them. The index does, and for it the same holds: levels that are counted
besides change the place at which a call ends only where they make the depth an error.
-/

namespace Kiss.Indexed

variable {p q r : IndexedParser}

/-- The depth makes no difference to where the next end of the input is. -/
theorem barrier_levels (p : IndexedParser) (depth : Nat) :
    IndexedParser.barrier { p with depth } = p.barrier :=
  IndexedParser.barrier_eq rfl (Nat.le_refl _) p.index_le_barrier

theorem reaches_levels {depth : Nat} (reaches : IndexedParser.Reaches { p with depth } 0 q) :
    p.Reaches 0 q where
  tokens := reaches.tokens
  forward := reaches.forward
  within := barrier_levels p depth ▸ reaches.within

/-- A program that is read ends behind all places that a failing call can come to. -/
theorem EndsAt.index_le {result : Except ParseError Stmt} (ends : EndsAt p (result, r))
    (reaches : p.Reaches 0 q) (left : r.view.rest <:+ q.view.rest) : q.index ≤ r.index := by
  cases result with
  | ok tree =>
      rw [ends.2]
      exact Nat.le_succ_of_le reaches.within
  | error e => exact reaches.index_le ends left

/-- Levels that are counted besides can turn what a call gives into an error of the depth, but never
    into another tree or another error. From every parser, with levels counted besides and without
    them, a call comes to a result with the index at some place: a tree is the same and so is the
    index, an error that is none of the depth is the same and so is the index, and where the depth
    was an error the call without these levels ends no earlier. -/
theorem program_of_levels (p : IndexedParser) (levels : Nat) :
    ∃ deeper result q r,
      ComesTo (fun calls => program calls []) { p with depth := p.depth + levels } (deeper, q) ∧
        ComesTo (fun calls => program calls []) p (result, r) ∧
        match deeper with
        | .ok tree => result = .ok tree ∧ r.index = q.index
        | .error e =>
            if e.cause = .tooDeep then q.index ≤ r.index
            else result = .error e ∧ r.index = q.index := by
  let deep : IndexedParser := { p with depth := p.depth + levels }
  obtain ⟨q, view, ends, comes⟩ := program_ends deep
  obtain ⟨r, otherView, otherEnds, otherComes⟩ := program_ends p
  refine ⟨deep.view.parse.1, p.view.parse.1, q, r, comes, otherComes, ?_⟩
  have shallower : p.view.Shallower deep.view := ⟨rfl, rfl, Nat.le_add_right ..⟩
  have step := shallower.parse
  cases called : deep.view.parse with
  | mk deeper next =>
      rw [called] at step view ends
      cases deeper with
      | ok tree =>
          have barrier : deep.barrier = p.barrier := barrier_levels p _
          rw [step] at otherEnds ⊢
          exact ⟨rfl, by rw [otherEnds.2, ends.2, barrier]⟩
      | error e =>
          have reaches : p.Reaches 0 q := reaches_levels ends
          dsimp only at step view ⊢
          split at step
          · rw [if_pos ‹_›]
            exact otherEnds.index_le reaches (by rwa [otherView, view])
          · rw [if_neg ‹_›]
            obtain ⟨same, still⟩ := step
            rw [same] at otherEnds
            have rest : r.view.rest = q.view.rest := by rw [otherView, view, still.rest]
            refine ⟨same, Nat.le_antisymm ?_ ?_⟩
            · exact IndexedParser.Reaches.index_le otherEnds reaches (by rw [rest])
            · exact reaches.index_le otherEnds (by rw [rest])

end Kiss.Indexed
