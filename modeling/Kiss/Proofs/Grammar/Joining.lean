import Kiss.Proofs.Grammar.Acceptance
import Kiss.Proofs.Grammar.Recast
import Kiss.Proofs.Lexical.Newline

/-!
# Joining programs

A derivation does not hang on where its tokens stand: if every token is moved, the derivation
can be moved with them and keeps its tree and its levels (`Recasting.moving`). And the statements
of a program may stand behind those of another, with no level carried over
(`StmtPhrase.append`). So a program is read behind another one as it is read by itself.
-/

namespace Kiss.Grammar

/-- Tokens at other places. -/
def Recasting.moving (place : Position → Position) : Recasting :=
  ⟨Token.move place, fun _ => rfl⟩

theorem Recasting.moving_keepsValues (place : Position → Position) :
    (moving place).KeepsValues :=
  fun _ => rfl

namespace StmtPhrase

/-- The statements of a program and behind them those of another. -/
def append : Program → Program → Program
  | .none, others => others
  | .more first rest, others => .more first (rest.append others)

theorem tokens_append : ∀ program others : Program,
    (program.append others).tokens = program.tokens ++ others.tokens
  | .none, others => by rw [append, tokens, List.nil_append]
  | .more first rest, others => by
      rw [append, tokens, tokens, tokens_append rest others, List.append_assoc]

theorem tree?_append : ∀ program others : Program,
    (program.append others).tree? =
      program.tree?.bind fun trees => others.tree?.map (trees ++ ·)
  | .none, others => by simp [append, tree?]
  | .more first rest, others => by
      rw [append, tree?, tree?, tree?_append rest others]
      cases first.tree? <;> cases rest.tree? <;> cases others.tree? <;> rfl

/-- The program behind another one begins at the level where that one began. -/
theorem reach_append (depth : Nat) : ∀ program others : Program,
    (program.append others).reach depth = max (program.reach depth) (others.reach depth)
  | .none, others => by rw [append, reach, Nat.max_eq_right (others.le_reach depth)]
  | .more first rest, others => by
      rw [append, reach, reach, reach_append depth rest others, Nat.max_assoc]

end StmtPhrase

theorem body_map (place : Position → Position) (ts : List Token) :
    body (ts.map (Token.move place)) = (body ts).map (Token.move place) :=
  List.takeWhile_map

/-- Tokens that are accepted have a derivation whose levels are not too deep. -/
theorem exists_fitting_of_parse {ts : List Token} {tree : Stmt} (accepted : parse ts = .ok tree) :
    ∃ (program : Program) (trees : List Stmt), program.tokens = body ts ∧
      program.tree? = some trees ∧ tree = .block trees ∧ program.reach 0 ≤ maxDepth := by
  obtain ⟨program, same, found⟩ := exists_program_of_parse accepted
  obtain ⟨trees, treesFound, rfl⟩ := Option.map_eq_some_iff.mp found
  rcases parse_of_program same found with ⟨fits, _⟩ | ⟨_, t, refused⟩
  · exact ⟨program, trees, same, treesFound, rfl, fits⟩
  · rw [accepted] at refused
    cases refused

/-- The statements of two programs are read one behind the other, wherever the second one is moved
    to. Every program is a block. -/
theorem parse_append (place : Position → Position) {first others : List Token} {p : Position}
    {tree otherTree : Stmt} (noEnd : ∀ t ∈ first, t.kind ≠ .endOfInput)
    (accepted : parse (first ++ [.endOfInput p]) = .ok tree)
    (otherAccepted : parse others = .ok otherTree) :
    ∃ trees otherTrees, tree = .block trees ∧ otherTree = .block otherTrees ∧
      parse (first ++ others.map (Token.move place)) = .ok (.block (trees ++ otherTrees)) := by
  obtain ⟨program, trees, same, found, rfl, fits⟩ := exists_fitting_of_parse accepted
  obtain ⟨other, otherTrees, otherSame, otherFound, rfl, otherFits⟩ :=
    exists_fitting_of_parse otherAccepted
  refine ⟨trees, otherTrees, rfl, rfl, ?_⟩
  let joined := program.append (other.recast (.moving place))
  have firstBody : body (first ++ [Token.endOfInput p]) = first := by
    rw [body_append noEnd, body_eq_nil rfl, List.append_nil]
  have tokens : joined.tokens = body (first ++ others.map (Token.move place)) := by
    rw [StmtPhrase.tokens_append, StmtPhrase.tokens_recast, same, otherSame, firstBody,
      body_append noEnd, body_map]
    rfl
  have joinedFound : blockTree? joined = some (.block (trees ++ otherTrees)) := by
    rw [blockTree?, StmtPhrase.tree?_append,
      StmtPhrase.tree?_recast (Recasting.moving_keepsValues place), found, otherFound]
    rfl
  have joinedFits : joined.reach 0 ≤ maxDepth := by
    rw [StmtPhrase.reach_append, StmtPhrase.reach_recast]
    exact Nat.max_le.mpr ⟨fits, otherFits⟩
  rcases parse_of_program tokens joinedFound with ⟨_, joinedAccepted⟩ | ⟨beyond, _⟩
  · exact joinedAccepted
  · exact absurd joinedFits beyond

end Kiss.Grammar
