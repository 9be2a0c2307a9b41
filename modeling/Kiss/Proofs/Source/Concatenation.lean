import Kiss.Proofs.Execution.Rounds
import Kiss.Proofs.Grammar.Joining
import Kiss.Syntax.Text

/-!
# Programs compose by concatenation

Statements need no mark between them, so a text could go on with what another text begins: with
a longer operator, with an `else`, with a field of the name at its end. With a newline between
two programs it does not. Every way in which a program can end is closed against every token
with which a program can begin, and no level of nesting is carried over.
-/

namespace Kiss

variable {source other : String} {tree otherTree : Stmt}

theorem readProgram_eq_ok :
    readProgram source = .ok tree ↔ ∃ ts, tokenize source = .ok ts ∧ parse ts = .ok tree := by
  rw [readProgram]
  cases tokenize source with
  | error e => simp
  | ok ts =>
      cases accepted : parse ts with
      | error e => simp [accepted]
      | ok found => simp [accepted]

/-- Programs compose by concatenation. Two source texts that hold programs hold, with a newline
    between them, the program that has the statements of both; and from every machine, whatever its
    sink, it runs as the first program and then, if that is done, the second: so it ends where the
    first fails, or where the second ends on the machine that the first has left. -/
theorem readProgram_newline (read : readProgram source = .ok tree)
    (otherRead : readProgram other = .ok otherTree) :
    ∃ statements others, tree = .block statements ∧ otherTree = .block others ∧
      readProgram (source ++ "\n" ++ other) = .ok (.block (statements ++ others)) ∧
      (∀ (σ : Type) [Sink σ] bound (m : Machine σ), exec bound (.block (statements ++ others)) m =
        (exec bound tree m).andThen (exec bound otherTree)) ∧
      ∀ (σ : Type) [Sink σ] (m : Machine σ) run, (Stmt.block (statements ++ others)).Ends m run ↔
        (tree.Ends m run ∧ ∃ e left, run = .failed e left) ∨
          ∃ between, tree.Ends m (.done between) ∧ otherTree.Ends between run := by
  obtain ⟨ts, tokenized, accepted⟩ := readProgram_eq_ok.mp read
  obtain ⟨otherTs, otherTokenized, otherAccepted⟩ := readProgram_eq_ok.mp otherRead
  obtain ⟨first, p, rfl, noEnd, behind⟩ := Lexical.exists_tokenize_newline tokenized
  have joined := behind other
  rw [otherTokenized] at joined
  obtain ⟨statements, others, rfl, rfl, joinedAccepted⟩ :=
    Grammar.parse_append (.down (1 + source.toList.count '\n')) noEnd accepted otherAccepted
  refine ⟨statements, others, rfl, rfl, readProgram_eq_ok.mpr ⟨_, joined, joinedAccepted⟩, ?_, ?_⟩
  · exact fun _ _ bound m => execAll_append bound statements others m
  · exact fun _ _ m run => Stmt.ends_block_append statements others

theorem exists_program_of_render {text : String}
    (shown : (readProgram source).toOption.map Stmt.render = some text) :
    ∃ tree, readProgram source = .ok tree ∧ tree.render = text := by
  cases read : readProgram source with
  | error failure => simp [read, Except.toOption] at shown
  | ok tree => exact ⟨tree, rfl, by simpa [read, Except.toOption] using shown⟩

/-- A program that ends in an `if` without an `else` and in a comment, and one behind it that
    begins with a name. -/
theorem readProgram_newline_comment :
    ∃ statements others,
      (Stmt.block statements).render = "\x7b\n  if x\n    y = -x.a\n\x7d\n" ∧
      (Stmt.block others).render = "\x7b\n  x.a = y\n\x7d\n" ∧
      readProgram "if x y = -x.a //" = .ok (.block statements) ∧
      readProgram "x.a = y" = .ok (.block others) ∧
      readProgram "if x y = -x.a //\nx.a = y" = .ok (.block (statements ++ others)) := by
  obtain ⟨tree, read, shown⟩ := exists_program_of_render
    (show (readProgram "if x y = -x.a //").toOption.map Stmt.render =
      some "\x7b\n  if x\n    y = -x.a\n\x7d\n" by decide +kernel)
  obtain ⟨otherTree, otherRead, otherShown⟩ := exists_program_of_render
    (show (readProgram "x.a = y").toOption.map Stmt.render =
      some "\x7b\n  x.a = y\n\x7d\n" by decide +kernel)
  obtain ⟨statements, others, rfl, rfl, joined, _⟩ := readProgram_newline read otherRead
  exact ⟨statements, others, shown, otherShown, read, otherRead, joined⟩

end Kiss
