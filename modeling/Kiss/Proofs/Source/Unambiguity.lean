import Kiss.Proofs.Source.StmtText

/-!
# The rendered program determines the tree

Two source texts whose trees look alike have the same tree. The text falls apart into lines, since
no line has a newline in it, and these determine the statement. What keeps its parts apart is what
the tokens can be: a name is no keyword, and a number has digits and no sign.
-/

namespace Kiss

open Text (IsLine)

namespace Stmt

variable {s : Stmt}

theorem isLine_indented (level : Nat) {content : String} (isLine : IsLine content) :
    IsLine (indented level content) := by
  refine IsLine.append ?_ isLine
  simp [IsLine, String.toList_ofList]

theorem isLine_lead (spelled : s.IsSpelled Number.IsMagnitude) : IsLine s.lead := by
  have between : IsLine " = " := by decide
  cases s with
  | print value =>
      have word : IsLine "print " := by decide
      exact word.append (isSpelled_print.mp spelled).isLine_render
  | assign name value =>
      obtain ⟨isName, ofValue⟩ := isSpelled_assign.mp spelled
      exact (isName.isLine.append between).append ofValue.isLine_render
  | assignField object field value =>
      obtain ⟨⟨isObject, isField⟩, ofValue⟩ := isSpelled_assignField.mp spelled
      have point : IsLine "." := by decide
      have target := (isObject.isLine.append point).append isField.isLine
      exact (target.append between).append ofValue.isLine_render
  | block => exact (by decide : IsLine "\x7b")
  | branch condition _ _ =>
      have word : IsLine "if " := by decide
      exact word.append (isSpelled_branch.mp spelled).1.isLine_render
  | whileLoop condition _ =>
      have word : IsLine "while " := by decide
      exact word.append (isSpelled_whileLoop.mp spelled).1.isLine_render
  | forLoop => exact (by decide : IsLine "for")

/-- No line of a statement has a newline in it, and none of several statements. -/
theorem areLines_all :
    (∀ level (s : Stmt), s.IsSpelled Number.IsMagnitude →
      ∀ line ∈ s.lines level, IsLine line) ∧
    (∀ level (statements : List Stmt), (∀ s ∈ statements, s.IsSpelled Number.IsMagnitude) →
      ∀ line ∈ linesOfAll level statements, IsLine line) := by
  apply lines.mutual_induct
  case case1 =>
    intro level value spelled
    have first := isLine_indented level (isLine_lead spelled)
    rw [lines]
    exact List.forall_mem_singleton.mpr first
  case case2 =>
    intro level name value spelled
    have first := isLine_indented level (isLine_lead spelled)
    rw [lines]
    exact List.forall_mem_singleton.mpr first
  case case3 =>
    intro level object field value spelled
    have first := isLine_indented level (isLine_lead spelled)
    rw [lines]
    exact List.forall_mem_singleton.mpr first
  case case4 =>
    intro level statements ofAll spelled
    have first := isLine_indented level (isLine_lead spelled)
    have last := isLine_indented level (by decide : IsLine "\x7d")
    rw [lines]
    exact List.forall_mem_append.mpr
      ⟨List.forall_mem_cons.mpr ⟨first, ofAll (isSpelled_block.mp spelled)⟩,
        List.forall_mem_singleton.mpr last⟩
  case case5 =>
    intro level condition thenBranch ofThen spelled
    have first := isLine_indented level (isLine_lead spelled)
    rw [lines]
    exact List.forall_mem_cons.mpr ⟨first, ofThen (isSpelled_branch.mp spelled).2.1⟩
  case case6 =>
    intro level condition thenBranch elseBranch ofThen ofElse spelled
    obtain ⟨_, thenSpelled, elseSpelled⟩ := isSpelled_branch.mp spelled
    have first := isLine_indented level (isLine_lead spelled)
    have second := isLine_indented level (by decide : IsLine "else")
    rw [lines]
    exact List.forall_mem_append.mpr
      ⟨List.forall_mem_cons.mpr ⟨first, ofThen thenSpelled⟩,
        List.forall_mem_cons.mpr ⟨second, ofElse (elseSpelled _ rfl)⟩⟩
  case case7 =>
    intro level condition body ofBody spelled
    have first := isLine_indented level (isLine_lead spelled)
    rw [lines]
    exact List.forall_mem_cons.mpr ⟨first, ofBody (isSpelled_whileLoop.mp spelled).2⟩
  case case8 =>
    intro level init condition increment body ofInit ofIncrement ofBody spelled
    obtain ⟨initSpelled, ofCondition, incrementSpelled, bodySpelled⟩ :=
      isSpelled_forLoop.mp spelled
    have mark : IsLine "; " := by decide
    have first := isLine_indented level (isLine_lead spelled)
    have middle := isLine_indented (level + 1) (mark.append ofCondition.isLine_render)
    simp only [lines, List.forall_mem_append, List.forall_mem_cons]
    exact ⟨⟨⟨first, ofInit initSpelled⟩, middle, ofIncrement incrementSpelled⟩,
      ofBody bodySpelled⟩
  case case9 =>
    intro level spelled
    exact List.forall_mem_nil _
  case case10 =>
    intro level first rest ofFirst ofRest spelled
    obtain ⟨firstSpelled, restSpelled⟩ := List.forall_mem_cons.mp spelled
    rw [linesOfAll]
    exact List.forall_mem_append.mpr ⟨ofFirst firstSpelled, ofRest restSpelled⟩

theorem render_eq_ofLines (s : Stmt) : s.render = Text.ofLines (s.lines 0) := rfl

/-- Statements that are written alike are the same. -/
theorem render_inj {t : Stmt} (spelled : s.IsSpelled Number.IsMagnitude)
    (otherSpelled : t.IsSpelled Number.IsMagnitude) (same : s.render = t.render) : s = t := by
  have ends : NoElse 0 [] := by simp [NoElse]
  rw [render_eq_ofLines, render_eq_ofLines] at same
  have lines := Text.ofLines_inj (areLines_all.1 0 s spelled) (areLines_all.1 0 t otherSpelled) same
  exact (isTold 0 s t [] [] spelled otherSpelled ends ends (by rw [lines])).1

end Stmt

variable {source other : String} {tree otherTree : Stmt}

/-- The rendered program determines the tree. Two source texts that hold programs whose number
    literals are all finite hold the same program if these are written alike. -/
theorem tree_eq_of_render_eq (read : readProgram source = .ok tree)
    (otherRead : readProgram other = .ok otherTree)
    (finite : ∀ x, (Expr.number x).OccursIn tree → Number.IsFinite x)
    (otherFinite : ∀ x, (Expr.number x).OccursIn otherTree → Number.IsFinite x)
    (same : tree.render = otherTree.render) : tree = otherTree := by
  have spelled : tree.IsSpelled Number.IsMagnitude :=
    (isSpelled_of_readProgram read).mono fun x occurs unsigned =>
      (finite x occurs).isMagnitude unsigned
  have otherSpelled : otherTree.IsSpelled Number.IsMagnitude :=
    (isSpelled_of_readProgram otherRead).mono fun x occurs unsigned =>
      (otherFinite x occurs).isMagnitude unsigned
  exact Stmt.render_inj spelled otherSpelled same

/-- Whether an expression is no number that is infinite or NaN. -/
def Expr.isFiniteLiteral : Expr → Bool
  | .number x => decide (Number.IsFinite x)
  | _ => true

/-- Whether a source text holds a program with finite numbers only that is written as given. -/
def isWrittenAs (source text : String) : Bool :=
  (readProgram source).toOption.any fun tree =>
    tree.render = text ∧ tree.exprs.all (fun e => e.parts.all Expr.isFiniteLiteral)

theorem exists_program_of_isWrittenAs {text : String} (written : isWrittenAs source text = true) :
    ∃ tree, readProgram source = .ok tree ∧ tree.render = text ∧
      ∀ x, (Expr.number x).OccursIn tree → Number.IsFinite x := by
  rw [isWrittenAs] at written
  cases read : readProgram source with
  | error failure => simp [read, Except.toOption] at written
  | ok tree =>
      rw [read] at written
      obtain ⟨shown, all⟩ := of_decide_eq_true written
      refine ⟨tree, rfl, shown, fun x occurs => ?_⟩
      obtain ⟨whole, stands, inside⟩ := occurs
      have literal := List.all_eq_true.mp (List.all_eq_true.mp all whole stands) _ inside
      exact of_decide_eq_true literal

/-- Nested branches with one `else`, a block and a field, in two layouts. -/
theorem tree_eq_of_render_eq_branches :
    ∃ tree otherTree,
      readProgram "if a if !b \x7b\x7d else x.y = #2 / 1.5" = .ok tree ∧
      readProgram "if (a)\nif (!b) \x7b \x7d else x.y = (2.0 / 01.50)" = .ok otherTree ∧
      tree.render = otherTree.render ∧ tree = otherTree := by
  let text := "\x7b\n  if a\n    if !b\n      \x7b\n      \x7d\n" ++
    "    else\n      x.y = (2 / 1.5)\n\x7d\n"
  have written : isWrittenAs "if a if !b \x7b\x7d else x.y = #2 / 1.5" text = true := by
    decide +kernel
  have otherWritten :
      isWrittenAs "if (a)\nif (!b) \x7b \x7d else x.y = (2.0 / 01.50)" text = true := by
    decide +kernel
  obtain ⟨tree, read, shown, finite⟩ := exists_program_of_isWrittenAs written
  obtain ⟨otherTree, otherRead, otherShown, otherFinite⟩ :=
    exists_program_of_isWrittenAs otherWritten
  have same : tree.render = otherTree.render := shown.trans otherShown.symm
  exact ⟨tree, otherTree, read, otherRead, same,
    tree_eq_of_render_eq read otherRead finite otherFinite same⟩

end Kiss
