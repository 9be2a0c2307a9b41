import Kiss.Proofs.Source.ExprText

/-!
# The lines of a statement determine the statement

The lines of a statement say where it ends, whatever other lines come behind it, unless the first of
these begins a branch that an `if` in the statement would take. What stands in a statement is
indented more than the statement, so an `else` belongs to the `if` above it with its indentation,
and a block ends at the brace with the indentation of its own.
-/

namespace Kiss

open Lexer (isWordPart)
open Lexical
open Text (takeWhile_append_of_head dropWhile_append_of_head eq_of_append_of_head)

namespace Stmt

variable {level other : Nat} {line content : String}

/-- A line that is not indented. -/
def IsFlush (content : String) : Prop :=
  ∀ c ∈ content.toList.head?, (c == ' ') = false

/-- The level and the content of a line can be told from the line. -/
theorem indented_inj {otherContent : String} (flush : IsFlush content)
    (otherFlush : IsFlush otherContent)
    (same : indented level content = indented other otherContent) :
    level = other ∧ content = otherContent := by
  have blanks (count : Nat) : ∀ c ∈ List.replicate count ' ', (c == ' ') = true := by simp
  have texts := congrArg String.toList same
  simp only [indented, String.toList_append, String.toList_ofList] at texts
  obtain ⟨fronts, contents⟩ :=
    eq_of_append_of_head (blanks _) flush (blanks _) otherFlush texts
  have counts := congrArg List.length fronts
  simp only [List.length_replicate] at counts
  exact ⟨by omega, String.toList_inj.mp contents⟩

/-- The first line of a statement, without its indentation. -/
def lead : Stmt → String
  | .print value => "print " ++ value.render
  | .assign name value => name ++ " = " ++ value.render
  | .assignField object field value => object ++ "." ++ field ++ " = " ++ value.render
  | .block _ => "\x7b"
  | .branch condition _ _ => "if " ++ condition.render
  | .whileLoop condition _ => "while " ++ condition.render
  | .forLoop _ _ _ _ => "for"

theorem exists_lines_eq (level : Nat) (s : Stmt) :
    ∃ more, s.lines level = indented level s.lead :: more := by
  cases s with
  | branch condition thenBranch elseBranch => cases elseBranch <;> exact ⟨_, by rw [lines]; rfl⟩
  | _ => exact ⟨_, by rw [lines]; rfl⟩

/-- The kind of the statement whose first line is given: by the keyword that it begins with, or by
    what comes behind the name. -/
def kindAt (line : List Char) : String :=
  match TokenKind.ofWord (String.ofList (line.takeWhile isWordPart)), line.dropWhile isWordPart with
  | .keyword k, _ => k.lexeme
  | _, ' ' :: _ => "assignment"
  | _, '.' :: _ => "field assignment"
  | _, _ => "block"

variable {s : Stmt} {rest more : List String}

theorem kindAt_keyword (k : Keyword) {behind : List Char}
    (ends : ∀ c ∈ behind.head?, isWordPart c = false) :
    kindAt (k.lexeme.toList ++ behind) = k.lexeme := by
  rw [kindAt, takeWhile_append_of_head (isWord_lexeme k).all ends, String.ofList_toList,
    ofWord_lexeme]

theorem kindAt_blank {name : String} (isName : IsName name) (behind : List Char) :
    kindAt (name.toList ++ ' ' :: behind) = "assignment" := by
  rw [kindAt, takeWhile_append_of_head isName.1.all endsToken_blank.notWordPart,
    dropWhile_append_of_head isName.1.all endsToken_blank.notWordPart, String.ofList_toList,
    ofWord_eq_word isName.2]
  rfl

theorem kindAt_point {name : String} (isName : IsName name) (behind : List Char) :
    kindAt (name.toList ++ '.' :: behind) = "field assignment" := by
  rw [kindAt, takeWhile_append_of_head isName.1.all notWordPart_point,
    dropWhile_append_of_head isName.1.all notWordPart_point, String.ofList_toList,
    ofWord_eq_word isName.2]
  rfl

theorem toList_lead_print (value : Expr) :
    (print value).lead.toList =
      Keyword.printWord.lexeme.toList ++ ' ' :: value.render.toList := by
  simp [lead, Keyword.lexeme]

theorem toList_lead_assign (name : String) (value : Expr) :
    (assign name value).lead.toList =
      name.toList ++ ' ' :: '=' :: ' ' :: value.render.toList := by
  simp [lead]

theorem toList_lead_assignField (object field : String) (value : Expr) :
    (assignField object field value).lead.toList =
      object.toList ++ '.' :: (field.toList ++ ' ' :: '=' :: ' ' :: value.render.toList) := by
  simp [lead]

theorem toList_lead_branch (condition : Expr) (thenBranch : Stmt) (elseBranch : Option Stmt) :
    (branch condition thenBranch elseBranch).lead.toList =
      Keyword.ifWord.lexeme.toList ++ ' ' :: condition.render.toList := by
  simp [lead, Keyword.lexeme]

theorem toList_lead_whileLoop (condition : Expr) (body : Stmt) :
    (whileLoop condition body).lead.toList =
      Keyword.whileWord.lexeme.toList ++ ' ' :: condition.render.toList := by
  simp [lead, Keyword.lexeme]

/-- The first line of a statement tells its kind. -/
theorem kindAt_lead (spelled : s.IsSpelled Number.IsMagnitude) : kindAt s.lead.toList = s.kind := by
  cases s with
  | print value =>
      rw [toList_lead_print, kindAt_keyword .printWord endsToken_blank.notWordPart]
      rfl
  | assign name value =>
      rw [toList_lead_assign, kindAt_blank (isSpelled_assign.mp spelled).1]
      rfl
  | assignField object field value =>
      rw [toList_lead_assignField, kindAt_point (isSpelled_assignField.mp spelled).1.1]
      rfl
  | block statements =>
      change kindAt "\x7b".toList = "block"
      decide
  | branch condition thenBranch elseBranch =>
      rw [toList_lead_branch, kindAt_keyword .ifWord endsToken_blank.notWordPart]
      rfl
  | whileLoop condition body =>
      rw [toList_lead_whileLoop, kindAt_keyword .whileWord endsToken_blank.notWordPart]
      rfl
  | forLoop init condition increment body =>
      change kindAt "for".toList = "for"
      decide

/-- No statement begins as a second branch does. -/
theorem lead_ne_else (spelled : s.IsSpelled Number.IsMagnitude) : s.lead ≠ "else" := by
  intro same
  have kind := kindAt_lead spelled
  rw [same] at kind
  have another : kindAt "else".toList = "else" := by decide
  rw [another] at kind
  cases s <;> exact absurd kind (by simp [Stmt.kind])

theorem isFlush_lead (spelled : s.IsSpelled Number.IsMagnitude) : IsFlush s.lead := by
  have flush {name : String} (isName : IsName name) (behind : List Char) :
      ∀ c ∈ (name.toList ++ behind).head?, (c == ' ') = false := by
    have isWord := isName.1
    obtain ⟨first, others, written⟩ := List.exists_cons_of_ne_nil isWord.ne_nil
    rw [written] at isWord ⊢
    rintro c ⟨⟩
    refine beq_eq_false_iff_ne.mpr ?_
    rintro rfl
    exact absurd isWord.1 (by decide)
  unfold IsFlush
  cases s with
  | print value => simp [lead]
  | assign name value =>
      rw [toList_lead_assign]
      exact flush (isSpelled_assign.mp spelled).1 _
  | assignField object field value =>
      rw [toList_lead_assignField]
      exact flush (isSpelled_assignField.mp spelled).1.1 _
  | block | branch | whileLoop | forLoop => simp [lead]

/-- The first of some lines does not begin a second branch at a level or deeper. -/
def NoElse (level : Nat) (lines : List String) : Prop :=
  ∀ line ∈ lines.head?, ∀ deeper, level ≤ deeper → line ≠ indented deeper "else"

theorem NoElse.deeper (noElse : NoElse level rest) : NoElse (level + 1) rest :=
  fun line first deeper least => noElse line first deeper (by omega)

theorem isFlush_else : IsFlush "else" := by
  simp [IsFlush]

/-- A line with another content begins no second branch. -/
theorem noElse_of_ne (flush : IsFlush content) (noElse : content ≠ "else") (place : Nat) :
    NoElse level (indented place content :: rest) := by
  rintro line ⟨⟩ deeper least same
  exact noElse (indented_inj flush isFlush_else same).2

/-- The line with the condition of a counting loop. -/
theorem isFlush_condition (condition : Expr) : IsFlush ("; " ++ condition.render) := by
  simp [IsFlush]

theorem noElse_condition (condition : Expr) (rest : List String) :
    NoElse level (indented level ("; " ++ condition.render) :: rest) := by
  refine noElse_of_ne (isFlush_condition condition) (fun same => ?_) level
  have texts := congrArg String.toList same
  simp at texts

/-- A second branch of an outer level is none of an inner level. -/
theorem noElse_else (level : Nat) (rest : List String) :
    NoElse (level + 1) (indented level "else" :: rest) := by
  rintro line ⟨⟩ deeper least same
  obtain ⟨rfl, _⟩ := indented_inj isFlush_else isFlush_else same
  omega

theorem noElse_lines (spelled : s.IsSpelled Number.IsMagnitude) (place : Nat) :
    NoElse level (s.lines place ++ rest) := by
  obtain ⟨others, text⟩ := exists_lines_eq place s
  rw [text]
  exact noElse_of_ne (isFlush_lead spelled) (lead_ne_else spelled) place

theorem lead_eq_of_lines {t : Stmt} (spelled : s.IsSpelled Number.IsMagnitude)
    (otherSpelled : t.IsSpelled Number.IsMagnitude)
    (same : s.lines level ++ rest = t.lines level ++ more) : s.lead = t.lead := by
  obtain ⟨lines, text⟩ := exists_lines_eq level s
  obtain ⟨others, otherText⟩ := exists_lines_eq level t
  rw [text, otherText] at same
  exact (indented_inj (isFlush_lead spelled) (isFlush_lead otherSpelled) (List.cons.inj same).1).2

/-- A statement and the place where it ends can be told from its lines. -/
def IsTold (level : Nat) (s : Stmt) : Prop :=
  ∀ (t : Stmt) (rest more : List String), s.IsSpelled Number.IsMagnitude →
    t.IsSpelled Number.IsMagnitude → NoElse level rest → NoElse level more →
    s.lines level ++ rest = t.lines level ++ more → s = t ∧ rest = more

/-- The statements of a block can be told from their lines and the closing brace, which stands at
    an outer level. -/
def AreTold (level : Nat) (statements : List Stmt) : Prop :=
  ∀ (others : List Stmt) (rest more : List String) (outer : Nat), outer < level →
    (∀ s ∈ statements, s.IsSpelled Number.IsMagnitude) →
    (∀ t ∈ others, t.IsSpelled Number.IsMagnitude) →
    linesOfAll level statements ++ indented outer "\x7d" :: rest =
      linesOfAll level others ++ indented outer "\x7d" :: more →
    statements = others ∧ rest = more

section Cases

variable {init increment body thenBranch elseBranch : Stmt} {statements : List Stmt}

/-- Whether two statements are of one kind is seen at their first lines. -/
theorem kind_eq_of_lines {t : Stmt} (spelled : s.IsSpelled Number.IsMagnitude)
    (otherSpelled : t.IsSpelled Number.IsMagnitude)
    (same : s.lines level ++ rest = t.lines level ++ more) : s.kind = t.kind := by
  rw [← kindAt_lead spelled, lead_eq_of_lines spelled otherSpelled same, kindAt_lead otherSpelled]

theorem isTold_print (level : Nat) (value : Expr) : IsTold level (print value) := by
  intro t rest more spelled otherSpelled _ _ same
  cases t with
  | print otherValue =>
      have texts := congrArg String.toList (lead_eq_of_lines spelled otherSpelled same)
      rw [toList_lead_print, toList_lead_print] at texts
      have values := String.toList_inj.mp (List.cons.inj (List.append_cancel_left texts)).2
      rw [Expr.render_inj (isSpelled_print.mp spelled) (isSpelled_print.mp otherSpelled) values]
      exact ⟨rfl, (List.cons.inj same).2⟩
  | _ => exact absurd (kind_eq_of_lines spelled otherSpelled same) (by simp [kind])

theorem isTold_assign (level : Nat) (name : String) (value : Expr) :
    IsTold level (assign name value) := by
  intro t rest more spelled otherSpelled _ _ same
  cases t with
  | assign otherName otherValue =>
      have texts := congrArg String.toList (lead_eq_of_lines spelled otherSpelled same)
      obtain ⟨isName, ofValue⟩ := isSpelled_assign.mp spelled
      obtain ⟨otherIsName, ofOtherValue⟩ := isSpelled_assign.mp otherSpelled
      rw [toList_lead_assign, toList_lead_assign] at texts
      obtain ⟨rfl, behind⟩ := isName.eq_of_append endsToken_blank.notWordPart otherIsName
        endsToken_blank.notWordPart texts
      simp only [List.cons.injEq, true_and] at behind
      rw [Expr.render_inj ofValue ofOtherValue (String.toList_inj.mp behind)]
      exact ⟨rfl, (List.cons.inj same).2⟩
  | _ => exact absurd (kind_eq_of_lines spelled otherSpelled same) (by simp [kind])

theorem isTold_assignField (level : Nat) (object field : String) (value : Expr) :
    IsTold level (assignField object field value) := by
  intro t rest more spelled otherSpelled _ _ same
  cases t with
  | assignField otherObject otherField otherValue =>
      have texts := congrArg String.toList (lead_eq_of_lines spelled otherSpelled same)
      obtain ⟨⟨isObject, isField⟩, ofValue⟩ := isSpelled_assignField.mp spelled
      obtain ⟨⟨otherIsObject, otherIsField⟩, ofOtherValue⟩ := isSpelled_assignField.mp otherSpelled
      rw [toList_lead_assignField, toList_lead_assignField] at texts
      obtain ⟨rfl, fields⟩ := isObject.eq_of_append notWordPart_point otherIsObject
        notWordPart_point texts
      obtain ⟨rfl, behind⟩ := isField.eq_of_append endsToken_blank.notWordPart otherIsField
        endsToken_blank.notWordPart (List.cons.inj fields).2
      simp only [List.cons.injEq, true_and] at behind
      rw [Expr.render_inj ofValue ofOtherValue (String.toList_inj.mp behind)]
      exact ⟨rfl, (List.cons.inj same).2⟩
  | _ => exact absurd (kind_eq_of_lines spelled otherSpelled same) (by simp [kind])

theorem isTold_block (inner : AreTold (level + 1) statements) :
    IsTold level (block statements) := by
  intro t rest more spelled otherSpelled _ _ same
  cases t with
  | block others =>
      simp only [lines, List.cons_append, List.append_assoc, List.nil_append] at same
      obtain ⟨rfl, behind⟩ := inner others rest more level (Nat.lt_succ_self level)
        (isSpelled_block.mp spelled) (isSpelled_block.mp otherSpelled) (List.cons.inj same).2
      exact ⟨rfl, behind⟩
  | _ => exact absurd (kind_eq_of_lines spelled otherSpelled same) (by simp [kind])

theorem condition_eq_of_branch {condition otherCondition : Expr} {otherThen : Stmt}
    {elseBranch otherElse : Option Stmt}
    (spelled : (branch condition thenBranch elseBranch).IsSpelled Number.IsMagnitude)
    (otherSpelled : (branch otherCondition otherThen otherElse).IsSpelled Number.IsMagnitude)
    (same : (branch condition thenBranch elseBranch).lines level ++ rest =
      (branch otherCondition otherThen otherElse).lines level ++ more) :
    condition = otherCondition := by
  have texts := congrArg String.toList (lead_eq_of_lines spelled otherSpelled same)
  rw [toList_lead_branch, toList_lead_branch] at texts
  exact Expr.render_inj (isSpelled_branch.mp spelled).1 (isSpelled_branch.mp otherSpelled).1
    (String.toList_inj.mp (List.cons.inj (List.append_cancel_left texts)).2)

/-- An `if` without an `else` is told from one with it by what comes behind its branch. -/
theorem isTold_branch_none (condition : Expr) (ofThen : IsTold (level + 1) thenBranch) :
    IsTold level (branch condition thenBranch none) := by
  intro t rest more spelled otherSpelled ends otherEnds same
  cases t with
  | branch otherCondition otherThen otherElse =>
      obtain rfl := condition_eq_of_branch spelled otherSpelled same
      have thenSpelled := (isSpelled_branch.mp spelled).2.1
      have otherThenSpelled := (isSpelled_branch.mp otherSpelled).2.1
      cases otherElse with
      | none =>
          simp only [lines, List.cons_append] at same
          obtain ⟨rfl, behind⟩ := ofThen otherThen rest more thenSpelled otherThenSpelled
            ends.deeper otherEnds.deeper (List.cons.inj same).2
          exact ⟨rfl, behind⟩
      | some otherElse =>
          simp only [lines, List.cons_append, List.append_assoc] at same
          -- the branches end at the same line, and so the `else` would come behind the statement
          obtain ⟨_, behind⟩ := ofThen otherThen rest _ thenSpelled otherThenSpelled
            ends.deeper (noElse_else level _) (List.cons.inj same).2
          subst behind
          exact absurd rfl (ends _ rfl level (Nat.le_refl level))
  | _ => exact absurd (kind_eq_of_lines spelled otherSpelled same) (by simp [kind])

theorem isTold_branch_some (condition : Expr) (ofThen : IsTold (level + 1) thenBranch)
    (ofElse : IsTold (level + 1) elseBranch) :
    IsTold level (branch condition thenBranch (some elseBranch)) := by
  intro t rest more spelled otherSpelled ends otherEnds same
  cases t with
  | branch otherCondition otherThen otherElse =>
      obtain rfl := condition_eq_of_branch spelled otherSpelled same
      obtain ⟨_, thenSpelled, elseSpelled⟩ := isSpelled_branch.mp spelled
      obtain ⟨_, otherThenSpelled, otherElseSpelled⟩ := isSpelled_branch.mp otherSpelled
      cases otherElse with
      | none =>
          simp only [lines, List.cons_append, List.append_assoc] at same
          obtain ⟨_, behind⟩ := ofThen otherThen _ more thenSpelled otherThenSpelled
            (noElse_else level _) otherEnds.deeper (List.cons.inj same).2
          subst behind
          exact absurd rfl (otherEnds _ rfl level (Nat.le_refl level))
      | some otherElse =>
          simp only [lines, List.cons_append, List.append_assoc] at same
          obtain ⟨rfl, behind⟩ := ofThen otherThen _ _ thenSpelled otherThenSpelled
            (noElse_else level _) (noElse_else level _) (List.cons.inj same).2
          obtain ⟨rfl, rfl⟩ := ofElse otherElse rest more (elseSpelled _ rfl)
            (otherElseSpelled _ rfl) ends.deeper otherEnds.deeper (List.cons.inj behind).2
          exact ⟨rfl, rfl⟩
  | _ => exact absurd (kind_eq_of_lines spelled otherSpelled same) (by simp [kind])

theorem isTold_whileLoop (condition : Expr) (ofBody : IsTold (level + 1) body) :
    IsTold level (whileLoop condition body) := by
  intro t rest more spelled otherSpelled ends otherEnds same
  cases t with
  | whileLoop otherCondition otherBody =>
      have texts := congrArg String.toList (lead_eq_of_lines spelled otherSpelled same)
      obtain ⟨ofCondition, bodySpelled⟩ := isSpelled_whileLoop.mp spelled
      obtain ⟨ofOtherCondition, otherBodySpelled⟩ := isSpelled_whileLoop.mp otherSpelled
      rw [toList_lead_whileLoop, toList_lead_whileLoop] at texts
      have conditions := String.toList_inj.mp (List.cons.inj (List.append_cancel_left texts)).2
      obtain rfl := Expr.render_inj ofCondition ofOtherCondition conditions
      simp only [lines, List.cons_append] at same
      obtain ⟨rfl, behind⟩ := ofBody otherBody rest more bodySpelled otherBodySpelled
        ends.deeper otherEnds.deeper (List.cons.inj same).2
      exact ⟨rfl, behind⟩
  | _ => exact absurd (kind_eq_of_lines spelled otherSpelled same) (by simp [kind])

theorem isTold_forLoop (condition : Expr) (ofInit : IsTold (level + 1) init)
    (ofIncrement : IsTold (level + 1) increment) (ofBody : IsTold (level + 1) body) :
    IsTold level (forLoop init condition increment body) := by
  intro t rest more spelled otherSpelled ends otherEnds same
  cases t with
  | forLoop otherInit otherCondition otherIncrement otherBody =>
      obtain ⟨initSpelled, ofCondition, incrementSpelled, bodySpelled⟩ :=
        isSpelled_forLoop.mp spelled
      obtain ⟨otherInitSpelled, ofOtherCondition, otherIncrementSpelled, otherBodySpelled⟩ :=
        isSpelled_forLoop.mp otherSpelled
      simp only [lines, List.cons_append, List.append_assoc] at same
      obtain ⟨rfl, behindInit⟩ := ofInit otherInit _ _ initSpelled otherInitSpelled
        (noElse_condition condition _) (noElse_condition otherCondition _) (List.cons.inj same).2
      obtain ⟨conditionLines, behindCondition⟩ := List.cons.inj behindInit
      obtain ⟨_, conditions⟩ := indented_inj (isFlush_condition condition)
        (isFlush_condition otherCondition) conditionLines
      obtain rfl := Expr.render_inj ofCondition ofOtherCondition
        ((String.append_right_inj _).mp conditions)
      obtain ⟨rfl, behindIncrement⟩ := ofIncrement otherIncrement _ _ incrementSpelled
        otherIncrementSpelled (noElse_lines bodySpelled _) (noElse_lines otherBodySpelled _)
        behindCondition
      obtain ⟨rfl, behind⟩ := ofBody otherBody rest more bodySpelled otherBodySpelled
        ends.deeper otherEnds.deeper behindIncrement
      exact ⟨rfl, behind⟩
  | _ => exact absurd (kind_eq_of_lines spelled otherSpelled same) (by simp [kind])

end Cases

/-- Behind the statements of a block comes another statement or the closing brace. -/
theorem noElse_linesOfAll {outer : Nat} {statements : List Stmt}
    (spelled : ∀ s ∈ statements, s.IsSpelled Number.IsMagnitude) :
    NoElse level (linesOfAll level statements ++ indented outer "\x7d" :: rest) := by
  cases statements with
  | nil => exact noElse_of_ne (by simp [IsFlush]) (by decide) outer
  | cons s statements =>
      rw [linesOfAll, List.append_assoc]
      exact noElse_lines (spelled s List.mem_cons_self) level

/-- A statement in a block is told from the closing brace by its indentation. -/
theorem closing_ne_lines {outer : Nat} (spelled : s.IsSpelled Number.IsMagnitude)
    (further : outer < level) : indented outer "\x7d" :: more ≠ s.lines level ++ rest := by
  intro same
  obtain ⟨others, text⟩ := exists_lines_eq level s
  rw [text] at same
  obtain ⟨rfl, _⟩ := indented_inj (by simp [IsFlush]) (isFlush_lead spelled) (List.cons.inj same).1
  omega

theorem areTold_nil (level : Nat) : AreTold level [] := by
  intro others rest more outer further _ otherSpelled same
  cases others with
  | nil => exact ⟨rfl, (List.cons.inj same).2⟩
  | cons t others =>
      rw [linesOfAll, linesOfAll, List.nil_append, List.append_assoc] at same
      exact absurd same (closing_ne_lines (otherSpelled t List.mem_cons_self) further)

theorem areTold_cons {first : Stmt} {statements : List Stmt} (ofFirst : IsTold level first)
    (ofRest : AreTold level statements) : AreTold level (first :: statements) := by
  intro others rest more outer further spelled otherSpelled same
  obtain ⟨firstSpelled, restSpelled⟩ := List.forall_mem_cons.mp spelled
  cases others with
  | nil =>
      rw [linesOfAll, linesOfAll, List.nil_append, List.append_assoc] at same
      exact absurd same.symm (closing_ne_lines firstSpelled further)
  | cons t others =>
      obtain ⟨otherFirstSpelled, otherRestSpelled⟩ := List.forall_mem_cons.mp otherSpelled
      rw [linesOfAll, linesOfAll, List.append_assoc, List.append_assoc] at same
      obtain ⟨rfl, behind⟩ := ofFirst t _ _ firstSpelled otherFirstSpelled
        (noElse_linesOfAll restSpelled) (noElse_linesOfAll otherRestSpelled) same
      obtain ⟨rfl, rfl⟩ := ofRest others rest more outer further restSpelled otherRestSpelled behind
      exact ⟨rfl, rfl⟩

/-- Every statement can be told from its lines. -/
theorem isTold (level : Nat) (s : Stmt) : IsTold level s := by
  -- the induction goes along the lines, with one lemma for each kind of statement
  apply lines.induct IsTold AreTold
  case case1 => exact isTold_print
  case case2 => exact isTold_assign
  case case3 => exact isTold_assignField
  case case4 => exact fun _ _ => isTold_block
  case case5 => exact fun _ condition _ => isTold_branch_none condition
  case case6 => exact fun _ condition _ _ => isTold_branch_some condition
  case case7 => exact fun _ condition _ => isTold_whileLoop condition
  case case8 => exact fun _ _ condition _ _ => isTold_forLoop condition
  case case9 => exact areTold_nil
  case case10 => exact fun _ _ _ => areTold_cons

end Stmt

end Kiss
