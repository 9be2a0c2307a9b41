import Kiss.Syntax.Basic

/-!
# What stands in a statement

A statement is made of simple statements, which work on the machine, and of expressions: those of
the simple statements, and the conditions of branches and loops. Both are listed here wherever
they stand, at any depth, and every law of runs asks for no more than what it needs of them. A
part of a statement has no others (`Stmt.Within`).
-/

namespace Kiss

/-- The expressions in an expression, itself among them. -/
def Expr.parts : Expr → List Expr
  | .unary op operand => .unary op operand :: operand.parts
  | .binary op left right => .binary op left right :: (left.parts ++ right.parts)
  | e => [e]

theorem Expr.self_mem_parts (e : Expr) : e ∈ e.parts := by
  cases e <;> simp [parts]

theorem Expr.mem_parts_trans {part e whole : Expr} (inside : part ∈ e.parts)
    (within : e ∈ whole.parts) : part ∈ whole.parts := by
  induction whole with
  | number | text | bool | emptyObject | var | field =>
      obtain rfl := List.mem_singleton.mp within
      exact inside
  | unary op operand ih =>
      rcases List.mem_cons.mp within with rfl | within
      · exact inside
      · exact List.mem_cons_of_mem _ (ih within)
  | binary op left right ihLeft ihRight =>
      rcases List.mem_cons.mp within with rfl | within
      · exact inside
      · rcases List.mem_append.mp within with within | within
        · exact List.mem_cons_of_mem _ (List.mem_append_left _ (ihLeft within))
        · exact List.mem_cons_of_mem _ (List.mem_append_right _ (ihRight within))

namespace Stmt

mutual

/-- The statements in a statement that work on the machine themselves, in order. -/
def simples : Stmt → List Stmt
  | .print e => [.print e]
  | .assign name e => [.assign name e]
  | .assignField object field e => [.assignField object field e]
  | .block statements => simplesOf statements
  | .branch _ thenBranch none => simples thenBranch
  | .branch _ thenBranch (some elseBranch) => simples thenBranch ++ simples elseBranch
  | .whileLoop _ body => simples body
  | .forLoop init _ increment body => simples init ++ (simples body ++ simples increment)

/-- The simple statements in several statements. -/
def simplesOf : List Stmt → List Stmt
  | [] => []
  | first :: rest => simples first ++ simplesOf rest

end

mutual

/-- The expressions that a statement evaluates, in order: values and conditions. -/
def exprs : Stmt → List Expr
  | .print e => [e]
  | .assign _ e => [e]
  | .assignField _ _ e => [e]
  | .block statements => exprsOf statements
  | .branch condition thenBranch none => condition :: exprs thenBranch
  | .branch condition thenBranch (some elseBranch) =>
      condition :: (exprs thenBranch ++ exprs elseBranch)
  | .whileLoop condition body => condition :: exprs body
  | .forLoop init condition increment body =>
      exprs init ++ condition :: (exprs body ++ exprs increment)

/-- The expressions that several statements evaluate. -/
def exprsOf : List Stmt → List Expr
  | [] => []
  | first :: rest => exprs first ++ exprsOf rest

end

theorem mem_simplesOf {simple : Stmt} {statements : List Stmt} :
    simple ∈ simplesOf statements ↔ ∃ s ∈ statements, simple ∈ s.simples := by
  induction statements with
  | nil => simp [simplesOf]
  | cons first rest ih => simp [simplesOf, ih]

theorem mem_exprsOf {e : Expr} {statements : List Stmt} :
    e ∈ exprsOf statements ↔ ∃ s ∈ statements, e ∈ s.exprs := by
  induction statements with
  | nil => simp [exprsOf]
  | cons first rest ih => simp [exprsOf, ih]

theorem mem_simples_branch {simple thenBranch : Stmt} {condition : Expr}
    {elseBranch : Option Stmt} :
    simple ∈ (branch condition thenBranch elseBranch).simples ↔
      simple ∈ thenBranch.simples ∨ ∃ s ∈ elseBranch, simple ∈ s.simples := by
  cases elseBranch <;> simp [simples]

theorem mem_exprs_branch {e condition : Expr} {thenBranch : Stmt} {elseBranch : Option Stmt} :
    e ∈ (branch condition thenBranch elseBranch).exprs ↔
      e = condition ∨ e ∈ thenBranch.exprs ∨ ∃ s ∈ elseBranch, e ∈ s.exprs := by
  cases elseBranch <;> simp [exprs]

/-- What stands in one statement stands in another one. -/
structure Within (part whole : Stmt) : Prop where
  exprs : ∀ e ∈ part.exprs, e ∈ whole.exprs
  simples : ∀ simple ∈ part.simples, simple ∈ whole.simples

section Parts

variable {condition : Expr} {init increment body thenBranch : Stmt} {elseBranch : Option Stmt}

theorem within_block {s : Stmt} {statements : List Stmt} (member : s ∈ statements) :
    s.Within (.block statements) where
  exprs _ inside := mem_exprsOf.mpr ⟨s, member, inside⟩
  simples _ inside := mem_simplesOf.mpr ⟨s, member, inside⟩

theorem within_thenBranch : thenBranch.Within (.branch condition thenBranch elseBranch) where
  exprs _ inside := mem_exprs_branch.mpr (.inr (.inl inside))
  simples _ inside := mem_simples_branch.mpr (.inl inside)

theorem within_elseBranch {s : Stmt} (member : s ∈ elseBranch) :
    s.Within (.branch condition thenBranch elseBranch) where
  exprs _ inside := mem_exprs_branch.mpr (.inr (.inr ⟨s, member, inside⟩))
  simples _ inside := mem_simples_branch.mpr (.inr ⟨s, member, inside⟩)

theorem within_whileLoop : body.Within (.whileLoop condition body) where
  exprs _ inside := List.mem_cons_of_mem _ inside
  simples _ inside := inside

theorem within_init : init.Within (.forLoop init condition increment body) where
  exprs _ inside := by simp [Stmt.exprs, inside]
  simples _ inside := by simp [Stmt.simples, inside]

theorem within_increment : increment.Within (.forLoop init condition increment body) where
  exprs _ inside := by simp [Stmt.exprs, inside]
  simples _ inside := by simp [Stmt.simples, inside]

theorem within_body : body.Within (.forLoop init condition increment body) where
  exprs _ inside := by simp [Stmt.exprs, inside]
  simples _ inside := by simp [Stmt.simples, inside]

end Parts

end Stmt

/-- An expression stands somewhere in a statement, by itself or in another expression. -/
def Expr.OccursIn (e : Expr) (s : Stmt) : Prop :=
  ∃ whole ∈ s.exprs, e ∈ whole.parts

namespace Expr.OccursIn

variable {s : Stmt} {e x y : Expr}

theorem of_mem (stands : e ∈ s.exprs) : e.OccursIn s :=
  ⟨e, stands, e.self_mem_parts⟩

theorem inside {part : Expr} (occurs : e.OccursIn s) (inside : part ∈ e.parts) :
    part.OccursIn s := by
  obtain ⟨whole, stands, within⟩ := occurs
  exact ⟨whole, stands, mem_parts_trans inside within⟩

theorem operand {op : UnaryOp} (occurs : (Expr.unary op e).OccursIn s) : e.OccursIn s :=
  occurs.inside (by simp [parts, self_mem_parts])

theorem left {op : BinaryOp} (occurs : (Expr.binary op x y).OccursIn s) : x.OccursIn s :=
  occurs.inside (by simp [parts, self_mem_parts])

theorem right {op : BinaryOp} (occurs : (Expr.binary op x y).OccursIn s) : y.OccursIn s :=
  occurs.inside (by simp [parts, self_mem_parts])

end Expr.OccursIn

namespace Stmt

/-- A variable is the target of an assignment in a statement. -/
def Assigns (s : Stmt) (name : String) : Prop :=
  ∃ e, .assign name e ∈ s.simples

/-- A field of the object that a variable holds is the target of an assignment in a statement. -/
def AssignsField (s : Stmt) (object field : String) : Prop :=
  ∃ e, .assignField object field e ∈ s.simples

/-- A statement looks a variable up: as such, or for a field of its object that is read or
    written. -/
def LooksUp (s : Stmt) (name : String) : Prop :=
  (Expr.var name).OccursIn s ∨ (∃ field, (Expr.field name field).OccursIn s) ∨
    ∃ field, s.AssignsField name field

/-- A statement looks a variable up or assigns it. -/
def Mentions (s : Stmt) (name : String) : Prop :=
  s.LooksUp name ∨ s.Assigns name

end Stmt

end Kiss
