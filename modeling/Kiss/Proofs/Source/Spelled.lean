import Kiss.Proofs.Execution.Occurrence
import Kiss.Proofs.Lexical.Writing
import Kiss.Proofs.Source.Literals

/-!
# Names and numbers in trees

A tree that was read from a source text has its names and its numbers from tokens: a name is a word
that is no keyword, and a number is what a literal denotes, so it has no sign. `IsSpelled` says so
of all that stands in a tree.
-/

namespace Kiss

open Lexical (IsName)

/-- The names in an expression are names, and its numbers have a property. -/
def Expr.IsSpelled (literal : Float → Prop) : Expr → Prop
  | .number value => literal value
  | .text _ | .bool _ | .emptyObject => True
  | .var name => IsName name
  | .field object name => IsName object ∧ IsName name
  | .unary _ operand => operand.IsSpelled literal
  | .binary _ left right => left.IsSpelled literal ∧ right.IsSpelled literal

/-- The names that an assignment writes to. -/
def Stmt.targets : Stmt → List String
  | .assign name _ => [name]
  | .assignField object field _ => [object, field]
  | _ => []

/-- The names in a statement are names, and its numbers have a property. -/
structure Stmt.IsSpelled (literal : Float → Prop) (s : Stmt) : Prop where
  exprs : ∀ e ∈ s.exprs, e.IsSpelled literal
  targets : ∀ simple ∈ s.simples, ∀ name ∈ simple.targets, IsName name

variable {literal : Float → Prop}

theorem Expr.IsSpelled.mono {other : Float → Prop} {e : Expr} (spelled : e.IsSpelled literal)
    (numbers : ∀ x, .number x ∈ e.parts → literal x → other x) : e.IsSpelled other := by
  induction e with
  | number x => exact numbers x (by simp [parts]) spelled
  | text | bool | emptyObject | var | field => exact spelled
  | unary op operand ih => exact ih spelled fun x part => numbers x (by simp [parts, part])
  | binary op left right ihLeft ihRight =>
      exact ⟨ihLeft spelled.1 fun x part => numbers x (by simp [parts, part]),
        ihRight spelled.2 fun x part => numbers x (by simp [parts, part])⟩

namespace Stmt

variable {s part : Stmt}

theorem IsSpelled.mono {other : Float → Prop} (spelled : s.IsSpelled literal)
    (numbers : ∀ x, (Expr.number x).OccursIn s → literal x → other x) : s.IsSpelled other where
  exprs e stands := (spelled.exprs e stands).mono fun x inside =>
    numbers x ⟨e, stands, inside⟩
  targets := spelled.targets

theorem IsSpelled.within (spelled : s.IsSpelled literal) (within : part.Within s) :
    part.IsSpelled literal where
  exprs e stands := spelled.exprs e (within.exprs e stands)
  targets simple stands := spelled.targets simple (within.simples simple stands)

section Parts

variable {condition : Expr} {init increment body thenBranch : Stmt} {elseBranch : Option Stmt}

theorem isSpelled_print {value : Expr} :
    (print value).IsSpelled literal ↔ value.IsSpelled literal :=
  ⟨fun spelled => spelled.exprs value (by simp [exprs]),
    fun spelled => ⟨by simpa [exprs] using spelled, by simp [simples, targets]⟩⟩

theorem isSpelled_assign {name : String} {value : Expr} :
    (assign name value).IsSpelled literal ↔ IsName name ∧ value.IsSpelled literal :=
  ⟨fun spelled => ⟨spelled.targets (assign name value) (by simp [simples]) name (by simp [targets]),
      spelled.exprs value (by simp [exprs])⟩,
    fun spelled => ⟨by simpa [exprs] using spelled.2, by simpa [simples, targets] using spelled.1⟩⟩

theorem isSpelled_assignField {object field : String} {value : Expr} :
    (assignField object field value).IsSpelled literal ↔
      (IsName object ∧ IsName field) ∧ value.IsSpelled literal :=
  ⟨fun spelled =>
      ⟨by simpa [targets] using
          spelled.targets (assignField object field value) (by simp [simples]),
        spelled.exprs value (by simp [exprs])⟩,
    fun spelled => ⟨by simpa [exprs] using spelled.2, by simpa [simples, targets] using spelled.1⟩⟩

theorem isSpelled_block {statements : List Stmt} :
    (block statements).IsSpelled literal ↔ ∀ s ∈ statements, s.IsSpelled literal := by
  refine ⟨fun spelled s member => spelled.within (within_block member), fun all => ⟨?_, ?_⟩⟩
  · intro e stands
    obtain ⟨s, member, inside⟩ := mem_exprsOf.mp stands
    exact (all s member).exprs e inside
  · intro simple stands
    obtain ⟨s, member, inside⟩ := mem_simplesOf.mp stands
    exact (all s member).targets simple inside

theorem isSpelled_branch :
    (branch condition thenBranch elseBranch).IsSpelled literal ↔
      condition.IsSpelled literal ∧ thenBranch.IsSpelled literal ∧
        ∀ s ∈ elseBranch, s.IsSpelled literal := by
  constructor
  · exact fun spelled => ⟨spelled.exprs _ (mem_exprs_branch.mpr (.inl rfl)),
      spelled.within within_thenBranch,
      fun s member => spelled.within (within_elseBranch member)⟩
  · rintro ⟨ofCondition, ofThen, ofElse⟩
    constructor
    · intro e stands
      rcases mem_exprs_branch.mp stands with rfl | inside | ⟨s, member, inside⟩
      · exact ofCondition
      · exact ofThen.exprs e inside
      · exact (ofElse s member).exprs e inside
    · intro simple stands
      rcases mem_simples_branch.mp stands with inside | ⟨s, member, inside⟩
      · exact ofThen.targets simple inside
      · exact (ofElse s member).targets simple inside

theorem isSpelled_whileLoop :
    (whileLoop condition body).IsSpelled literal ↔
      condition.IsSpelled literal ∧ body.IsSpelled literal := by
  constructor
  · exact fun spelled => ⟨spelled.exprs _ (by simp [exprs]), spelled.within within_whileLoop⟩
  · rintro ⟨ofCondition, ofBody⟩
    exact ⟨List.forall_mem_cons.mpr ⟨ofCondition, ofBody.exprs⟩, ofBody.targets⟩

theorem isSpelled_forLoop :
    (forLoop init condition increment body).IsSpelled literal ↔
      init.IsSpelled literal ∧ condition.IsSpelled literal ∧ increment.IsSpelled literal ∧
        body.IsSpelled literal := by
  constructor
  · exact fun spelled => ⟨spelled.within within_init, spelled.exprs _ (by simp [exprs]),
      spelled.within within_increment, spelled.within within_body⟩
  · rintro ⟨ofInit, ofCondition, ofIncrement, ofBody⟩
    constructor
    · simp only [exprs, List.forall_mem_append, List.forall_mem_cons]
      exact ⟨ofInit.exprs, ofCondition, ofBody.exprs, ofIncrement.exprs⟩
    · simp only [simples, List.forall_mem_append]
      exact ⟨ofInit.targets, ofBody.targets, ofIncrement.targets⟩

end Parts

end Stmt

/-- A token as it is cut out of a text, which denotes no number without the property. -/
def Token.Supplies (literal : Float → Prop) (t : Token) : Prop :=
  t.IsWellFormed ∧ ∀ x, t.Denotes x → literal x

namespace Grammar

/-- A word that is read is a name. -/
theorem Terminal.isName (word : Terminal .word) (supplied : word.token.Supplies literal) :
    IsName word.token.value := by
  have wellFormed := supplied.1
  rw [Token.IsWellFormed, word.hasKind] at wellFormed
  exact wellFormed

namespace ExprPhrase

/-- The tokens of two operands and of the operator between them are well formed, and so is what
    the operands stand for. -/
theorem isSpelled_pair {op : BinaryOp} {left right : List Token} {operator : Token}
    {leftTree rightTree : Option Expr} {e : Expr}
    (supplied : ∀ t ∈ left ++ operator :: right, t.Supplies literal)
    (leftSpelled : (∀ t ∈ left, t.Supplies literal) →
      ∀ l, leftTree = some l → l.IsSpelled literal)
    (rightSpelled : (∀ t ∈ right, t.Supplies literal) →
      ∀ r, rightTree = some r → r.IsSpelled literal)
    (found : pair op leftTree rightTree = some e) : e.IsSpelled literal := by
  obtain ⟨leftSupplied, others⟩ := List.forall_mem_append.mp supplied
  simp only [pair, Option.bind_eq_some_iff, Option.map_eq_some_iff] at found
  obtain ⟨l, leftFound, r, rightFound, rfl⟩ := found
  exact ⟨leftSpelled leftSupplied l leftFound,
    rightSpelled (List.forall_mem_cons.mp others).2 r rightFound⟩

/-- The tree of well-formed tokens has names for names, and its numbers are what they denote. -/
theorem isSpelled {part : ExprPart} (phrase : ExprPhrase part)
    (supplied : ∀ t ∈ phrase.tokens, t.Supplies literal) {e : Expr}
    (found : phrase.tree? = some e) : e.IsSpelled literal := by
  induction phrase generalizing e with
  | number numeral =>
      obtain ⟨x, read, rfl⟩ := Option.map_eq_some_iff.mp ((tree?_number numeral).symm.trans found)
      obtain ⟨wellFormed, denoted⟩ := supplied numeral.token (by simp)
      exact denoted x (wellFormed.denotes read)
  | hexNumber numeral =>
      obtain ⟨x, read, rfl⟩ :=
        Option.map_eq_some_iff.mp ((tree?_hexNumber numeral).symm.trans found)
      obtain ⟨wellFormed, denoted⟩ := supplied numeral.token (by simp)
      exact denoted x (wellFormed.denotes read)
  | text | trueWord | falseWord | emptyObject =>
      cases found
      trivial
  | var name =>
      cases found
      exact name.isName (supplied _ (by simp [tokens]))
  | field object dot name =>
      cases found
      exact ⟨object.isName (supplied _ (by simp [tokens])),
        name.isName (supplied _ (by simp [tokens]))⟩
  | group _ inner _ ih => exact ih (fun t member => supplied t (by simp [tokens, member])) found
  | bare inner ih | operand inner ih | whole inner ih => exact ih supplied found
  | positive _ inner ih => exact ih (fun t member => supplied t (by simp [tokens, member])) found
  | negated _ inner ih | inverted _ inner ih =>
      obtain ⟨operand, operandFound, rfl⟩ := Option.map_eq_some_iff.mp found
      have spelled : operand.IsSpelled _ :=
        ih (fun t member => supplied t (by simp [tokens, member])) operandFound
      exact spelled
  | joined op left operator joins right ihLeft ihRight =>
      exact isSpelled_pair supplied (fun also _ => ihLeft also)
        (fun also _ => ihRight also) found
  | strictOr left operator right ihLeft ihRight | strictAnd left operator right ihLeft ihRight =>
      exact isSpelled_pair supplied (fun also _ => ihLeft also)
        (fun also _ => ihRight also) found

end ExprPhrase

namespace StmtPhrase

open Stmt

/-- The tree of well-formed tokens has names for names, and its numbers are what they denote. -/
theorem isSpelled {part : StmtPart} (phrase : StmtPhrase part)
    (supplied : ∀ t ∈ phrase.tokens, t.Supplies literal) {tree : part.Tree}
    (found : phrase.tree? = some tree) :
    ∀ s ∈ part.stmts tree, s.IsSpelled literal := by
  induction phrase with
  | assign name _ value =>
      simp only [tokens, List.forall_mem_cons] at supplied
      obtain ⟨nameSupplied, _, valueSupplied⟩ := supplied
      obtain ⟨valueTree, valueFound, rfl⟩ := Option.map_eq_some_iff.mp found
      exact List.forall_mem_singleton.mpr
        (isSpelled_assign.mpr ⟨name.isName nameSupplied, value.isSpelled valueSupplied valueFound⟩)
  | assignField object _ field _ value =>
      simp only [tokens, List.forall_mem_cons] at supplied
      obtain ⟨objectSupplied, _, fieldSupplied, _, valueSupplied⟩ := supplied
      obtain ⟨valueTree, valueFound, rfl⟩ := Option.map_eq_some_iff.mp found
      exact List.forall_mem_singleton.mpr (isSpelled_assignField.mpr
        ⟨⟨object.isName objectSupplied, field.isName fieldSupplied⟩,
          value.isSpelled valueSupplied valueFound⟩)
  | print _ value =>
      simp only [tokens, List.forall_mem_cons] at supplied
      obtain ⟨valueTree, valueFound, rfl⟩ := Option.map_eq_some_iff.mp found
      exact List.forall_mem_singleton.mpr
        (isSpelled_print.mpr (value.isSpelled supplied.2 valueFound))
  | assignment inner ih | single inner ih => exact ih supplied found
  | ifThen _ condition thenBody ih =>
      simp only [tokens, List.forall_mem_cons, List.forall_mem_append] at supplied
      obtain ⟨_, conditionSupplied, thenSupplied⟩ := supplied
      simp only [tree?, Option.bind_eq_some_iff, Option.map_eq_some_iff] at found
      obtain ⟨conditionTree, conditionFound, thenTree, thenFound, rfl⟩ := found
      exact List.forall_mem_singleton.mpr (isSpelled_branch.mpr
        ⟨condition.isSpelled conditionSupplied conditionFound,
          List.forall_mem_singleton.mp (ih thenSupplied thenFound), by simp⟩)
  | ifElse _ condition thenBody _ elseBody ihThen ihElse =>
      simp only [tokens, List.forall_mem_cons, List.forall_mem_append] at supplied
      obtain ⟨_, conditionSupplied, thenSupplied, _, elseSupplied⟩ := supplied
      simp only [tree?, Option.bind_eq_some_iff, Option.map_eq_some_iff] at found
      obtain ⟨conditionTree, conditionFound, thenTree, thenFound, elseTree, elseFound, rfl⟩ := found
      have elseSpelled := List.forall_mem_singleton.mp (ihElse elseSupplied elseFound)
      exact List.forall_mem_singleton.mpr (isSpelled_branch.mpr
        ⟨condition.isSpelled conditionSupplied conditionFound,
          List.forall_mem_singleton.mp (ihThen thenSupplied thenFound), by simpa using elseSpelled⟩)
  | whileLoop _ condition inner ih =>
      simp only [tokens, List.forall_mem_cons, List.forall_mem_append] at supplied
      obtain ⟨_, conditionSupplied, innerSupplied⟩ := supplied
      simp only [tree?, Option.bind_eq_some_iff, Option.map_eq_some_iff] at found
      obtain ⟨conditionTree, conditionFound, innerTree, innerFound, rfl⟩ := found
      exact List.forall_mem_singleton.mpr (isSpelled_whileLoop.mpr
        ⟨condition.isSpelled conditionSupplied conditionFound,
          List.forall_mem_singleton.mp (ih innerSupplied innerFound)⟩)
  | forLoop _ _ init _ condition _ increment _ inner ihInit ihIncrement ih =>
      simp only [tokens, List.forall_mem_cons, List.forall_mem_append] at supplied
      obtain ⟨_, _, initSupplied, _, conditionSupplied, _, incrementSupplied, _, innerSupplied⟩ :=
        supplied
      simp only [tree?, Option.bind_eq_some_iff, Option.map_eq_some_iff] at found
      obtain ⟨initTree, initFound, conditionTree, conditionFound, incrementTree, incrementFound,
        innerTree, innerFound, rfl⟩ := found
      exact List.forall_mem_singleton.mpr (isSpelled_forLoop.mpr
        ⟨List.forall_mem_singleton.mp (ihInit initSupplied initFound),
          condition.isSpelled conditionSupplied conditionFound,
          List.forall_mem_singleton.mp (ihIncrement incrementSupplied incrementFound),
          List.forall_mem_singleton.mp (ih innerSupplied innerFound)⟩)
  | block _ inner _ ih =>
      simp only [tokens, List.forall_mem_cons, List.forall_mem_append] at supplied
      obtain ⟨trees, treesFound, rfl⟩ := Option.map_eq_some_iff.mp found
      exact List.forall_mem_singleton.mpr (isSpelled_block.mpr (ih supplied.2.1 treesFound))
  | none =>
      cases found
      exact List.forall_mem_nil _
  | more first others ihFirst ihOthers =>
      obtain ⟨firstSupplied, othersSupplied⟩ := List.forall_mem_append.mp supplied
      simp only [tree?, Option.bind_eq_some_iff, Option.map_eq_some_iff] at found
      obtain ⟨firstTree, firstFound, trees, treesFound, rfl⟩ := found
      exact List.forall_mem_cons.mpr
        ⟨List.forall_mem_singleton.mp (ihFirst firstSupplied firstFound),
          ihOthers othersSupplied treesFound⟩

end StmtPhrase

end Grammar

/-- In the tree of every source text names are names, and every number is denoted by a numeral of
    the text. -/
theorem isSpelled_of_parse {source : String} {ts : List Token} {tree : Stmt}
    (read : tokenize source = .ok ts) (accepted : parse ts = .ok tree) :
    tree.IsSpelled fun x => ∃ t ∈ ts, t.Denotes x := by
  obtain ⟨program, same, found⟩ := Grammar.exists_program_of_parse accepted
  obtain ⟨trees, treesFound, rfl⟩ := Option.map_eq_some_iff.mp found
  have supplied : ∀ t ∈ program.tokens, t.Supplies fun x => ∃ t ∈ ts, t.Denotes x := by
    intro t member
    rw [same] at member
    exact ⟨Grammar.wellFormed_of_mem_body read t member,
      fun x denotes => ⟨t, (List.takeWhile_sublist _).mem member, denotes⟩⟩
  exact Stmt.isSpelled_block.mpr (program.isSpelled supplied treesFound)

/-- In the tree of every source text names are names, and no number has a sign. -/
theorem isSpelled_of_readProgram {source : String} {tree : Stmt}
    (read : readProgram source = .ok tree) : tree.IsSpelled Number.IsUnsigned := by
  obtain ⟨ts, tokenized, accepted⟩ := readProgram_eq_ok.mp read
  refine (isSpelled_of_parse tokenized accepted).mono fun x _ inText => ?_
  obtain ⟨t, _, denotes⟩ := inText
  exact denotes.isUnsigned

end Kiss
