import Kiss.Proofs.Source.Spelled

/-!
# Where statements stand

The trees have more room than the texts use. A block is written only as a branch or a body, and the
head of a counting loop takes assignments only; so in what is read from a text statements of some
kinds never stand in some places. The part of the grammar from which a statement comes says what
it can be (`StmtPart.Admits`), and each place is filled from one such part.
-/

namespace Kiss

namespace Stmt

/-- Statements in braces. -/
def IsBlock : Stmt → Prop
  | .block _ => True
  | .print _ | .assign _ _ | .assignField _ _ _ | .branch _ _ _ | .whileLoop _ _
  | .forLoop _ _ _ _ => False

/-- An assignment to a variable or to a field. -/
def IsAssignment : Stmt → Prop
  | .assign _ _ | .assignField _ _ _ => True
  | .print _ | .block _ | .branch _ _ _ | .whileLoop _ _ | .forLoop _ _ _ _ => False

/-- The places that a statement has for others. -/
inductive Place where
  | item
  | thenBranch
  | elseBranch
  | body
  | init
  | increment
  deriving DecidableEq, Repr

/-- A statement stands in another one, with nothing between them. -/
inductive StandsAs : Stmt → Place → Stmt → Prop where
  | item {s : Stmt} {statements : List Stmt} (member : s ∈ statements) :
      StandsAs s .item (.block statements)
  | thenBranch (condition : Expr) (s : Stmt) (elseBranch : Option Stmt) :
      StandsAs s .thenBranch (.branch condition s elseBranch)
  | elseBranch (condition : Expr) (thenBranch s : Stmt) :
      StandsAs s .elseBranch (.branch condition thenBranch (some s))
  | whileBody (condition : Expr) (s : Stmt) : StandsAs s .body (.whileLoop condition s)
  | init (s : Stmt) (condition : Expr) (increment body : Stmt) :
      StandsAs s .init (.forLoop s condition increment body)
  | increment (init : Stmt) (condition : Expr) (s body : Stmt) :
      StandsAs s .increment (.forLoop init condition s body)
  | forBody (init : Stmt) (condition : Expr) (increment s : Stmt) :
      StandsAs s .body (.forLoop init condition increment s)

/-- A statement is another one or stands in it at any depth. -/
inductive IsPart : Stmt → Stmt → Prop where
  | self (s : Stmt) : IsPart s s
  | inside {part inner whole : Stmt} {place : Place} :
      IsPart part inner → StandsAs inner place whole → IsPart part whole

/-- What may stand in a place: no block among statements, and only an assignment in the head of a
    loop. -/
def Place.Admits : Place → Stmt → Prop
  | .item, s => ¬s.IsBlock
  | .thenBranch, _ | .elseBranch, _ | .body, _ => True
  | .init, s | .increment, s => s.IsAssignment

/-- At any depth, statements stand only where they may. -/
def IsPlaced (s : Stmt) : Prop :=
  ∀ whole, IsPart whole s → ∀ part place, StandsAs part place whole → place.Admits part

/-- A tree as texts have it, with numbers that have a property. -/
structure IsWellFormed (literal : Float → Prop) (tree : Stmt) : Prop where
  isBlock : tree.IsBlock
  /-- Any other block is itself a branch or a body. -/
  place_of_isBlock : ∀ {whole part : Stmt} {place : Place}, IsPart whole tree →
    StandsAs part place whole → part.IsBlock →
      place = .thenBranch ∨ place = .elseBranch ∨ place = .body
  /-- The head of every counting loop has two assignments. -/
  isAssignment_of_head : ∀ {whole part : Stmt} {place : Place}, IsPart whole tree →
    StandsAs part place whole → place = .init ∨ place = .increment → part.IsAssignment
  /-- Names are words that are no keywords. -/
  isSpelled : tree.IsSpelled literal

variable {s part : Stmt} {place : Place}

theorem IsAssignment.not_isBlock (isAssignment : s.IsAssignment) : ¬s.IsBlock := by
  intro isBlock
  cases s with
  | block => exact isAssignment
  | print | assign | assignField | branch | whileLoop | forLoop => exact isBlock

/-- It is enough to look at what stands in a statement with nothing between, and go on there. -/
theorem isPlaced_iff :
    s.IsPlaced ↔ ∀ part place, StandsAs part place s → place.Admits part ∧ part.IsPlaced := by
  constructor
  · intro placed part place stands
    exact ⟨placed s (.self s) part place stands,
      fun whole inside => placed whole (.inside inside stands)⟩
  · intro parts whole isPart
    cases isPart with
    | self => exact fun part place stands => (parts part place stands).1
    | inside inside stands => exact (parts _ _ stands).2 whole inside

/-- A block stands in no place but those of branches and bodies. -/
theorem Place.Admits.of_isBlock (admits : place.Admits part) (isBlock : part.IsBlock) :
    place = .thenBranch ∨ place = .elseBranch ∨ place = .body := by
  cases place with
  | item => exact absurd isBlock admits
  | thenBranch => exact .inl rfl
  | elseBranch => exact .inr (.inl rfl)
  | body => exact .inr (.inr rfl)
  | init | increment => exact absurd isBlock (IsAssignment.not_isBlock admits)

theorem isPlaced_block {statements : List Stmt} :
    (block statements).IsPlaced ↔ ∀ s ∈ statements, s.IsPlaced ∧ ¬s.IsBlock := by
  rw [isPlaced_iff]
  constructor
  · exact fun parts s member => (parts s .item (.item member)).symm
  · rintro all part place ⟨member⟩
    exact (all part member).symm

theorem isPlaced_branch {condition : Expr} {thenBranch : Stmt} {elseBranch : Option Stmt} :
    (branch condition thenBranch elseBranch).IsPlaced ↔
      thenBranch.IsPlaced ∧ ∀ s ∈ elseBranch, s.IsPlaced := by
  rw [isPlaced_iff]
  constructor
  · intro parts
    refine ⟨(parts _ _ (.thenBranch ..)).2, ?_⟩
    rintro s ⟨⟩
    exact (parts _ _ (.elseBranch ..)).2
  · rintro ⟨ofThen, ofElse⟩ part place stands
    cases stands with
    | thenBranch => exact ⟨trivial, ofThen⟩
    | elseBranch => exact ⟨trivial, ofElse _ rfl⟩

theorem isPlaced_whileLoop {condition : Expr} {body : Stmt} :
    (whileLoop condition body).IsPlaced ↔ body.IsPlaced := by
  rw [isPlaced_iff]
  constructor
  · exact fun parts => (parts _ _ (.whileBody ..)).2
  · intro placed part place stands
    cases stands
    exact ⟨trivial, placed⟩

theorem isPlaced_forLoop {init increment body : Stmt} {condition : Expr} :
    (forLoop init condition increment body).IsPlaced ↔
      (init.IsPlaced ∧ init.IsAssignment) ∧ (increment.IsPlaced ∧ increment.IsAssignment) ∧
        body.IsPlaced := by
  rw [isPlaced_iff]
  constructor
  · intro parts
    exact ⟨(parts _ _ (.init ..)).symm, (parts _ _ (.increment ..)).symm,
      (parts _ _ (.forBody ..)).2⟩
  · rintro ⟨ofInit, ofIncrement, ofBody⟩ part place stands
    cases stands with
    | init => exact ofInit.symm
    | increment => exact ofIncrement.symm
    | forBody => exact ⟨trivial, ofBody⟩

end Stmt

namespace Grammar

/-- What a part of a program can stand for. -/
def StmtPart.Admits : StmtPart → Stmt → Prop
  | .assignment, s => s.IsAssignment
  | .statement _, s | .statements, s => ¬s.IsBlock
  | .body _, _ => True

namespace StmtPhrase

open Stmt

/-- In the tree of a part of a program statements stand only where they may. -/
theorem isPlaced {part : StmtPart} (phrase : StmtPhrase part) {tree : part.Tree}
    (found : phrase.tree? = some tree) : ∀ s ∈ part.stmts tree, s.IsPlaced ∧ part.Admits s := by
  induction phrase with
  | assign _ _ value | assignField _ _ _ _ value =>
      obtain ⟨e, _, rfl⟩ := Option.map_eq_some_iff.mp found
      exact List.forall_mem_singleton.mpr ⟨isPlaced_iff.mpr nofun, trivial⟩
  | print _ value =>
      obtain ⟨e, _, rfl⟩ := Option.map_eq_some_iff.mp found
      exact List.forall_mem_singleton.mpr ⟨isPlaced_iff.mpr nofun, id⟩
  | assignment inner ih =>
      obtain ⟨placed, isAssignment⟩ := List.forall_mem_singleton.mp (ih found)
      exact List.forall_mem_singleton.mpr ⟨placed, IsAssignment.not_isBlock isAssignment⟩
  | ifThen _ condition thenBody ih =>
      simp only [tree?, Option.bind_eq_some_iff, Option.map_eq_some_iff] at found
      obtain ⟨conditionTree, _, thenTree, thenFound, rfl⟩ := found
      obtain ⟨ofThen, _⟩ := List.forall_mem_singleton.mp (ih thenFound)
      exact List.forall_mem_singleton.mpr ⟨isPlaced_branch.mpr ⟨ofThen, nofun⟩, id⟩
  | ifElse _ condition thenBody _ elseBody ihThen ihElse =>
      simp only [tree?, Option.bind_eq_some_iff, Option.map_eq_some_iff] at found
      obtain ⟨conditionTree, _, thenTree, thenFound, elseTree, elseFound, rfl⟩ := found
      obtain ⟨ofThen, _⟩ := List.forall_mem_singleton.mp (ihThen thenFound)
      obtain ⟨ofElse, _⟩ := List.forall_mem_singleton.mp (ihElse elseFound)
      exact List.forall_mem_singleton.mpr
        ⟨isPlaced_branch.mpr ⟨ofThen, by simpa using ofElse⟩, id⟩
  | whileLoop _ condition inner ih =>
      simp only [tree?, Option.bind_eq_some_iff, Option.map_eq_some_iff] at found
      obtain ⟨conditionTree, _, innerTree, innerFound, rfl⟩ := found
      obtain ⟨ofInner, _⟩ := List.forall_mem_singleton.mp (ih innerFound)
      exact List.forall_mem_singleton.mpr ⟨isPlaced_whileLoop.mpr ofInner, id⟩
  | forLoop _ _ init _ condition _ increment _ inner ihInit ihIncrement ih =>
      simp only [tree?, Option.bind_eq_some_iff, Option.map_eq_some_iff] at found
      obtain ⟨initTree, initFound, conditionTree, _, incrementTree, incrementFound, innerTree,
        innerFound, rfl⟩ := found
      have ofInit := List.forall_mem_singleton.mp (ihInit initFound)
      have ofIncrement := List.forall_mem_singleton.mp (ihIncrement incrementFound)
      obtain ⟨ofInner, _⟩ := List.forall_mem_singleton.mp (ih innerFound)
      exact List.forall_mem_singleton.mpr
        ⟨isPlaced_forLoop.mpr ⟨ofInit, ofIncrement, ofInner⟩, id⟩
  | block _ inner _ ih =>
      obtain ⟨trees, treesFound, rfl⟩ := Option.map_eq_some_iff.mp found
      exact List.forall_mem_singleton.mpr ⟨isPlaced_block.mpr (ih treesFound), trivial⟩
  | single inner ih =>
      obtain ⟨placed, _⟩ := List.forall_mem_singleton.mp (ih found)
      exact List.forall_mem_singleton.mpr ⟨placed, trivial⟩
  | none =>
      cases found
      exact List.forall_mem_nil _
  | more first others ihFirst ihOthers =>
      simp only [tree?, Option.bind_eq_some_iff, Option.map_eq_some_iff] at found
      obtain ⟨firstTree, firstFound, trees, treesFound, rfl⟩ := found
      have ofFirst := List.forall_mem_singleton.mp (ihFirst firstFound)
      exact List.forall_mem_cons.mpr ⟨ofFirst, ihOthers treesFound⟩

end StmtPhrase

end Grammar

/-- The tree of every program that is read from a text is well formed: it is a block with statements
    where they may stand and names for names, and each of its numbers is denoted by a numeral of the
    text, which is digits with at most a point between them, or hexadecimal digits. -/
theorem isWellFormed_of_parse {source : String} {ts : List Token} {tree : Stmt}
    (read : tokenize source = .ok ts) (accepted : parse ts = .ok tree) :
    tree.IsWellFormed fun x => ∃ t ∈ ts, t.Denotes x := by
  obtain ⟨program, _, found⟩ := Grammar.exists_program_of_parse accepted
  obtain ⟨trees, treesFound, rfl⟩ := Option.map_eq_some_iff.mp found
  have placed : (Stmt.block trees).IsPlaced := Stmt.isPlaced_block.mpr (program.isPlaced treesFound)
  constructor
  case isBlock => trivial
  case place_of_isBlock =>
    intro whole part place isPart stands isBlock
    exact (placed whole isPart part place stands).of_isBlock isBlock
  case isAssignment_of_head =>
    intro whole part place isPart stands inHead
    have admits := placed whole isPart part place stands
    rcases inHead with rfl | rfl
    · exact admits
    · exact admits
  case isSpelled => exact isSpelled_of_parse read accepted

/-- Branches with and without braces, and both kinds of assignment in the head of a loop. -/
theorem isWellFormed_of_parse_loop :
    ∃ ts tree, tokenize "for (i = 0; a; i.n = i) if i \x7b print #0A \x7d else i = 2" = .ok ts ∧
      parse ts = .ok tree ∧
      tree.render = "\x7b\n  for\n    i = 0\n    ; a\n    i.n = i\n    if i\n" ++
        "      \x7b\n        print 10\n      \x7d\n    else\n      i = 2\n\x7d\n" ∧
      tree.IsWellFormed fun x => ∃ t ∈ ts, t.Denotes x := by
  obtain ⟨tree, found, shown⟩ := exists_program_of_render
    (show (readProgram "for (i = 0; a; i.n = i) if i \x7b print #0A \x7d else i = 2").toOption.map
      Stmt.render = some ("\x7b\n  for\n    i = 0\n    ; a\n    i.n = i\n    if i\n" ++
        "      \x7b\n        print 10\n      \x7d\n    else\n      i = 2\n\x7d\n") by
      decide +kernel)
  obtain ⟨ts, read, accepted⟩ := readProgram_eq_ok.mp found
  exact ⟨ts, tree, read, accepted, shown, isWellFormed_of_parse read accepted⟩

end Kiss
