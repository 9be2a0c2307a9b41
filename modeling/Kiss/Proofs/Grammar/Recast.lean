import Kiss.Proofs.Grammar.Phrase

/-!
# Derivations do not hang on values and positions

If every token is changed in its value and its position only, then a derivation can be changed
along: it has the same form, and so it reaches the same levels. If no value is changed, it stands
for the same tree.
-/

namespace Kiss.Grammar

/-- A change of tokens that keeps their kinds. -/
structure Recasting where
  token : Token → Token
  keeps : ∀ t, (token t).kind = t.kind

/-- Only positions are changed. -/
def Recasting.KeepsValues (r : Recasting) : Prop :=
  ∀ t, (r.token t).value = t.value

variable {r : Recasting}

/-- The terminal that becomes of a terminal. -/
def Terminal.recast (r : Recasting) {kind : TokenKind} (t : Terminal kind) : Terminal kind :=
  ⟨r.token t.token, (r.keeps t.token).trans t.hasKind⟩

namespace ExprPhrase

/-- The derivation of an expression, for what becomes of its tokens. -/
def recast (r : Recasting) : {part : ExprPart} → ExprPhrase part → ExprPhrase part
  | _, .number literal => .number (literal.recast r)
  | _, .hexNumber literal => .hexNumber (literal.recast r)
  | _, .text literal => .text (literal.recast r)
  | _, .trueWord word => .trueWord (word.recast r)
  | _, .falseWord word => .falseWord (word.recast r)
  | _, .var name => .var (name.recast r)
  | _, .field object dot name => .field (object.recast r) (dot.recast r) (name.recast r)
  | _, .emptyObject left right => .emptyObject (left.recast r) (right.recast r)
  | _, .group left inner right => .group (left.recast r) (inner.recast r) (right.recast r)
  | _, .bare inner => .bare (inner.recast r)
  | _, .positive sign inner => .positive (sign.recast r) (inner.recast r)
  | _, .negated sign inner => .negated (sign.recast r) (inner.recast r)
  | _, .inverted sign inner => .inverted (sign.recast r) (inner.recast r)
  | _, .operand inner => .operand (inner.recast r)
  | _, .joined op left operator joins right =>
      .joined op (left.recast r) (operator.recast r) joins (right.recast r)
  | _, .whole inner => .whole (inner.recast r)
  | _, .strictOr left operator right =>
      .strictOr (left.recast r) (operator.recast r) (right.recast r)
  | _, .strictAnd left operator right =>
      .strictAnd (left.recast r) (operator.recast r) (right.recast r)

variable {part : ExprPart}

theorem tokens_recast (phrase : ExprPhrase part) :
    (phrase.recast r).tokens = phrase.tokens.map r.token := by
  induction phrase with
  | number | hexNumber | text | trueWord | falseWord | var | field | emptyObject => rfl
  | bare _ ih | operand _ ih | whole _ ih => exact ih
  | positive sign _ ih | negated sign _ ih | inverted sign _ ih =>
      exact congrArg (r.token sign.token :: ·) ih
  | group _ _ _ ih =>
      rw [tokens, List.map_cons, List.map_append, ← ih]
      rfl
  | joined _ _ _ _ _ ihLeft ihRight
  | strictOr _ _ _ ihLeft ihRight
  | strictAnd _ _ _ ihLeft ihRight =>
      rw [tokens, List.map_append, List.map_cons, ← ihLeft, ← ihRight]
      rfl

theorem tree?_recast (same : r.KeepsValues) (phrase : ExprPhrase part) :
    (phrase.recast r).tree? = phrase.tree? := by
  induction phrase with
  | trueWord | falseWord | emptyObject => rfl
  | number t | hexNumber t | text t | var t =>
      rw [tree?, ← same t.token]
      rfl
  | field object _ name =>
      rw [tree?, ← same object.token, ← same name.token]
      rfl
  | group _ _ _ ih | bare _ ih | positive _ _ ih | operand _ ih | whole _ ih => exact ih
  | negated _ _ ih | inverted _ _ ih =>
      rw [tree?, ← ih]
      rfl
  | joined _ _ _ _ _ ihLeft ihRight
  | strictOr _ _ _ ihLeft ihRight
  | strictAnd _ _ _ ihLeft ihRight =>
      rw [tree?, ← ihLeft, ← ihRight]
      rfl

theorem operators_recast (phrase : ExprPhrase part) :
    (phrase.recast r).operators = phrase.operators := by
  induction phrase with
  | joined _ _ _ _ _ ih _ => exact congrArg (· + 1) ih
  | _ => rfl

theorem reach_recast (phrase : ExprPhrase part) (depth : Nat) :
    (phrase.recast r).reach depth = phrase.reach depth := by
  induction phrase generalizing depth with
  | number | hexNumber | text | trueWord | falseWord | var | field | emptyObject => rfl
  | group _ _ _ ih => exact ih (depth + 1)
  | bare _ ih | positive _ _ ih | negated _ _ ih | inverted _ _ ih | operand _ ih | whole _ ih =>
      exact ih depth
  | joined _ left _ _ _ ihLeft ihRight
  | strictOr left _ _ ihLeft ihRight
  | strictAnd left _ _ ihLeft ihRight =>
      -- the right side stands where the operators of the run leave it
      rw [reach, ← ihLeft, ← ihRight, ← left.operators_recast]
      rfl

end ExprPhrase

namespace StmtPhrase

/-- The derivation of a statement, for what becomes of its tokens. -/
def recast (r : Recasting) : {part : StmtPart} → StmtPhrase part → StmtPhrase part
  | _, .assign name sign value =>
      .assign (name.recast r) (sign.recast r) (value.recast r)
  | _, .assignField object dot field sign value =>
      .assignField (object.recast r) (dot.recast r) (field.recast r) (sign.recast r)
        (value.recast r)
  | _, .print word value => .print (word.recast r) (value.recast r)
  | _, .assignment inner => .assignment (inner.recast r)
  | _, .ifThen word condition thenBody =>
      .ifThen (word.recast r) (condition.recast r) (thenBody.recast r)
  | _, .ifElse word condition thenBody elseWord elseBody =>
      .ifElse (word.recast r) (condition.recast r) (thenBody.recast r)
        (elseWord.recast r) (elseBody.recast r)
  | _, .whileLoop word condition inner =>
      .whileLoop (word.recast r) (condition.recast r) (inner.recast r)
  | _, .forLoop word left init first condition second increment right inner =>
      .forLoop (word.recast r) (left.recast r) (init.recast r) (first.recast r)
        (condition.recast r) (second.recast r) (increment.recast r) (right.recast r)
        (inner.recast r)
  | _, .block left inner right => .block (left.recast r) (inner.recast r) (right.recast r)
  | _, .single inner => .single (inner.recast r)
  | _, .none => .none
  | _, .more first others => .more (first.recast r) (others.recast r)

variable {part : StmtPart}

theorem tokens_recast (phrase : StmtPhrase part) :
    (phrase.recast r).tokens = phrase.tokens.map r.token := by
  induction phrase with
  | none => rfl
  | assign _ _ value | assignField _ _ _ _ value | print _ value =>
      simp only [tokens, List.map_cons, ← value.tokens_recast]
      rfl
  | assignment _ ih | single _ ih => exact ih
  | ifThen _ condition _ ih | whileLoop _ condition _ ih =>
      simp only [tokens, List.map_cons, List.map_append, ← condition.tokens_recast, ← ih]
      rfl
  | ifElse _ condition _ _ _ ihThen ihElse =>
      simp only [tokens, List.map_cons, List.map_append, ← condition.tokens_recast, ← ihThen,
        ← ihElse]
      rfl
  | forLoop _ _ _ _ condition _ _ _ _ ihInit ihIncrement ih =>
      simp only [tokens, List.map_cons, List.map_append, ← condition.tokens_recast, ← ihInit,
        ← ihIncrement, ← ih]
      rfl
  | block _ _ _ ih =>
      simp only [tokens, List.map_cons, List.map_append, ← ih]
      rfl
  | more _ _ ihFirst ihOthers =>
      rw [tokens, List.map_append, ← ihFirst, ← ihOthers]
      rfl

theorem tree?_recast (same : r.KeepsValues) (phrase : StmtPhrase part) :
    (phrase.recast r).tree? = phrase.tree? := by
  induction phrase with
  | none => rfl
  | assign name _ value =>
      rw [tree?, ← value.tree?_recast same, ← same name.token]
      rfl
  | assignField object _ field _ value =>
      rw [tree?, ← value.tree?_recast same, ← same object.token, ← same field.token]
      rfl
  | print _ value =>
      rw [tree?, ← value.tree?_recast same]
      rfl
  | assignment _ ih | single _ ih => exact ih
  | ifThen _ condition _ ih | whileLoop _ condition _ ih =>
      rw [tree?, ← condition.tree?_recast same, ← ih]
      rfl
  | ifElse _ condition _ _ _ ihThen ihElse =>
      rw [tree?, ← condition.tree?_recast same, ← ihThen, ← ihElse]
      rfl
  | forLoop _ _ _ _ condition _ _ _ _ ihInit ihIncrement ih =>
      rw [tree?, ← condition.tree?_recast same, ← ihInit, ← ihIncrement, ← ih]
      rfl
  | block _ _ _ ih =>
      rw [tree?, ← ih]
      rfl
  | more _ _ ihFirst ihOthers =>
      rw [tree?, ← ihFirst, ← ihOthers]
      rfl

theorem reach_recast (phrase : StmtPhrase part) (depth : Nat) :
    (phrase.recast r).reach depth = phrase.reach depth := by
  induction phrase generalizing depth with
  | none => rfl
  | assign _ _ value | assignField _ _ _ _ value => exact value.reach_recast (depth + 1)
  | print _ value => exact value.reach_recast (depth + 2)
  | assignment _ ih => exact ih (depth + 1)
  | block _ _ _ ih | single _ ih => exact ih depth
  | ifThen _ condition _ ih | whileLoop _ condition _ ih =>
      rw [reach, ← condition.reach_recast, ← ih]
      rfl
  | ifElse _ condition _ _ _ ihThen ihElse =>
      rw [reach, ← condition.reach_recast, ← ihThen, ← ihElse]
      rfl
  | forLoop _ _ _ _ condition _ _ _ _ ihInit ihIncrement ih =>
      rw [reach, ← condition.reach_recast, ← ihInit, ← ihIncrement, ← ih]
      rfl
  | more _ _ ihFirst ihOthers =>
      rw [reach, ← ihFirst, ← ihOthers]
      rfl

end StmtPhrase

end Kiss.Grammar
