import Kiss.Proofs.Number.Plain
import Kiss.Proofs.Source.Spelled
import Kiss.Proofs.Text.Delimited
import Kiss.Proofs.Text.Quoted
import Kiss.Syntax.Text

/-!
# The text of an expression determines the expression

Whatever stands behind the text of an expression, a blank or a closing parenthesis or nothing, the
expression can be told from the text, and so can the place where it ends (`Expr.eq_of_render`). The
first characters say of which kind an expression is; every binary operation has its parentheses, so
no part of it can be taken for another one.
-/

namespace Kiss

open Lexer (isWordStart isWordPart)
open Lexical
open Text (takeWhile_append_of_head dropWhile_append_of_head eq_of_append_of_head)

namespace Lexical

variable {rest : List Char}

theorem IsWord.all {word : List Char} (isWord : IsWord word) : ∀ c ∈ word, isWordPart c = true := by
  obtain ⟨c, others, rfl⟩ := List.exists_cons_of_ne_nil isWord.ne_nil
  exact List.forall_mem_cons.mpr ⟨isWordPart_of_isWordStart isWord.1, isWord.2⟩

theorem EndsToken.notWordPart (ends : EndsToken rest) : ∀ c ∈ rest.head?, isWordPart c = false := by
  intro c member
  rcases ends c member with rfl | rfl <;> decide

theorem notWordPart_point : ∀ c ∈ ('.' :: rest).head?, isWordPart c = false := by
  rintro c ⟨⟩
  decide

/-- A digit or a point. -/
def isNumberPart (c : Char) : Bool :=
  c.isDigit || c == '.'

theorem IsNumber.all {digits : List Char} (isNumber : IsNumber digits) :
    ∀ c ∈ digits, isNumberPart c = true := by
  intro c member
  rcases isNumber with row | ⟨whole, part, rfl, row, partRow⟩
  · simp [isNumberPart, row.2 c member]
  · simp only [List.mem_append, List.mem_cons] at member
    rcases member with member | rfl | member
    · simp [isNumberPart, row.2 c member]
    · rfl
    · simp [isNumberPart, partRow.2 c member]

theorem EndsToken.notNumberPart (ends : EndsToken rest) :
    ∀ c ∈ rest.head?, isNumberPart c = false := by
  intro c member
  rcases ends c member with rfl | rfl <;> decide

theorem IsName.eq_of_append {name other : String} {more : List Char} (isName : IsName name)
    (ends : ∀ c ∈ rest.head?, isWordPart c = false) (otherIsName : IsName other)
    (otherEnds : ∀ c ∈ more.head?, isWordPart c = false)
    (same : name.toList ++ rest = other.toList ++ more) : name = other ∧ rest = more := by
  obtain ⟨names, behind⟩ :=
    eq_of_append_of_head isName.1.all ends otherIsName.1.all otherEnds same
  exact ⟨String.toList_inj.mp names, behind⟩

theorem IsName.isLine {name : String} (isName : IsName name) : Text.IsLine name := by
  intro member
  exact absurd (isName.1.all _ member) (by decide)

theorem endsToken_nil : EndsToken [] := by
  simp [EndsToken]

theorem endsToken_blank : EndsToken (' ' :: rest) := by
  simp [EndsToken]

theorem endsToken_paren : EndsToken (')' :: rest) := by
  simp [EndsToken]

theorem IsName.ne_truth {name : String} (isName : IsName name) :
    ¬(name.toList = "true".toList ∨ name.toList = "false".toList) := by
  rintro (same | same)
  · exact isName.2 .trueWord (String.toList_inj.mp same).symm
  · exact isName.2 .falseWord (String.toList_inj.mp same).symm

end Lexical

section Operators

variable {rest more : List Char}

theorem BinaryOp.symbol_injective : Function.Injective BinaryOp.symbol := by
  rintro (op | op | op) (other | other | other) same <;> cases op <;> cases other <;>
    first | rfl | exact absurd same (by decide)

theorem BinaryOp.notBlank_symbol (op : BinaryOp) : ∀ c ∈ op.symbol.toList, (c != ' ') = true := by
  have all : op.symbol.toList.all (· != ' ') = true := by
    rcases op with op | op | op <;> cases op <;> decide
  exact List.all_eq_true.mp all

/-- An operator ends at the blank behind it. -/
theorem BinaryOp.eq_of_symbol_append {op other : BinaryOp}
    (same : op.symbol.toList ++ ' ' :: rest = other.symbol.toList ++ ' ' :: more) :
    op = other ∧ rest = more := by
  have blank (cs : List Char) : ∀ c ∈ (' ' :: cs).head?, (c != ' ') = false := by
    rintro c ⟨⟩
    rfl
  obtain ⟨symbols, behind⟩ := eq_of_append_of_head op.notBlank_symbol (blank rest)
    other.notBlank_symbol (blank more) same
  exact ⟨BinaryOp.symbol_injective (String.toList_inj.mp symbols), (List.cons.inj behind).2⟩

theorem UnaryOp.eq_of_symbol_append {op other : UnaryOp}
    (same : op.symbol.toList ++ rest = other.symbol.toList ++ more) : op = other ∧ rest = more := by
  cases op <;> cases other <;> simp [symbol] at same ⊢ <;> exact same

end Operators

/-- The kinds of expressions. -/
inductive ExprKind where
  | number
  | text
  | bool
  | emptyObject
  | var
  | field
  | unary
  | binary
  deriving DecidableEq

namespace Expr

/-- The kind of an expression. -/
def kind : Expr → ExprKind
  | .number _ => .number
  | .text _ => .text
  | .bool _ => .bool
  | .emptyObject => .emptyObject
  | .var _ => .var
  | .field _ _ => .field
  | .unary _ _ => .unary
  | .binary _ _ _ => .binary

/-- The kind of an expression whose text begins with a word, by that word and by what comes behind
    it. -/
def wordKind (word rest : List Char) : ExprKind :=
  if word = "true".toList ∨ word = "false".toList then .bool
  else if rest.head? = some '.' then .field
  else .var

/-- The kind of the expression whose text stands at the front. -/
def kindAt : List Char → ExprKind
  | [] => .var
  | c :: cs =>
      if c = '"' then .text
      else if c = '\x7b' then .emptyObject
      else if c = '(' then .binary
      else if c = '-' ∨ c = '!' then .unary
      else if c.isDigit then .number
      else wordKind ((c :: cs).takeWhile isWordPart) ((c :: cs).dropWhile isWordPart)

variable {rest more : List Char}

theorem kindAt_number {digits : List Char} (isNumber : IsNumber digits) :
    kindAt (digits ++ rest) = .number := by
  obtain ⟨c, others, rfl⟩ := List.exists_cons_of_ne_nil isNumber.ne_nil
  have digit := isNumber.front rfl
  have special : c ∉ ['"', '\x7b', '(', '-', '!'] := by
    intro member
    simp only [List.mem_cons, List.not_mem_nil, or_false] at member
    rcases member with rfl | rfl | rfl | rfl | rfl <;> exact absurd digit (by decide)
  simp only [List.mem_cons, List.not_mem_nil, or_false, not_or] at special
  simp [kindAt, special, digit]

theorem kindAt_word {word : List Char} (isWord : IsWord word)
    (ends : ∀ c ∈ rest.head?, isWordPart c = false) :
    kindAt (word ++ rest) = wordKind word rest := by
  have taken := takeWhile_append_of_head isWord.all ends
  have left := dropWhile_append_of_head isWord.all ends
  obtain ⟨c, others, rfl⟩ := List.exists_cons_of_ne_nil isWord.ne_nil
  have special : c ∉ ['"', '\x7b', '(', '-', '!'] := by
    intro member
    simp only [List.mem_cons, List.not_mem_nil, or_false] at member
    rcases member with rfl | rfl | rfl | rfl | rfl <;>
      exact absurd isWord.1 (by decide)
  have noDigit : c.isDigit = false := by
    refine Bool.eq_false_iff.mpr fun digit => ?_
    have starts := isWord.1
    rw [isWordStart_eq_false (toNat_lt_of_isDigit digit)] at starts
    cases starts
  simp only [List.mem_cons, List.not_mem_nil, or_false, not_or] at special
  rw [List.cons_append] at *
  simp [kindAt, special, noDigit, taken, left]

variable {e other : Expr}

theorem toList_render_field (object name : String) (rest : List Char) :
    (field object name).render.toList ++ rest =
      object.toList ++ '.' :: (name.toList ++ rest) := by
  simp [render]

theorem toList_render_unary (op : UnaryOp) (operand : Expr) (rest : List Char) :
    (unary op operand).render.toList ++ rest =
      op.symbol.toList ++ (operand.render.toList ++ rest) := by
  simp [render]

theorem toList_render_binary (op : BinaryOp) (left right : Expr) (rest : List Char) :
    (binary op left right).render.toList ++ rest =
      '(' :: (left.render.toList ++
        ' ' :: (op.symbol.toList ++ ' ' :: (right.render.toList ++ ')' :: rest))) := by
  simp [render]

/-- The text of an expression tells its kind. -/
theorem kindAt_render (spelled : e.IsSpelled Number.IsMagnitude) (ends : EndsToken rest) :
    kindAt (e.render.toList ++ rest) = e.kind := by
  cases e with
  | number x => exact kindAt_number (Number.exists_readDecimal_plain spelled).1
  | text value =>
      rw [render, Text.toList_quoted]
      rfl
  | bool value =>
      cases value with
      | true => exact kindAt_word (isWord_lexeme .trueWord) ends.notWordPart
      | false => exact kindAt_word (isWord_lexeme .falseWord) ends.notWordPart
  | emptyObject => rfl
  | var name =>
      have noPoint : rest.head? ≠ some '.' := fun point => by
        rcases ends '.' point with equal | equal <;> cases equal
      rw [render, kindAt_word spelled.1 ends.notWordPart, wordKind, if_neg spelled.ne_truth,
        if_neg noPoint]
      rfl
  | field object name =>
      rw [toList_render_field, kindAt_word spelled.1.1 notWordPart_point, wordKind,
        if_neg spelled.1.ne_truth]
      rfl
  | unary op operand => cases op <;> simp [render, UnaryOp.symbol, kindAt, kind]
  | binary =>
      rw [toList_render_binary]
      rfl

theorem kind_eq_of_render (spelled : e.IsSpelled Number.IsMagnitude)
    (otherSpelled : other.IsSpelled Number.IsMagnitude) (ends : EndsToken rest)
    (otherEnds : EndsToken more)
    (same : e.render.toList ++ rest = other.render.toList ++ more) : e.kind = other.kind := by
  rw [← kindAt_render spelled ends, same, kindAt_render otherSpelled otherEnds]

/-- The expression and its end can be told from its text. -/
theorem eq_of_render (spelled : e.IsSpelled Number.IsMagnitude)
    (otherSpelled : other.IsSpelled Number.IsMagnitude) (ends : EndsToken rest)
    (otherEnds : EndsToken more)
    (same : e.render.toList ++ rest = other.render.toList ++ more) : e = other ∧ rest = more := by
  -- the texts tell the kind, so only the other expressions with the same constructor are left
  induction e generalizing other rest more with
  | number x =>
      cases other with
      | number y =>
          obtain ⟨texts, rfl⟩ := eq_of_append_of_head
            (Number.exists_readDecimal_plain spelled).1.all ends.notNumberPart
            (Number.exists_readDecimal_plain otherSpelled).1.all otherEnds.notNumberPart same
          rw [Number.plain_inj spelled otherSpelled (String.toList_inj.mp texts)]
          exact ⟨rfl, rfl⟩
      | _ => cases kind_eq_of_render spelled otherSpelled ends otherEnds same
  | text value =>
      cases other with
      | text otherValue =>
          obtain ⟨rfl, rfl⟩ := Text.eq_of_quoted_append same
          exact ⟨rfl, rfl⟩
      | _ => cases kind_eq_of_render spelled otherSpelled ends otherEnds same
  | bool value =>
      cases other with
      | bool otherValue =>
          cases value <;> cases otherValue <;> simp [render] at same ⊢ <;> exact same
      | _ => cases kind_eq_of_render spelled otherSpelled ends otherEnds same
  | emptyObject =>
      cases other with
      | emptyObject => exact ⟨rfl, List.append_cancel_left same⟩
      | _ => cases kind_eq_of_render spelled otherSpelled ends otherEnds same
  | var name =>
      cases other with
      | var otherName =>
          obtain ⟨rfl, rfl⟩ := IsName.eq_of_append spelled ends.notWordPart otherSpelled
            otherEnds.notWordPart same
          exact ⟨rfl, rfl⟩
      | _ => cases kind_eq_of_render spelled otherSpelled ends otherEnds same
  | field object name =>
      cases other with
      | field otherObject otherName =>
          rw [toList_render_field, toList_render_field] at same
          obtain ⟨rfl, behind⟩ := IsName.eq_of_append spelled.1 notWordPart_point otherSpelled.1
            notWordPart_point same
          obtain ⟨rfl, rfl⟩ := IsName.eq_of_append spelled.2 ends.notWordPart otherSpelled.2
            otherEnds.notWordPart (List.cons.inj behind).2
          exact ⟨rfl, rfl⟩
      | _ => cases kind_eq_of_render spelled otherSpelled ends otherEnds same
  | unary op operand ih =>
      cases other with
      | unary otherOp otherOperand =>
          have operandSpelled : operand.IsSpelled Number.IsMagnitude := spelled
          have otherOperandSpelled : otherOperand.IsSpelled Number.IsMagnitude := otherSpelled
          rw [toList_render_unary, toList_render_unary] at same
          obtain ⟨rfl, behind⟩ := UnaryOp.eq_of_symbol_append same
          obtain ⟨rfl, rfl⟩ := ih operandSpelled otherOperandSpelled ends otherEnds behind
          exact ⟨rfl, rfl⟩
      | _ => cases kind_eq_of_render spelled otherSpelled ends otherEnds same
  | binary op left right ihLeft ihRight =>
      cases other with
      | binary otherOp otherLeft otherRight =>
          rw [toList_render_binary, toList_render_binary] at same
          obtain ⟨rfl, behind⟩ := ihLeft spelled.1 otherSpelled.1 endsToken_blank endsToken_blank
            (List.cons.inj same).2
          obtain ⟨rfl, rights⟩ := BinaryOp.eq_of_symbol_append (List.cons.inj behind).2
          obtain ⟨rfl, closed⟩ := ihRight spelled.2 otherSpelled.2 endsToken_paren endsToken_paren
            rights
          exact ⟨rfl, (List.cons.inj closed).2⟩
      | _ => cases kind_eq_of_render spelled otherSpelled ends otherEnds same

/-- The text of an expression determines the expression. -/
theorem render_inj (spelled : e.IsSpelled Number.IsMagnitude)
    (otherSpelled : other.IsSpelled Number.IsMagnitude) (same : e.render = other.render) :
    e = other :=
  (eq_of_render spelled otherSpelled endsToken_nil endsToken_nil (by rw [same])).1

/-- The text of an expression stays on one line. -/
theorem IsSpelled.isLine_render (spelled : e.IsSpelled Number.IsMagnitude) :
    Text.IsLine e.render := by
  induction e with
  | number x =>
      intro member
      have part := (Number.exists_readDecimal_plain spelled).1.all _ member
      exact absurd part (by decide)
  | text value => exact Text.newline_notMem_quoted value
  | bool value => cases value <;> decide
  | emptyObject => decide
  | var name => exact spelled.isLine
  | field object name => exact (spelled.1.isLine.append (by decide)).append spelled.2.isLine
  | unary op operand ih =>
      refine Text.IsLine.append ?_ (ih spelled)
      cases op <;> decide
  | binary op left right ihLeft ihRight =>
      have isSymbol : Text.IsLine op.symbol := by
        rcases op with op | op | op <;> cases op <;> decide
      have blank : Text.IsLine " " := by decide
      have opening : Text.IsLine "(" := by decide
      have closing : Text.IsLine ")" := by decide
      have beforeRight :=
        (((opening.append (ihLeft spelled.1)).append blank).append isSymbol).append blank
      exact (beforeRight.append (ihRight spelled.2)).append closing

end Expr

end Kiss
