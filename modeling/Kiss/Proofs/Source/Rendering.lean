import Kiss.Proofs.Grammar.Operation
import Kiss.Proofs.Lexical.Writing
import Kiss.Syntax.Text

/-!
# Reading the text of an expression

The text of an expression has every binary operation in parentheses, and so it is read back as
the expression it was made from (`exists_parse_render`). Two things are to be shown: that the
text falls apart into the tokens that were written, though only operators have blanks around
them; and that these tokens have a derivation whose levels stay within the limit. An operation
costs two levels, one for its parentheses and one for its right operand.
-/

namespace Kiss

open Lexical

namespace Expr

/-- The expressions whose text can be read back: names are names, the texts have plain characters
    only, a number is read back from the digits that it is written with, and no sign stands
    directly behind another one. -/
def ReadsBack : Expr → Prop
  | .number value =>
      IsNumber (Number.plain value).toList ∧ Number.read? (Number.plain value) = some value
  | .text value => ∀ c ∈ value.toList, IsPlain c
  | .bool _ => True
  | .emptyObject => True
  | .var name => IsName name
  | .field object name => IsName object ∧ IsName name
  | .unary _ operand => (∀ op inner, operand ≠ .unary op inner) ∧ operand.ReadsBack
  | .binary _ left right => left.ReadsBack ∧ right.ReadsBack

/-- The greatest number of binary operations on a path. -/
def nesting : Expr → Nat
  | .unary _ operand => operand.nesting
  | .binary _ left right => max left.nesting right.nesting + 1
  | _ => 0

/-- The tokens that the text of an expression is made of, behind a gap. -/
def marks (gap : List Char) : Expr → List Mark
  | .number value => [⟨gap, .number, Number.plain value, (Number.plain value).toList⟩]
  | .text value => [⟨gap, .text, value, (Text.quoted value).toList⟩]
  | .bool value => [.ofKeyword gap (if value then .trueWord else .falseWord)]
  | .emptyObject => [.ofSymbol gap .leftBrace, .ofSymbol [] .rightBrace]
  | .var name => [.ofWord gap name]
  | .field object name => [.ofWord gap object, .ofSymbol [] .dot, .ofWord [] name]
  | .unary op operand => .ofSymbol gap op.sign :: operand.marks []
  | .binary op left right =>
      .ofSymbol gap .leftParen :: (left.marks [] ++
        .ofSymbol [' '] op.sign :: (right.marks [' '] ++ [.ofSymbol [] .rightParen]))

/-- The tokens of an expression make up its text. -/
theorem marksText_marks (e : Expr) (gap rest : List Char) :
    marksText (e.marks gap) rest = gap ++ e.render.toList ++ rest := by
  induction e generalizing gap rest with
  | number | text | var => simp [marks, marksText, render, Mark.ofWord]
  | bool value => cases value <;> simp [marks, marksText, render, Mark.ofKeyword, Keyword.lexeme]
  | emptyObject => simp [marks, marksText, render, Mark.ofSymbol, Symbol.lexeme]
  | field => simp [marks, marksText, render, Mark.ofSymbol, Mark.ofWord, Symbol.lexeme]
  | unary op operand ih =>
      simp [marks, marksText, render, Mark.ofSymbol, ih, UnaryOp.lexeme_sign]
  | binary op left right ihLeft ihRight =>
      have opening : Symbol.leftParen.lexeme = "(" := rfl
      have closing : Symbol.rightParen.lexeme = ")" := rfl
      simp [marks, marksText, render, Mark.ofSymbol, ihLeft, ihRight, BinaryOp.lexeme_sign, opening,
        closing]

section Written

variable {gap rest : List Char}

/-- The text of an expression may stand in front of what ends an operand. -/
theorem areWritten_marks {e : Expr} (reads : e.ReadsBack) (isGap : ∀ rest, Gap gap rest)
    (ends : EndsToken rest) : AreWritten (e.marks gap) rest := by
  induction e generalizing gap rest with
  | number value =>
      have spells := Spells.number reads.1
      rw [String.ofList_toList] at spells
      exact ⟨Mark.isWritten_of_ends isGap spells ends, trivial⟩
  | text value =>
      rw [ReadsBack] at reads
      exact ⟨Mark.isWritten_of_ends isGap (spells_quoted reads) ends, trivial⟩
  | bool value => exact ⟨Mark.isWritten_of_ends isGap (.keyword _) ends, trivial⟩
  | emptyObject =>
      exact ⟨Mark.isWritten_ofSymbol isGap (by simp),
        Mark.isWritten_ofSymbol (fun _ => .none) (by simp), trivial⟩
  | var name => exact ⟨Mark.isWritten_of_ends isGap (spells_name reads) ends, trivial⟩
  | field object name =>
      have dot : Lexer.isWordPart '.' = false := by decide
      have behind : marksText [.ofSymbol [] .dot, .ofWord [] name] rest =
          '.' :: (name.toList ++ rest) := by
        simp [marksText, Mark.ofSymbol, Mark.ofWord, Symbol.lexeme]
      have objectWritten : (Mark.ofWord gap object).IsWritten
          (marksText [.ofSymbol [] .dot, .ofWord [] name] rest) := by
        rw [behind]
        exact
          { isGap := isGap _
            spells := spells_name reads.1
            longest := reads.1.1.isLongest (by simp [dot])
            opensNoComment := fun _ => by simp }
      have nameWritten : (Mark.ofWord [] name).IsWritten rest :=
        Mark.isWritten_of_ends (fun _ => .none) (spells_name reads.2) ends
      exact ⟨objectWritten, Mark.isWritten_ofSymbol (fun _ => .none) (by simp), nameWritten,
        trivial⟩
  | unary op operand ih =>
      have alone : op.sign ∈
          [.minus, .bang, .leftParen, .rightParen, .leftBrace, .rightBrace, .dot] := by
        cases op <;> simp [UnaryOp.sign]
      exact ⟨Mark.isWritten_ofSymbol isGap alone, ih reads.2 (fun _ => .none) ends⟩
  | binary op left right ihLeft ihRight =>
      have noGap : ∀ rest, Gap [] rest := fun rest => .none
      refine ⟨Mark.isWritten_ofSymbol isGap (by simp), areWritten_append.mpr ⟨?_, ?_, ?_⟩⟩
      · exact ihLeft reads.1 noGap (by simp [EndsToken, marksText, Mark.ofSymbol])
      · refine Mark.isWritten_of_ends gap_blank (.symbol op.sign) ?_
        simp [EndsToken, marksText_marks]
      · refine areWritten_append.mpr ⟨?_, Mark.isWritten_ofSymbol noGap (by simp), trivial⟩
        have ends : EndsToken (marksText [.ofSymbol [] .rightParen] rest) := by
          simp [EndsToken, marksText, Mark.ofSymbol, Symbol.lexeme]
        exact ihRight reads.2 gap_blank ends

end Written

end Expr

open Grammar

/-- The tokens of the text of an expression have a derivation of it, as an operand, and unless a
    sign comes first also as what a sign may stand in front of. -/
theorem derives_of_content {e : Expr} (reads : e.ReadsBack) {gap : List Char} {ts : List Token}
    (same : ts.map Token.content = (e.marks gap).map Mark.content) :
    Derives .unary ts e (2 * e.nesting) ∧
      ((∀ op inner, e ≠ .unary op inner) → Derives .primary ts e (2 * e.nesting)) := by
  have ofPrimary {e : Expr} {ts : List Token} {free : Nat} (derives : Derives .primary ts e free) :
      Derives .unary ts e free ∧
        ((∀ op inner, e ≠ .unary op inner) → Derives .primary ts e free) :=
    ⟨derives.bare, fun _ => derives⟩
  induction e generalizing gap ts with
  | number value =>
      obtain ⟨t, rfl, isNumber⟩ := List.map_eq_singleton_iff.mp same
      have written : t.value = Number.plain value := congrArg Prod.snd isNumber
      refine ofPrimary ⟨.number ⟨t, congrArg Prod.fst isNumber⟩, rfl, ?_, fun _ => Nat.le_refl _⟩
      rw [ExprPhrase.tree?, written, reads.2]
      rfl
  | text value =>
      obtain ⟨t, rfl, isText⟩ := List.map_eq_singleton_iff.mp same
      have meant : t.value = value := congrArg Prod.snd isText
      refine ofPrimary ⟨.text ⟨t, congrArg Prod.fst isText⟩, rfl, ?_, fun _ => Nat.le_refl _⟩
      rw [ExprPhrase.tree?, meant]
  | bool value =>
      obtain ⟨t, rfl, isTruth⟩ := List.map_eq_singleton_iff.mp same
      cases value with
      | true =>
          exact ofPrimary
            ⟨.trueWord ⟨t, congrArg Prod.fst isTruth⟩, rfl, rfl, fun _ => Nat.le_refl _⟩
      | false =>
          exact ofPrimary
            ⟨.falseWord ⟨t, congrArg Prod.fst isTruth⟩, rfl, rfl, fun _ => Nat.le_refl _⟩
  | emptyObject =>
      obtain ⟨left, _, rfl, isLeft, rest⟩ := List.map_eq_cons_iff.mp same
      obtain ⟨right, rfl, isRight⟩ := List.map_eq_singleton_iff.mp rest
      exact ofPrimary
        ⟨.emptyObject ⟨left, congrArg Prod.fst isLeft⟩ ⟨right, congrArg Prod.fst isRight⟩, rfl,
          rfl, fun _ => Nat.le_refl _⟩
  | var name =>
      obtain ⟨t, rfl, isWord⟩ := List.map_eq_singleton_iff.mp same
      have named : t.value = name := congrArg Prod.snd isWord
      refine ofPrimary ⟨.var ⟨t, congrArg Prod.fst isWord⟩, rfl, ?_, fun _ => Nat.le_refl _⟩
      rw [ExprPhrase.tree?, named]
  | field object name =>
      obtain ⟨objectToken, _, rfl, isObject, rest⟩ := List.map_eq_cons_iff.mp same
      obtain ⟨dot, _, rfl, isDot, rest⟩ := List.map_eq_cons_iff.mp rest
      obtain ⟨nameToken, rfl, isName⟩ := List.map_eq_singleton_iff.mp rest
      have objectNamed : objectToken.value = object := congrArg Prod.snd isObject
      have named : nameToken.value = name := congrArg Prod.snd isName
      refine ofPrimary ⟨.field ⟨objectToken, congrArg Prod.fst isObject⟩
        ⟨dot, congrArg Prod.fst isDot⟩ ⟨nameToken, congrArg Prod.fst isName⟩, rfl, ?_,
        fun _ => Nat.le_refl _⟩
      rw [ExprPhrase.tree?, objectNamed, named]
  | unary op operand ih =>
      obtain ⟨t, others, rfl, sign, rest⟩ := List.map_eq_cons_iff.mp same
      have kind : t.kind = .symbol op.sign := congrArg Prod.fst sign
      have derives := (ih reads.2 rest).2 reads.1
      exact ⟨derives.signed kind, fun noSign => absurd rfl (noSign op operand)⟩
  | binary op left right ihLeft ihRight =>
      simp only [Expr.marks, List.map_cons, List.map_append] at same
      obtain ⟨opening, inside, rfl, isOpening, rest⟩ := List.map_eq_cons_iff.mp same
      obtain ⟨ts, more, rfl, leftSame, rest⟩ := List.map_eq_append_iff.mp rest
      obtain ⟨operator, more, rfl, isOperator, rest⟩ := List.map_eq_cons_iff.mp rest
      obtain ⟨others, more, rfl, rightSame, rest⟩ := List.map_eq_append_iff.mp rest
      obtain ⟨closing, rfl, isClosing⟩ := List.map_eq_singleton_iff.mp rest
      have leftDerives := (ihLeft reads.1 leftSame).1.mono
        (Nat.mul_le_mul_left 2 (Nat.le_max_left left.nesting right.nesting))
      have rightDerives := (ihRight reads.2 rightSame).1.mono
        (Nat.mul_le_mul_left 2 (Nat.le_max_right left.nesting right.nesting))
      have derives := (leftDerives.binary rightDerives (congrArg Prod.fst isOperator)).group
        (congrArg Prod.fst isOpening) (congrArg Prod.fst isClosing)
      rw [List.append_assoc] at derives
      exact ofPrimary derives

namespace Expr

/-- The text of a print statement falls apart into its word and the tokens of its expression. -/
theorem exists_tokenize_print {e : Expr} (reads : e.ReadsBack) :
    ∃ word ts p, tokenize ("print " ++ e.render) = .ok (word :: ts ++ [.endOfInput p]) ∧
      word.kind = .keyword .printWord ∧
      ts.map Token.content = (e.marks [' ']).map Mark.content := by
  have noGap : ∀ rest, Gap [] rest := fun rest => .none
  have wordWritten : (Mark.ofKeyword [] .printWord).IsWritten (marksText (e.marks [' ']) []) :=
    Mark.isWritten_of_ends noGap (.keyword _) (by simp [EndsToken, marksText_marks])
  have written : AreWritten (.ofKeyword [] .printWord :: e.marks [' ']) [] :=
    ⟨wordWritten, areWritten_marks reads gap_blank (by simp [EndsToken])⟩
  have text : ("print " ++ e.render).toList =
      marksText (.ofKeyword [] .printWord :: e.marks [' ']) [] := by
    simp [marksText, marksText_marks, Mark.ofKeyword, Keyword.lexeme]
  obtain ⟨all, p, read, same⟩ := exists_tokenize_of_written written text
  obtain ⟨word, ts, rfl, isPrint, others⟩ := List.map_eq_cons_iff.mp same
  exact ⟨word, ts, p, read, congrArg Prod.fst isPrint, others⟩

/-- Rendered expressions read back. The text of an expression whose names are names, whose texts
    have plain characters only, whose numbers are read back from their digits, in which no sign
    stands directly behind another one and at most 127 binary operations are nested, is read behind
    the word `print` as the statement that prints this expression. -/
theorem exists_parse_render {e : Expr} (reads : e.ReadsBack) (nested : e.nesting ≤ 127) :
    ∃ ts, tokenize ("print " ++ e.render) = .ok ts ∧ parse ts = .ok (.block [.print e]) := by
  obtain ⟨word, ts, p, read, isPrint, same⟩ := exists_tokenize_print reads
  refine ⟨_, read, ?_⟩
  obtain ⟨phrase, rfl, tree, reach⟩ := ((derives_of_content reads same).1.operand .sum).raise
  let program : Program := .more (.print ⟨word, isPrint⟩ phrase) .none
  have tokens : program.tokens = body (word :: phrase.tokens ++ [Token.endOfInput p]) := by
    have same : program.tokens = word :: phrase.tokens := by
      simp [program, StmtPhrase.tokens]
    rw [← same, body_append program.kind_ne_endOfInput, body_eq_nil rfl, List.append_nil]
  have found : blockTree? program = some (.block [.print e]) := by
    simp [program, blockTree?, StmtPhrase.tree?, tree]
  have fits : program.reach 0 ≤ maxDepth := by
    have le := reach (0 + 2)
    refine Nat.max_le.mpr ⟨?_, Nat.zero_le _⟩
    simp only [StmtPhrase.reach, maxDepth]
    omega
  rcases parse_of_program tokens found with ⟨_, accepted⟩ | ⟨beyond, _⟩
  · exact accepted
  · exact absurd fits beyond

/-- An expression of every kind, whose text is `(-1.5 + (!"\"\n" | (x.y ^ {})))`. -/
def sample : Expr :=
  .binary (.arithmetic .add) (.unary .negate (.number 1.5))
    (.binary (.logical .strictOr) (.unary .not (.text "\"\n"))
      (.binary (.arithmetic .xor) (.field "x" "y") .emptyObject))

/-- The text of an expression with a number, an escaped text, a field and signs is read back. -/
theorem exists_parse_render_sample :
    sample.ReadsBack ∧ sample.nesting ≤ 127 ∧
      ∃ ts, tokenize "print (-1.5 + (!\"\\\"\\n\" | (x.y ^ \x7b\x7d)))" = .ok ts ∧
        parse ts = .ok (.block [.print sample]) := by
  have isNumber : IsNumber (Number.plain 1.5).toList := by
    have written : (Number.plain 1.5).toList = ['1'] ++ '.' :: ['5'] := by decide
    exact .inr ⟨['1'], ['5'], written, by simp [IsRow], by simp [IsRow]⟩
  have isName : IsName "x" ∧ IsName "y" := by
    refine ⟨⟨⟨by decide, by simp⟩, ?_⟩, ⟨by decide, by simp⟩, ?_⟩ <;>
      intro k <;> cases k <;> decide
  have plain : ∀ c ∈ "\"\n".toList, IsPlain c := by
    simp [IsPlain]
  have reads : sample.ReadsBack :=
    ⟨⟨by simp, isNumber, by decide⟩, ⟨by simp, plain⟩, isName, trivial⟩
  have nested : sample.nesting ≤ 127 := by decide
  have text : "print " ++ sample.render = "print (-1.5 + (!\"\\\"\\n\" | (x.y ^ \x7b\x7d)))" := by
    decide
  rw [← text]
  exact ⟨reads, nested, exists_parse_render reads nested⟩

end Expr

end Kiss
