import Kiss.Proofs.Depth.Closed
import Kiss.Proofs.Grammar.Acceptance
import Kiss.Proofs.Grammar.Faults
import Kiss.Proofs.Lexical.RoundTrip
import Kiss.Proofs.Number.Hexadecimal
import Kiss.Proofs.Source.Concatenation

/-!
# Numerals and what they become

The numerals of a text are cut out by one set of rules and read by another. The two agree: every
decimal that is cut out is read, and of the hexadecimal numerals just those are refused whose value
does not fit a word. What a program holds in its tree are the numbers that its numerals denote, one
for each and in the same order (`readings_tokens`).
-/

namespace Kiss

open Lexical (IsNumber IsRow)

/-- Tokens of this kind denote numbers. -/
@[simp]
def TokenKind.isNumeral : TokenKind → Bool
  | .number | .hexNumber => true
  | .text | .word | .keyword _ | .symbol _ | .endOfInput => false

namespace Token

/-- The number for which a numeral is read, if it is read as one. -/
def number? (t : Token) : Option Float :=
  match t.kind with
  | .number => Number.read? t.value
  | .hexNumber => (Number.readHex? t.value).map Number.ofInt
  | _ => none

/-- A numeral denotes a number: it is a decimal and read as the number, or it is a row of
    hexadecimal digits whose value fits a word and is widened to the number. -/
def Denotes (t : Token) (x : Float) : Prop :=
  t.kind = .number ∧ IsNumber t.value.toList ∧ Number.read? t.value = some x ∨
    t.kind = .hexNumber ∧ IsRow Number.isHexDigit t.value.toList ∧
      Number.hexValue t.value < 2 ^ 63 ∧ x = Number.ofInt (Number.hexValue t.value)

variable {t : Token} {x : Float}

theorem IsWellFormed.denotes (wellFormed : t.IsWellFormed) (read : t.number? = some x) :
    t.Denotes x := by
  obtain ⟨kind, value, position⟩ := t
  cases kind with
  | number => exact .inl ⟨rfl, wellFormed, read⟩
  | hexNumber =>
      obtain ⟨n, found, rfl⟩ := Option.map_eq_some_iff.mp read
      obtain ⟨fits, rfl⟩ := (Number.readHex?_eq_some wellFormed).mp found
      exact .inr ⟨rfl, wellFormed, fits, rfl⟩
  | text | word | keyword | symbol | endOfInput => cases read

/-- What a numeral denotes has no sign. -/
theorem Denotes.isUnsigned (denotes : t.Denotes x) : Number.IsUnsigned x := by
  rcases denotes with ⟨_, isNumber, read⟩ | ⟨_, _, _, rfl⟩
  · obtain ⟨other, same, unsigned⟩ := Number.exists_read?_of_isNumber isNumber
    rw [read, Option.some.injEq] at same
    exact same ▸ unsigned
  · exact Number.isUnsigned_ofInt (Int.natCast_nonneg _)

/-- Of the numerals that are cut out only hexadecimal ones are refused, for being too large. -/
theorem IsWellFormed.of_isRefusedFor {cause : ParseCause} (wellFormed : t.IsWellFormed)
    (refused : t.IsRefusedFor cause) :
    cause = .invalidHexNumber ∧ t.kind = .hexNumber ∧ 2 ^ 63 ≤ Number.hexValue t.value := by
  obtain ⟨kind, value, position⟩ := t
  cases cause with
  | invalidNumber =>
      obtain ⟨isNumber, unread⟩ := refused
      cases isNumber
      obtain ⟨x, read, _⟩ := Number.exists_read?_of_isNumber wellFormed
      rw [read] at unread
      cases unread
  | invalidHexNumber =>
      obtain ⟨isHex, unread⟩ := refused
      cases isHex
      exact ⟨rfl, rfl, (Number.readHex?_eq_none wellFormed).mp unread⟩
  | tooDeep | unclosedBlock | unknownStatement | unknownExpression | expected => exact refused.elim

end Token

namespace ParseError

variable {e : ParseError}

theorem invalidNumber_prefix_text :
    "Invalid number literal".toList <+: e.text.toList ↔ e.cause = .invalidNumber := by
  obtain ⟨cause, t⟩ := e
  cases cause <;> simp [text]

theorem invalidHexNumber_prefix_text :
    "Invalid hex literal".toList <+: e.text.toList ↔ e.cause = .invalidHexNumber := by
  obtain ⟨cause, t⟩ := e
  cases cause <;> simp [text]

end ParseError

/-- The numbers in an expression, from left to right. -/
@[simp]
def Expr.numbers : Expr → List Float
  | .number x => [x]
  | .text _ | .bool _ | .emptyObject | .var _ | .field _ _ => []
  | .unary _ operand => operand.numbers
  | .binary _ left right => left.numbers ++ right.numbers

namespace Stmt

mutual

/-- The numbers in a statement in the order in which they are written. -/
@[simp]
def numbers : Stmt → List Float
  | .print value => value.numbers
  | .assign _ value => value.numbers
  | .assignField _ _ value => value.numbers
  | .block statements => numbersOf statements
  | .branch condition thenBranch none => condition.numbers ++ numbers thenBranch
  | .branch condition thenBranch (some elseBranch) =>
      condition.numbers ++ (numbers thenBranch ++ numbers elseBranch)
  | .whileLoop condition body => condition.numbers ++ numbers body
  | .forLoop init condition increment body =>
      numbers init ++ (condition.numbers ++ (numbers increment ++ numbers body))

/-- The numbers in several statements. -/
@[simp]
def numbersOf : List Stmt → List Float
  | [] => []
  | first :: rest => numbers first ++ numbersOf rest

end

end Stmt

namespace Grammar

/-- What the numerals among some tokens are read for, in order. -/
def readings (ts : List Token) : List (Option Float) :=
  (ts.filter fun t => t.kind.isNumeral).map Token.number?

@[simp]
theorem readings_nil : readings [] = [] := rfl

@[simp]
theorem readings_append (ts us : List Token) :
    readings (ts ++ us) = readings ts ++ readings us := by
  simp [readings]

/-- What is no numeral is passed over. -/
@[simp]
theorem readings_cons {kind : TokenKind} (t : Terminal kind) (ts : List Token) :
    readings (t.token :: ts) =
      if kind.isNumeral then t.token.number? :: readings ts else readings ts := by
  rw [readings, List.filter_cons, t.hasKind]
  split
  · rfl
  · rfl

/-- The tree of a pair has the numbers of both sides. -/
theorem readings_pair {op : BinaryOp} {symbol : Symbol} {left right : List Token}
    {leftTree rightTree : Option Expr} {e : Expr} (operator : Terminal (.symbol symbol))
    (ofLeft : ∀ l, leftTree = some l → readings left = l.numbers.map some)
    (ofRight : ∀ r, rightTree = some r → readings right = r.numbers.map some)
    (found : ExprPhrase.pair op leftTree rightTree = some e) :
    readings (left ++ operator.token :: right) = e.numbers.map some := by
  simp only [ExprPhrase.pair, Option.bind_eq_some_iff, Option.map_eq_some_iff] at found
  obtain ⟨l, leftFound, r, rightFound, rfl⟩ := found
  simp [ofLeft l leftFound, ofRight r rightFound]

theorem ExprPhrase.tree?_number (numeral : Terminal .number) :
    (number numeral).tree? = numeral.token.number?.map .number := by
  rw [tree?, Token.number?, numeral.hasKind]

theorem ExprPhrase.tree?_hexNumber (numeral : Terminal .hexNumber) :
    (hexNumber numeral).tree? = numeral.token.number?.map .number := by
  rw [tree?, Token.number?, numeral.hasKind, Option.map_map]
  rfl

/-- The numbers in the tree of an expression are those of its numerals. -/
theorem ExprPhrase.readings_tokens {part : ExprPart} (phrase : ExprPhrase part) {e : Expr}
    (found : phrase.tree? = some e) : readings phrase.tokens = e.numbers.map some := by
  induction phrase generalizing e with
  | number numeral =>
      obtain ⟨x, read, rfl⟩ := Option.map_eq_some_iff.mp ((tree?_number numeral).symm.trans found)
      simp [read]
  | hexNumber numeral =>
      obtain ⟨x, read, rfl⟩ :=
        Option.map_eq_some_iff.mp ((tree?_hexNumber numeral).symm.trans found)
      simp [read]
  | text | trueWord | falseWord | var | field | emptyObject =>
      cases found
      simp
  | group left inner right ih => simpa using ih found
  | bare inner ih | operand inner ih | whole inner ih => exact ih found
  | positive sign inner ih => simpa using ih found
  | negated sign inner ih | inverted sign inner ih =>
      obtain ⟨operand, operandFound, rfl⟩ := Option.map_eq_some_iff.mp found
      simpa using ih operandFound
  | joined op left operator joins right ihLeft ihRight =>
      exact readings_pair operator (fun _ => ihLeft) (fun _ => ihRight) found
  | strictOr left operator right ihLeft ihRight | strictAnd left operator right ihLeft ihRight =>
      exact readings_pair operator (fun _ => ihLeft) (fun _ => ihRight) found

/-- The numbers in the tree of a part of a program are those of its numerals. -/
theorem StmtPhrase.readings_tokens {part : StmtPart} (phrase : StmtPhrase part) {tree : part.Tree}
    (found : phrase.tree? = some tree) :
    readings phrase.tokens = (Stmt.numbersOf (part.stmts tree)).map some := by
  induction phrase with
  | assign _ _ value | assignField _ _ _ _ value | print _ value =>
      obtain ⟨e, valueFound, rfl⟩ := Option.map_eq_some_iff.mp found
      simp [value.readings_tokens valueFound]
  | assignment inner ih | single inner ih => exact ih found
  | ifThen _ condition thenBody ih =>
      simp only [tree?, Option.bind_eq_some_iff, Option.map_eq_some_iff] at found
      obtain ⟨conditionTree, conditionFound, thenTree, thenFound, rfl⟩ := found
      simp [condition.readings_tokens conditionFound, ih thenFound]
  | ifElse _ condition thenBody _ elseBody ihThen ihElse =>
      simp only [tree?, Option.bind_eq_some_iff, Option.map_eq_some_iff] at found
      obtain ⟨conditionTree, conditionFound, thenTree, thenFound, elseTree, elseFound, rfl⟩ := found
      simp [condition.readings_tokens conditionFound, ihThen thenFound, ihElse elseFound]
  | whileLoop _ condition inner ih =>
      simp only [tree?, Option.bind_eq_some_iff, Option.map_eq_some_iff] at found
      obtain ⟨conditionTree, conditionFound, innerTree, innerFound, rfl⟩ := found
      simp [condition.readings_tokens conditionFound, ih innerFound]
  | forLoop _ _ init _ condition _ increment _ inner ihInit ihIncrement ih =>
      simp only [tree?, Option.bind_eq_some_iff, Option.map_eq_some_iff] at found
      obtain ⟨initTree, initFound, conditionTree, conditionFound, incrementTree, incrementFound,
        innerTree, innerFound, rfl⟩ := found
      simp [ihInit initFound, condition.readings_tokens conditionFound, ihIncrement incrementFound,
        ih innerFound]
  | block _ inner _ ih =>
      obtain ⟨trees, treesFound, rfl⟩ := Option.map_eq_some_iff.mp found
      simp [ih treesFound]
  | none =>
      cases found
      rfl
  | more first others ihFirst ihOthers =>
      simp only [tree?, Option.bind_eq_some_iff, Option.map_eq_some_iff] at found
      obtain ⟨firstTree, firstFound, trees, treesFound, rfl⟩ := found
      simp [ihFirst firstFound, ihOthers treesFound]

variable {source : String} {ts : List Token}

/-- What a text is cut into are well-formed tokens and its end, which is none of them. -/
theorem wellFormed_of_mem_body (read : tokenize source = .ok ts) :
    ∀ t ∈ body ts, t.IsWellFormed := by
  intro t member
  have noEnd : t.kind ≠ .endOfInput := by simpa using List.mem_takeWhile_imp member
  exact Lexical.isWellFormed_of_tokenize read t ((List.takeWhile_sublist _).mem member) noEnd

/-- No numeral stands behind the end of a text. -/
theorem numerals_body (read : tokenize source = .ok ts) :
    ((body ts).filter fun t => t.kind.isNumeral) = ts.filter fun t => t.kind.isNumeral := by
  obtain ⟨pieces, last, _, isCut, rfl⟩ := Lexical.exists_isCut_of_tokenize read
  rw [Lexical.cutTokens, body_append (List.forall_mem_map.mpr isCut.kind_ne_endOfInput),
    List.filter_append, List.filter_append]
  rfl

/-- The numerals of a text denote the numbers in the tree of its program, one by one. -/
theorem denotes_of_parse (read : tokenize source = .ok ts) {tree : Stmt}
    (accepted : parse ts = .ok tree) :
    List.Forall₂ Token.Denotes (ts.filter fun t => t.kind.isNumeral) tree.numbers := by
  obtain ⟨program, same, found⟩ := exists_program_of_parse accepted
  obtain ⟨trees, treesFound, rfl⟩ := Option.map_eq_some_iff.mp found
  have readings := program.readings_tokens treesFound
  rw [same, Grammar.readings, ← List.forall₂_eq_eq_eq, List.forall₂_map_left_iff,
    List.forall₂_map_right_iff] at readings
  have wellFormed : ∀ t ∈ (body ts).filter (fun t => t.kind.isNumeral), t.IsWellFormed :=
    fun t member => wellFormed_of_mem_body read t (List.mem_of_mem_filter member)
  rw [← numerals_body read]
  have both := (List.forall₂_and_left _ _).mpr ⟨wellFormed, readings⟩
  exact both.imp fun t x both => both.1.denotes both.2

/-- What is said to lie in a literal lies in a hexadecimal numeral of the text that is too large. -/
theorem invalidHexNumber_of_parse (read : tokenize source = .ok ts) {e : ParseError}
    (failed : parse ts = .error e) (literal : e.cause.IsLiteral) :
    e.cause = .invalidHexNumber ∧ e.token ∈ ts ∧ e.token.kind = .hexNumber ∧
      2 ^ 63 ≤ Number.hexValue e.token.value := by
  obtain ⟨fault, rest, reached, result, rfl⟩ := exists_fault failed
  have blames := program_blames 0 [] ts
  rw [result] at blames
  obtain ⟨t, front, refused⟩ := blames literal
  obtain ⟨others, place⟩ := List.head?_eq_some_iff.mp front
  obtain ⟨taken, _, same, _⟩ := begins_program result
  have member : t ∈ ts := by
    rw [← same, place]
    simp
  have wellFormed := Lexical.isWellFormed_of_tokenize read t member refused.kind_ne_endOfInput
  rw [place, List.headD_cons]
  obtain ⟨cause, kind, large⟩ := wellFormed.of_isRefusedFor refused
  exact ⟨cause, member, kind, large⟩

end Grammar

open Grammar (denotes_of_parse invalidHexNumber_of_parse)

end Kiss
