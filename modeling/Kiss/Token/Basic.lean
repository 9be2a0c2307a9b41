import Kiss.Position

/-!
# Tokens

The vocabulary of the language: keywords, symbols, and the four kinds of token whose text is
free. A token carries its kind, its value and the position of its first character. The value
of a keyword or symbol is its spelling; that of a string is its text without quotes and
escapes, and that of a hexadecimal number leaves out the leading hash.
-/

namespace Kiss

/-- The reserved words. -/
inductive Keyword where
  | printWord
  | ifWord
  | elseWord
  | whileWord
  | forWord
  | trueWord
  | falseWord
  deriving DecidableEq, Repr

namespace Keyword

/-- All keywords. -/
def all : List Keyword :=
  [.printWord, .ifWord, .elseWord, .whileWord, .forWord, .trueWord, .falseWord]

/-- The spelling of a keyword. -/
def lexeme : Keyword → String
  | .printWord => "print"
  | .ifWord => "if"
  | .elseWord => "else"
  | .whileWord => "while"
  | .forWord => "for"
  | .trueWord => "true"
  | .falseWord => "false"

/-- The keyword with a given spelling; every other word is an ordinary one. -/
def ofWord? (word : String) : Option Keyword :=
  all.find? fun k => k.lexeme == word

/-- The name of a keyword in listings and messages. -/
def name : Keyword → String
  | .printWord => "Print"
  | .ifWord => "If"
  | .elseWord => "Else"
  | .whileWord => "While"
  | .forWord => "For"
  | .trueWord => "True"
  | .falseWord => "False"

end Keyword

/-- Operators and punctuation. -/
inductive Symbol where
  | plus
  | minus
  | star
  | slash
  | caret
  | equal
  | less
  | greater
  | lessOrEqual
  | greaterOrEqual
  | doubleAnd
  | doubleOr
  | singleAnd
  | singleOr
  | bang
  | leftParen
  | rightParen
  | leftBrace
  | rightBrace
  | assign
  | semicolon
  | dot
  deriving DecidableEq, Repr

namespace Symbol

/-- All symbols. -/
def all : List Symbol :=
  [.plus, .minus, .star, .slash, .caret, .equal, .less, .greater, .lessOrEqual,
   .greaterOrEqual, .doubleAnd, .doubleOr, .singleAnd, .singleOr, .bang, .leftParen,
   .rightParen, .leftBrace, .rightBrace, .assign, .semicolon, .dot]

/-- The spelling of a symbol. -/
def lexeme : Symbol → String
  | .plus => "+"
  | .minus => "-"
  | .star => "*"
  | .slash => "/"
  | .caret => "^"
  | .equal => "=="
  | .less => "<"
  | .greater => ">"
  | .lessOrEqual => "<="
  | .greaterOrEqual => ">="
  | .doubleAnd => "&&"
  | .doubleOr => "||"
  | .singleAnd => "&"
  | .singleOr => "|"
  | .bang => "!"
  | .leftParen => "("
  | .rightParen => ")"
  | .leftBrace => "\x7b"
  | .rightBrace => "\x7d"
  | .assign => "="
  | .semicolon => ";"
  | .dot => "."

/-- The symbol that two characters form together. -/
def ofPair? : Char → Char → Option Symbol
  | '=', '=' => some .equal
  | '<', '=' => some .lessOrEqual
  | '>', '=' => some .greaterOrEqual
  | '&', '&' => some .doubleAnd
  | '|', '|' => some .doubleOr
  | _, _ => none

/-- The symbol that a character forms by itself. -/
def ofChar? : Char → Option Symbol
  | '+' => some .plus
  | '-' => some .minus
  | '*' => some .star
  | '/' => some .slash
  | '^' => some .caret
  | '<' => some .less
  | '>' => some .greater
  | '&' => some .singleAnd
  | '|' => some .singleOr
  | '!' => some .bang
  | '(' => some .leftParen
  | ')' => some .rightParen
  | '\x7b' => some .leftBrace
  | '\x7d' => some .rightBrace
  | '=' => some .assign
  | ';' => some .semicolon
  | '.' => some .dot
  | _ => none

/-- The name of a symbol in listings and messages. -/
def name : Symbol → String
  | .plus => "Plus"
  | .minus => "Minus"
  | .star => "Star"
  | .slash => "Slash"
  | .caret => "Pow"
  | .equal => "Equal"
  | .less => "LowerThan"
  | .greater => "GreaterThan"
  | .lessOrEqual => "LowerOrEqual"
  | .greaterOrEqual => "GreaterOrEqual"
  | .doubleAnd => "And2"
  | .doubleOr => "Or2"
  | .singleAnd => "And"
  | .singleOr => "Or"
  | .bang => "Not"
  | .leftParen => "LParen"
  | .rightParen => "RParen"
  | .leftBrace => "LBrace"
  | .rightBrace => "RBrace"
  | .assign => "Assign"
  | .semicolon => "ForDelimiter"
  | .dot => "Dot"

end Symbol

/-- The kinds of token. The end of the input counts as a token of its own. -/
inductive TokenKind where
  | number
  | hexNumber
  | text
  | word
  | keyword (k : Keyword)
  | symbol (s : Symbol)
  | endOfInput
  deriving DecidableEq, Repr

namespace TokenKind

/-- All kinds of token. -/
def all : List TokenKind :=
  [.number, .hexNumber, .text, .word] ++ Keyword.all.map .keyword ++ Symbol.all.map .symbol ++
    [.endOfInput]

/-- The name of a kind in listings and messages. -/
def name : TokenKind → String
  | .number => "Number"
  | .hexNumber => "HexNumber"
  | .text => "StringText"
  | .word => "Word"
  | .keyword k => k.name
  | .symbol s => s.name
  | .endOfInput => "Eof"

/-- The kind with a given name. -/
def ofName? (name : String) : Option TokenKind :=
  all.find? fun kind => kind.name == name

/-- The only spelling of a kind, if it has just one. -/
def lexeme? : TokenKind → Option String
  | .keyword k => some k.lexeme
  | .symbol s => some s.lexeme
  | .number | .hexNumber | .text | .word | .endOfInput => none

/-- Whether tokens of a kind differ in their value. -/
def hasFreeValue : TokenKind → Bool
  | .number | .hexNumber | .text | .word => true
  | .keyword _ | .symbol _ | .endOfInput => false

/-- The kind of a word: a keyword, or an ordinary word. -/
def ofWord (word : String) : TokenKind :=
  match Keyword.ofWord? word with
  | some k => .keyword k
  | none => .word

end TokenKind

/-- One token of a source text. -/
structure Token where
  kind : TokenKind
  value : String
  position : Position
  deriving DecidableEq, Repr

/-- The token that ends a text, at the position behind its last character. -/
def Token.endOfInput (p : Position) : Token :=
  ⟨.endOfInput, "", p⟩

end Kiss
