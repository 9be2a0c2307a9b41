import Kiss.Parser.Stmt

/-!
# Parsers

A parser holds the tokens that are left and the depth that is counted, so that it can read
one program after another from the same tokens. A program ends at an end of input among the
tokens or behind the last of them. A failure leaves the parser where reading stopped, with
all levels counted that had not been left by then.
-/

namespace Kiss

/-- A parser between two programs. Behind the last token it sees `sentinel`. -/
structure Parser where
  rest : List Token
  sentinel : Token
  depth : Nat
  deriving DecidableEq, Repr

namespace Parser

/-- A parser of the given tokens. Its sentinel stands where the last token stands. -/
def ofTokens (tokens : List Token) : Parser :=
  { rest := tokens
    sentinel := Token.endOfInput ((tokens.getLast?.map (·.position)).getD .start)
    depth := 0 }

/-- Reads one program. -/
def parse (p : Parser) : Except ParseError Stmt × Parser :=
  match program p.depth [] p.rest with
  | .ok tree rest => (.ok tree, { p with rest })
  | .fail fault rest depth =>
      (.error ⟨fault.cause, fault.place.headD p.sentinel⟩, { p with rest, depth })

end Parser

/-- Reads the first program among some tokens. -/
def parse (tokens : List Token) : Except ParseError Stmt :=
  (Parser.ofTokens tokens).parse.1

end Kiss
