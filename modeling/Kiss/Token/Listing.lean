import Kiss.Json
import Kiss.Text.Quoted
import Kiss.Token.Basic

/-!
# Listings of tokens

A token is shown on one line, by kind, value and position; the value only where the kind
leaves it open. As JSON it is an object with all its parts.
-/

namespace Kiss

namespace Token

/-- One token as a line of a listing, without the newline. -/
def text (token : Token) : String :=
  let value := if token.kind.hasFreeValue then Text.quoted token.value ++ ", " else ""
  "Token(" ++ token.kind.name ++ ", " ++ value ++ token.position.text ++ ")"

/-- The tokens of a text, one on each line. -/
def listing (tokens : List Token) : String :=
  String.join (tokens.map fun token => token.text ++ "\n")

/-- A token as a JSON object. -/
def toJson (token : Token) : Json :=
  .object
    [("token_type", .string token.kind.name),
     ("value", .string token.value),
     ("line", .natural token.position.line),
     ("column", .natural token.position.column)]

end Token

end Kiss
