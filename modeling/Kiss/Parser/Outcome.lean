import Kiss.Text.Quoted
import Kiss.Token.Basic

/-!
# What reading a construct comes to

Every reading function takes the nesting depth at which it stands and the tokens that are
left. It succeeds with a value and the tokens behind it, at the depth at which it began; or
it fails with a fault, the tokens at which it stopped, and the depth that it had reached.
`Takes` says how many tokens a construct has at least; the lemmas on it follow the ways in
which constructs are put together.
-/

namespace Kiss

/-- The greatest depth to which constructs may nest. -/
def maxDepth : Nat := 256

/-- Why tokens are no program. -/
inductive ParseCause where
  | tooDeep
  | unclosedBlock
  | unknownStatement
  | unknownExpression
  | expected (kind : TokenKind)
  | invalidNumber
  | invalidHexNumber
  deriving DecidableEq, Repr

/-- The causes that lie in the text of a literal. -/
def ParseCause.IsLiteral (cause : ParseCause) : Prop :=
  cause = .invalidNumber ∨ cause = .invalidHexNumber

/-- A cause and the token at which it stands. -/
structure ParseError where
  cause : ParseCause
  token : Token
  deriving DecidableEq, Repr

namespace ParseError

/-- A token as it is named in messages. -/
def describe (token : Token) : String :=
  token.kind.name ++ " (" ++ Text.quoted token.value ++ ")"

/-- A kind of token as it is asked for: by its spelling, if it has just one. -/
def wanted (kind : TokenKind) : String :=
  match kind.lexeme? with
  | some lexeme => "'" ++ lexeme ++ "'"
  | none => kind.name

/-- The wording of an error, without its position. -/
def text (e : ParseError) : String :=
  match e.cause with
  | .tooDeep => "Maximum nesting depth (" ++ toString maxDepth ++ ") exceeded"
  | .unclosedBlock => "Expected '\x7d', but found end of file"
  | .unknownStatement =>
      "Unknown statement starting with " ++ describe e.token
  | .unknownExpression => "Unknown expression, found " ++ describe e.token
  | .expected kind => "Expected " ++ wanted kind ++ ", got " ++ describe e.token
  | .invalidNumber => "Invalid number literal: " ++ e.token.value
  | .invalidHexNumber => "Invalid hex literal: #" ++ e.token.value

/-- A position and what is wrong there. -/
def message (e : ParseError) : String :=
  e.token.position.text ++ ": " ++ e.text

end ParseError

namespace Parser

/-- A cause and the tokens that begin where it stands; none if it stands at the very end. -/
structure Fault where
  cause : ParseCause
  place : List Token
  deriving DecidableEq, Repr

/-- The result of reading one construct. -/
inductive Outcome (α : Type) where
  | ok (value : α) (rest : List Token)
  | fail (fault : Fault) (rest : List Token) (depth : Nat)

namespace Outcome

variable {α β : Type}

/-- Goes on behind a construct that was read. -/
def andThen (outcome : Outcome α) (next : α → List Token → Outcome β) : Outcome β :=
  match outcome with
  | .ok value rest => next value rest
  | .fail fault rest depth => .fail fault rest depth

/-- Changes the value that was read. -/
def map (f : α → β) (outcome : Outcome α) : Outcome β :=
  outcome.andThen fun value rest => .ok (f value) rest

/-- Leaves a construct that was entered one level deeper. -/
def leave : Outcome α → Outcome α
  | .ok value rest => .ok value rest
  | .fail fault rest depth => .fail fault rest (depth - 1)

/-- What is read takes at least the given number of the tokens it began with. -/
def Takes (count : Nat) (ts : List Token) : Outcome α → Prop
  | .ok _ rest => rest.length + count ≤ ts.length
  | .fail _ _ _ => True

theorem Takes.mono {m n : Nat} {ts : List Token} {outcome : Outcome α}
    (takes : outcome.Takes n ts) (fewer : m ≤ n) : outcome.Takes m ts := by
  cases outcome with
  | ok value rest =>
      simp only [Takes] at takes ⊢
      omega
  | fail => trivial

theorem Takes.leave {n : Nat} {ts : List Token} {outcome : Outcome α}
    (takes : outcome.Takes n ts) : outcome.leave.Takes n ts := by
  cases outcome with
  | ok => exact takes
  | fail => trivial

theorem Takes.andThen {m n : Nat} {ts : List Token} {outcome : Outcome α}
    {next : α → List Token → Outcome β} (first : outcome.Takes m ts)
    (second : ∀ value rest, (next value rest).Takes n rest) :
    (outcome.andThen next).Takes (m + n) ts := by
  cases outcome with
  | fail => trivial
  | ok value rest =>
      have more := second value rest
      simp only [Outcome.andThen]
      cases result : next value rest with
      | fail => trivial
      | ok _ left =>
          simp only [result, Takes] at first more ⊢
          omega

theorem Takes.map {n : Nat} {ts : List Token} {outcome : Outcome α} {f : α → β}
    (takes : outcome.Takes n ts) : (outcome.map f).Takes n ts := by
  cases outcome with
  | ok => exact takes
  | fail => trivial

/-- What takes tokens from the tail takes one more from the whole. -/
theorem Takes.cons {n : Nat} {ts : List Token} {outcome : Outcome α}
    (takes : outcome.Takes n ts.tail) (nonempty : ts ≠ []) : outcome.Takes (n + 1) ts := by
  cases outcome with
  | fail => trivial
  | ok value rest =>
      have positive := List.length_pos_iff.mpr nonempty
      simp only [Takes, List.length_tail] at takes ⊢
      omega

end Outcome

variable {α : Type}

/-- A failure at the front of the tokens that are left. -/
def failHere (cause : ParseCause) (depth : Nat) (ts : List Token) : Outcome α :=
  .fail ⟨cause, ts⟩ ts depth

/-- Entering a level beyond the greatest depth fails, and the level stays counted. -/
def tooDeep (depth : Nat) (ts : List Token) : Outcome α :=
  failHere .tooDeep (depth + 1) ts

/-- The kind of the token at the front; behind the last token the input is at its end. -/
def frontKind : List Token → TokenKind
  | [] => .endOfInput
  | t :: _ => t.kind

/-- Takes a token of the given kind. -/
def expect (kind : TokenKind) (depth : Nat) (ts : List Token) : Outcome Token :=
  match ts with
  | [] => failHere (.expected kind) depth []
  | t :: rest => if t.kind = kind then .ok t rest else failHere (.expected kind) depth ts

/-- At the end of the input there is no other kind of token. -/
theorem ne_nil_of_frontKind {ts : List Token} {kind : TokenKind} (front : frontKind ts = kind)
    (different : kind ≠ .endOfInput) : ts ≠ [] := by
  rintro rfl
  exact different front.symm

theorem ok_takes (value : α) (rest : List Token) : (Outcome.ok value rest).Takes 0 rest :=
  Nat.le_refl _

theorem failHere_takes (cause : ParseCause) (depth n : Nat) (ts us : List Token) :
    (failHere cause depth ts : Outcome α).Takes n us := trivial

theorem tooDeep_takes (depth n : Nat) (ts us : List Token) :
    (tooDeep depth ts : Outcome α).Takes n us := trivial

theorem expect_takes (kind : TokenKind) (depth : Nat) (ts : List Token) :
    (expect kind depth ts).Takes 1 ts := by
  cases ts with
  | nil => trivial
  | cons t rest =>
      simp only [expect]
      split
      · exact Nat.le_refl _
      · trivial

end Parser

end Kiss
