import Kiss.Token.Lexer

/-!
# Scanning by index

The lexer takes characters off the front of a text. A scanner that keeps the whole source, with the
index of the next character, has to look before it reads, for behind the source there is nothing to
be read. What it repeats it repeats in loops, of which it is not said beforehand that they end; a
round of a loop ends it (`.done`) or goes on with it (`.yield`). `Scanning` is this way of reading.
To read outside of the source and to be out of rounds are ends of their own beside the refusal of
the source, and nothing catches them. So where a scan comes to another end, neither has happened in
any of its parts.
-/

namespace Kiss.Lexical

open Lexer

/-- How far a source has been read: the index of the next character, its line and column, and the
    tokens in front of it, in reverse order. -/
structure Cursor where
  source : List Char
  index : Nat
  place : Position
  found : List Token

/-- Why a scan comes to no value. -/
inductive Halt where
  | refused (e : LexError)
  | outside
  | outOfRounds
  deriving DecidableEq

/-- A computation that moves a cursor, and comes to a value or halts. -/
abbrev Scanning (α : Type) : Type := StateT Cursor (Except Halt) α

namespace Scanning

variable {α β : Type}

/-! ### The pieces -/

/-- Ends a scan without a value. -/
def halt (why : Halt) : Scanning α := fun _ => .error why

/-- Refuses the source for a cause that stands at a place. -/
def refuse (cause : LexCause) (p : Position) : Scanning α := halt (.refused ⟨cause, p⟩)

/-- Reads the character at the cursor. -/
def peek : Scanning Char := fun c =>
  match c.source[c.index]? with
  | some d => .ok (d, c)
  | none => .error .outside

/-- The character so many places behind the cursor, if there is one. -/
def ahead (offset : Nat) : Scanning (Option Char) := fun c => .ok (c.source[c.index + offset]?, c)

/-- Reads the two characters at the cursor. -/
def peekPair : Scanning (List Char) := fun c =>
  if c.index + 2 ≤ c.source.length then .ok ((c.source.drop c.index).take 2, c)
  else .error .outside

/-- Reads the character at the cursor and passes it. -/
def advance : Scanning Unit := fun c =>
  match c.source[c.index]? with
  | some d => .ok ((), { c with index := c.index + 1, place := c.place.advance d })
  | none => .error .outside

/-- Whether the whole source is passed. -/
def atEnd : Scanning Bool := fun c => .ok (decide (c.source.length ≤ c.index), c)

/-- Where the cursor stands. -/
def place : Scanning Position := fun c => .ok (c.place, c)

/-- Adds a token. -/
def push (kind : TokenKind) (value : List Char) (p : Position) : Scanning Unit := fun c =>
  .ok ((), { c with found := ⟨kind, String.ofList value, p⟩ :: c.found })

/-- Adds a token that begins in a column of the line in which the cursor stands. -/
def pushInLine (kind : TokenKind) (value : List Char) (column : Nat) : Scanning Unit := do
  push kind value ⟨(← place).line, column⟩

/-- Goes round a loop until a round ends it, so many times at most. -/
def loop (round : α → Scanning (ForInStep α)) : Nat → α → Scanning α
  | 0, _ => halt .outOfRounds
  | rounds + 1, value => do
      match ← round value with
      | .yield next => loop round rounds next
      | .done last => return last

/-! ### White space and comments -/

/-- A round in which a row of characters of a class is taken. -/
def rowRound (p : Char → Bool) (row : List Char) : Scanning (ForInStep (List Char)) := do
  if ← atEnd then
    return .done row
  else
    let c ← peek
    if p c then
      advance
      return .yield (row ++ [c])
    else
      return .done row

/-- A round in which a comment is passed that was opened at a place. -/
def commentRound (opening : Position) (_ : Unit) : Scanning (ForInStep Unit) := do
  if ← atEnd then
    refuse .unterminatedComment opening
  else if (← peek) = '*' ∧ (← ahead 1) = some '/' then
    advance
    advance
    return .done ()
  else
    advance
    return .yield ()

def skipComment (rounds : Nat) : Scanning Unit := do
  let opening ← place
  advance
  advance
  loop (commentRound opening) rounds ()

/-- A round in which white space or a comment is passed. -/
def triviaRound (rounds : Nat) (_ : Unit) : Scanning (ForInStep Unit) := do
  if ← atEnd then
    return .done ()
  else
    let c ← peek
    if Character.isWhiteSpace c then
      advance
      return .yield ()
    else if c = '/' ∧ (← ahead 1) = some '/' then
      let _ ← loop (rowRound fun c => decide (c ≠ '\n')) rounds []
      return .yield ()
    else if c = '/' ∧ (← ahead 1) = some '*' then
      skipComment rounds
      return .yield ()
    else
      return .done ()

def skipTrivia (rounds : Nat) : Scanning Unit := loop (triviaRound rounds) rounds ()

/-! ### Tokens -/

/-- A round in which an item of a string literal is read, behind what the items before it mean. -/
def textRound (meant : List Char) : Scanning (ForInStep (List Char)) := do
  if ← atEnd then
    return .done meant
  else
    let c ← peek
    if c = '"' then
      return .done meant
    else if c = '\\' then
      advance
      if ← atEnd then
        return .done meant
      else
        let d ← peek
        advance
        return .yield (meant ++ (TextItem.escaped d).meaning)
    else
      advance
      return .yield (meant ++ [c])

def scanText (rounds : Nat) : Scanning Unit := do
  let start ← place
  advance
  let meant ← loop textRound rounds []
  if ← atEnd then
    refuse .unterminatedText start
  else
    advance
    push .text meant start

/-- A round in which a digit or the point of a number is read. The number comes with whether it has
    its point already. -/
def numberRound (number : List Char × Bool) : Scanning (ForInStep (List Char × Bool)) := do
  if ← atEnd then
    return .done number
  else
    let c ← peek
    if c.isDigit then
      advance
      return .yield (number.1 ++ [c], number.2)
    else if c = '.' then
      if number.2 || (← ahead 1).all fun d => !d.isDigit then
        return .done number
      else
        advance
        return .yield (number.1 ++ [c], true)
    else
      return .done number

def scanNumber (rounds : Nat) : Scanning Unit := do
  let start ← place
  let number ← loop numberRound rounds ([], false)
  pushInLine .number number.1 start.column

def scanHexNumber (rounds : Nat) : Scanning Unit := do
  let start ← place
  advance
  let digits ← loop (rowRound Number.isHexDigit) rounds []
  if digits.isEmpty then
    refuse .emptyHexNumber ⟨(← place).line, start.column⟩
  else
    pushInLine .hexNumber digits start.column

def scanWord (rounds : Nat) : Scanning Unit := do
  let start ← place
  let word ← loop (rowRound isWordPart) rounds []
  pushInLine (TokenKind.ofWord (String.ofList word)) word start.column

/-- Takes a symbol that begins with a character, of two characters if possible. -/
def scanSymbol (c : Char) : Scanning Unit := do
  match (← ahead 1).bind (Symbol.ofPair? c) with
  | some s =>
      let pair ← peekPair
      push (.symbol s) pair (← place)
      advance
      advance
  | none =>
      match Symbol.ofChar? c with
      | some s =>
          push (.symbol s) [c] (← place)
          advance
      | none => refuse (.unexpectedCharacter c) (← place)

def scanToken (rounds : Nat) : Scanning Unit := do
  let c ← peek
  if c = '"' then
    scanText rounds
  else if c.isDigit then
    scanNumber rounds
  else if c = '#' then
    scanHexNumber rounds
  else if isWordStart c then
    scanWord rounds
  else
    scanSymbol c

/-- A round in which a token is taken, behind what is skipped. -/
def tokenRound (rounds : Nat) (_ : Unit) : Scanning (ForInStep Unit) := do
  skipTrivia rounds
  if ← atEnd then
    return .done ()
  else
    scanToken rounds
    return .yield ()

def scanTokens (rounds : Nat) : Scanning Unit := loop (tokenRound rounds) rounds ()

end Scanning

/-- A cursor in front of a source. -/
def Cursor.ofSource (source : String) : Cursor := ⟨source.toList, 0, .start, []⟩

/-- The tokens of a source, if each loop may go round so many times. -/
def scanAll (rounds : Nat) (source : String) : Except Halt (List Token) :=
  match Scanning.scanTokens rounds (.ofSource source) with
  | .ok (_, c) => .ok (Token.endOfInput c.place :: c.found).reverse
  | .error why => .error why

end Kiss.Lexical
