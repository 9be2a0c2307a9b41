/-!
# Positions in a source text

A position counts lines and, within a line, characters, both from one. Only a newline begins
a new line.
-/

namespace Kiss

/-- A line and a column of a source text. -/
structure Position where
  line : Nat
  column : Nat
  deriving DecidableEq, Repr

namespace Position

/-- Where every text begins. -/
def start : Position := ⟨1, 1⟩

/-- The position after one character. -/
def advance (p : Position) (c : Char) : Position :=
  if c = '\n' then ⟨p.line + 1, 1⟩ else ⟨p.line, p.column + 1⟩

/-- The position after a row of characters. -/
def after (p : Position) (cs : List Char) : Position :=
  cs.foldl advance p

@[simp]
theorem after_nil (p : Position) : p.after [] = p := rfl

@[simp]
theorem after_cons (p : Position) (c : Char) (cs : List Char) :
    p.after (c :: cs) = (p.advance c).after cs := rfl

theorem after_append (p : Position) (cs ds : List Char) :
    p.after (cs ++ ds) = (p.after cs).after ds := by
  simp [after]

/-- A line and a column, parted by a colon. -/
def text (p : Position) : String :=
  toString p.line ++ ":" ++ toString p.column

end Position

end Kiss
