import Kiss.Bindings
import Kiss.Number.Text

/-!
# Values

What expressions evaluate to. An object holds its fields; assigning it copies them, so two
variables never share one.
-/

namespace Kiss

/-- Values of the language. -/
inductive Value where
  | number (x : Float)
  | text (s : String)
  | bool (b : Bool)
  | object (fields : List (Slot × Value))

/-- The kinds of value. -/
inductive ValueKind where
  | number
  | text
  | bool
  | object
  deriving DecidableEq, Repr

/-- The name of a kind in messages. -/
def ValueKind.name : ValueKind → String
  | .number => "Number"
  | .text => "String"
  | .bool => "Bool"
  | .object => "Object"

namespace Value

/-- The kind of a value. -/
def kind : Value → ValueKind
  | .number _ => .number
  | .text _ => .text
  | .bool _ => .bool
  | .object _ => .object

/-- Whether a value can be computed with. -/
def isNumber (value : Value) : Bool :=
  value.kind == .number

/-- An object without fields. -/
def emptyObject : Value := .object []

/-- The result of a comparison or of a logical operation is a number. -/
def ofTruth (b : Bool) : Value :=
  .number (if b then 1 else 0)

/-- Whether a value counts as true: every number but zero, and `true`. Texts and objects
    never do. -/
def isTruthy : Value → Bool
  | .number x => x != 0
  | .bool b => b
  | .text _ | .object _ => false

mutual

/-- The text of a value, as it is joined to other texts and shown in a listing. -/
def render : Value → String
  | .number x => Number.display x
  | .text s => s
  | .bool b => if b then "true" else "false"
  | .object fields => "\x7b" ++ ", ".intercalate (renderFields fields) ++ "\x7d"

/-- The names and values of fields. -/
def renderFields : List (Slot × Value) → List String
  | [] => []
  | (slot, value) :: rest => (slot.name ++ ": " ++ render value) :: renderFields rest

end

mutual

/-- The texts that are written one behind the other to print a value: a number part by part, an
    object brace by brace, name by name and field by field. -/
def pieces : Value → List String
  | .number x => (Number.displayParts x).map String.ofList
  | .text s => [s]
  | .bool b => [if b then "true" else "false"]
  | .object fields => "\x7b" :: fieldPieces fields ++ ["\x7d"]

/-- The texts that are written to print fields. -/
def fieldPieces : List (Slot × Value) → List String
  | [] => []
  | [(slot, value)] => slot.name :: ": " :: pieces value
  | (slot, value) :: rest => slot.name :: ": " :: pieces value ++ ", " :: fieldPieces rest

end

mutual

/-- Whether two values are of one kind and equal. Numbers are compared as numbers, so NaN
    differs from itself and the two zeros are equal. -/
def equals : Value → Value → Bool
  | .number x, .number y => x == y
  | .text s, .text t => s == t
  | .bool a, .bool b => a == b
  | .object fields, .object others => fieldsEqual fields others
  | _, _ => false

/-- Whether two rows of fields are equal, slot by slot and value by value. -/
def fieldsEqual : List (Slot × Value) → List (Slot × Value) → Bool
  | [], [] => true
  | (slot, value) :: rest, (otherSlot, other) :: others =>
      slot == otherSlot && equals value other && fieldsEqual rest others
  | _, _ => false

end

end Value

end Kiss
