/-!
# Bindings in order

The variables of a program and the fields of an object are bindings of slots to values. They
are kept in order of their slots, by name and with a variable before a field of the same
name, so that each slot is bound once and listing them needs no sorting. `lookup_insert`
says what a binding changes.
-/

namespace Kiss

/-- What can be bound: a variable of the program, or a field of an object. -/
structure Slot where
  name : String
  isField : Bool
  deriving DecidableEq, Repr

namespace Slot

/-- The slot of a variable. -/
def ofVariable (name : String) : Slot := ⟨name, false⟩

/-- The slot of a field. -/
def ofField (name : String) : Slot := ⟨name, true⟩

/-- Whether a slot comes before another: by name, character by character, and under one name
    the variable first. -/
def precedes (a b : Slot) : Bool :=
  a.name < b.name || (a.name == b.name && !a.isField && b.isField)

end Slot

namespace Bindings

variable {α : Type}

/-- Binds a slot, in place of its earlier binding if it has one. -/
def insert (slot : Slot) (value : α) : List (Slot × α) → List (Slot × α)
  | [] => [(slot, value)]
  | (first, bound) :: rest =>
      if first = slot then (slot, value) :: rest
      else if slot.precedes first then (slot, value) :: (first, bound) :: rest
      else (first, bound) :: insert slot value rest

private theorem lookup_cons_of_ne {slot other : Slot} (different : other ≠ slot) (value : α)
    (rest : List (Slot × α)) :
    List.lookup other ((slot, value) :: rest) = rest.lookup other := by
  rw [List.lookup_cons, beq_false_of_ne different]

/-- Binding a slot changes what that slot is bound to, and nothing else. -/
theorem lookup_insert (slot other : Slot) (value : α) (bindings : List (Slot × α)) :
    (insert slot value bindings).lookup other =
      if other = slot then some value else bindings.lookup other := by
  induction bindings with
  | nil =>
      by_cases same : other = slot
      · simp [insert, same]
      · simp [insert, same, lookup_cons_of_ne same]
  | cons binding rest ih =>
      rcases binding with ⟨first, bound⟩
      simp only [insert]
      split
      · rename_i equal
        subst equal
        by_cases same : other = first
        · simp [same]
        · simp [same, lookup_cons_of_ne same]
      · rename_i different
        split
        · by_cases same : other = slot
          · simp [same]
          · simp [same, lookup_cons_of_ne same]
        · by_cases here : other = first
          · subst here
            simp [different]
          · rw [lookup_cons_of_ne here, lookup_cons_of_ne here, ih]

end Bindings

end Kiss
