import Kiss.EvalError

/-!
# Stores

All variables of a running program, in one namespace. An object is changed only through the
variable that holds it: writing a field replaces the fields of that one binding.
-/

namespace Kiss

/-- The bindings of a program. -/
structure Store where
  bindings : List (Slot × Value)

namespace Store

/-- A store without bindings. -/
def empty : Store := ⟨[]⟩

/-- The value of a slot, if it is bound. -/
def find? (store : Store) (slot : Slot) : Option Value :=
  store.bindings.lookup slot

/-- Whether a slot is bound. -/
def contains (store : Store) (slot : Slot) : Bool :=
  (store.find? slot).isSome

/-- The number of bindings. -/
def size (store : Store) : Nat :=
  store.bindings.length

/-- The value of a slot. -/
def get (store : Store) (slot : Slot) : Except EvalError Value :=
  match store.find? slot with
  | some value => .ok value
  | none => .error (.undefinedVariable slot.name)

/-- Binds a slot, in place of its earlier binding if it has one. -/
def set (store : Store) (slot : Slot) (value : Value) : Store :=
  ⟨Bindings.insert slot value store.bindings⟩

/-- Binding a slot changes what is found there, and nothing else. -/
theorem find?_set (store : Store) (slot other : Slot) (value : Value) :
    (store.set slot value).find? other = if other = slot then some value else store.find? other :=
  Bindings.lookup_insert slot other value store.bindings

/-- The fields of the object that a variable holds. -/
def fieldsOf (store : Store) (object : String) : Except EvalError (List (Slot × Value)) :=
  match store.find? (.ofVariable object) with
  | some (.object fields) => .ok fields
  | some other => .error (.notAnObject object other.kind)
  | none => .error (.undefinedVariable object)

theorem fieldsOf_eq_ok {store : Store} {object : String} {fields : List (Slot × Value)} :
    store.fieldsOf object = .ok fields ↔
      store.find? (.ofVariable object) = some (.object fields) := by
  unfold fieldsOf
  split <;> simp_all

/-- There are no fields of a variable that is not bound, or bound to something else. -/
theorem fieldsOf_eq_error {store : Store} {object : String} {e : EvalError} :
    store.fieldsOf object = .error e ↔
      (store.find? (.ofVariable object) = none ∧ e = .undefinedVariable object) ∨
        ∃ value, store.find? (.ofVariable object) = some value ∧ value.kind ≠ .object ∧
          e = .notAnObject object value.kind := by
  unfold fieldsOf
  split
  · rename_i fields bound
    simp [bound, Value.kind]
  · rename_i value notObject bound
    have kind : value.kind ≠ .object := by
      cases value with
      | object fields => exact absurd rfl (notObject fields)
      | number | text | bool => simp [Value.kind]
    simpa [bound, kind] using eq_comm
  · rename_i unbound
    simpa [unbound] using eq_comm

/-- The value of a field of the object that a variable holds. -/
def getField (store : Store) (object : String) (slot : Slot) : Except EvalError Value :=
  match store.fieldsOf object with
  | .error e => .error e
  | .ok fields =>
      match fields.lookup slot with
      | some value => .ok value
      | none => .error (.missingField object slot.name)

/-- Writes a field of the object that a variable holds. Beside what has come of it there is the
    store to go on with. -/
def setField (store : Store) (object : String) (slot : Slot) (value : Value) :
    Except EvalError Unit × Store :=
  match store.fieldsOf object with
  | .error e => (.error e, store)
  | .ok fields =>
      (.ok (), store.set (.ofVariable object) (.object (Bindings.insert slot value fields)))

/-- The bindings in order of their slots: each is put in its place among the others. -/
def sorted (store : Store) : List (Slot × Value) :=
  store.bindings.foldr (fun binding others => Bindings.insert binding.1 binding.2 others) []

theorem getField_eq_ok {store : Store} {object : String} {slot : Slot} {value : Value} :
    store.getField object slot = .ok value ↔
      ∃ fields, store.find? (.ofVariable object) = some (.object fields) ∧
        fields.lookup slot = some value := by
  simp only [← fieldsOf_eq_ok]
  unfold getField
  split
  · rename_i failure unfound
    simp [unfound]
  · rename_i fields found
    split
    · rename_i bound
      simp [found, bound]
    · rename_i unbound
      simp [found, -List.lookup_eq_none_iff, unbound]

/-- Reading a field fails if there are no fields, or not this one. -/
theorem getField_eq_error {store : Store} {object : String} {slot : Slot} {e : EvalError} :
    store.getField object slot = .error e ↔
      store.fieldsOf object = .error e ∨
        ∃ fields, store.fieldsOf object = .ok fields ∧ fields.lookup slot = none ∧
          e = .missingField object slot.name := by
  unfold getField
  split
  · rename_i failure unfound
    simp [unfound]
  · rename_i fields found
    split
    · rename_i value bound
      simp [found, -List.lookup_eq_none_iff, bound]
    · rename_i unbound
      simpa [found, -List.lookup_eq_none_iff, unbound] using eq_comm

end Store

end Kiss
