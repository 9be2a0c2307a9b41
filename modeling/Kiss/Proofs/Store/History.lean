import Mathlib.Data.List.Dedup
import Mathlib.Data.List.Induction
import Kiss.Proofs.Store.Order
import Kiss.Store

/-!
# What a store holds after any operations

A store is a finite map from slots to values in which one level of fields can be changed in place.
What it holds is told by the operations on it, in the order in which they were made: a slot has the
value that was bound to it last, with what was written to its fields since (`Leaves`). One
operation changes one slot, or one field of it, and nothing else that can be read
(`find?_perform`); so what a whole history leaves follows by induction on it.
-/

namespace Kiss

/-- What a value becomes when one of its fields is written. Only an object has fields. -/
def Value.withField (value : Value) (slot : Slot) (written : Value) : Value :=
  match value with
  | .object fields => .object (Bindings.insert slot written fields)
  | other => other

theorem Value.withField_of_kind {value : Value} (noObject : value.kind ≠ .object) (slot : Slot)
    (written : Value) : value.withField slot written = value := by
  cases value with
  | object fields => exact absurd rfl noObject
  | number | text | bool => rfl

namespace Store

/-- What can be done with a store. The last four operations only look at it. -/
inductive Operation where
  | set (slot : Slot) (value : Value)
  | setField (object : String) (slot : Slot) (value : Value)
  | get (slot : Slot)
  | contains (slot : Slot)
  | getField (object : String) (slot : Slot)
  | sorted

/-- The slot that an operation binds, whatever it was bound to. -/
def Operation.slot? : Operation → Option Slot
  | .set slot _ => some slot
  | _ => none

/-- What an operation makes of the value of a slot, unless it binds the slot anew. -/
def Operation.revise (slot : Slot) (value : Value) : Operation → Value
  | .setField object field written =>
      if slot = .ofVariable object then value.withField field written else value
  | _ => value

/-- The store behind an operation, whether it goes well or fails. -/
def perform (store : Store) : Operation → Store
  | .set slot value => store.set slot value
  | .setField object slot value => (store.setField object slot value).2
  | .get _ | .contains _ | .getField _ _ | .sorted => store

/-- The store behind a row of operations on a new one. -/
def after (history : List Operation) : Store :=
  history.foldl perform empty

/-- A history leaves a value in a slot: the one that was last bound to the slot, with all that was
    written to its fields since. -/
def Leaves (history : List Operation) (slot : Slot) (value : Value) : Prop :=
  ∃ before first later, history = before ++ .set slot first :: later ∧
    (∀ other, .set slot other ∉ later) ∧ value = later.foldl (Operation.revise slot) first

/-- A store does what its history says. -/
structure Refines (history : List Operation) (store : Store) : Prop where
  contains_iff : ∀ slot, store.contains slot = true ↔ ∃ value, .set slot value ∈ history
  get_eq_ok : ∀ slot value, store.get slot = .ok value ↔ Leaves history slot value
  get_eq_error : ∀ slot e, store.get slot = .error e ↔
    (∀ value, .set slot value ∉ history) ∧ e = .undefinedVariable slot.name
  getField_eq_ok : ∀ object field value, store.getField object field = .ok value ↔
    ∃ fields, store.get (.ofVariable object) = .ok (.object fields) ∧
      fields.lookup field = some value
  /-- A field cannot be read if the variable is not bound, or to something else than an object, or
      to an object without that field. -/
  getField_eq_error : ∀ object field e, store.getField object field = .error e ↔
    (store.contains (.ofVariable object) = false ∧ e = .undefinedVariable object) ∨
    (∃ value, store.get (.ofVariable object) = .ok value ∧ value.kind ≠ .object ∧
      e = .notAnObject object value.kind) ∨
    ∃ fields, store.get (.ofVariable object) = .ok (.object fields) ∧
      fields.lookup field = none ∧ e = .missingField object field.name
  setField_isOk : ∀ object field value,
    (store.setField object field value).1.isOk = true ↔
      ∃ fields, store.get (.ofVariable object) = .ok (.object fields)
  /-- What was written to a field is read there. -/
  getField_perform_self : ∀ object field value,
    (store.setField object field value).1.isOk = true →
      (store.perform (.setField object field value)).getField object field = .ok value
  /-- Where no field can be written, nothing is. -/
  perform_of_not_isOk : ∀ object field value,
    ¬(store.setField object field value).1.isOk = true →
      store.perform (.setField object field value) = store
  /-- A slot is read as before unless it is bound, or a field of its value is written. -/
  get_perform : ∀ op slot, (∀ value, op ≠ .set slot value) →
    (∀ object field value, op = .setField object field value → slot ≠ .ofVariable object) →
      (store.perform op).get slot = store.get slot
  /-- A field is read as before unless it is written itself, or its variable is bound. -/
  getField_perform : ∀ op object field, (∀ value, op ≠ .set (.ofVariable object) value) →
    (∀ value, op ≠ .setField object field value) →
      (store.perform op).getField object field = store.getField object field
  size_eq : store.size = (history.filterMap Operation.slot?).dedup.length
  /-- The listing has every slot once, with what is read there. -/
  mem_sorted : ∀ slot value, (slot, value) ∈ store.sorted ↔ store.get slot = .ok value
  nodup_sorted : (store.sorted.map Prod.fst).Nodup
  /-- The listing is in strict order of the names, and under one name the variable comes first. -/
  ascending_sorted : store.sorted.Pairwise fun a b =>
    a.1.name < b.1.name ∨ a.1.name = b.1.name ∧ a.1.isField = false ∧ b.1.isField = true

variable {store : Store} {history : List Operation} {op : Operation} {slot field : Slot}
  {value written : Value} {object : String}

/-! ### One operation -/

theorem find?_perform_set (store : Store) (slot : Slot) (value : Value) :
    (store.perform (.set slot value)).find? slot = some value := by
  rw [perform, find?_set, if_pos rfl]

/-- A field is written where there is an object, and otherwise the store stays as it is. -/
theorem perform_setField (store : Store) (object : String) (field : Slot) (written : Value) :
    store.perform (.setField object field written) =
      match store.fieldsOf object with
      | .ok fields =>
          store.set (.ofVariable object) (.object (Bindings.insert field written fields))
      | .error _ => store := by
  rw [perform, setField]
  cases store.fieldsOf object <;> rfl

/-- Writing a field changes the value of the variable, if it is an object, and nothing else. -/
theorem find?_perform_setField (store : Store) (object : String) (field : Slot) (written : Value)
    (slot : Slot) :
    (store.perform (.setField object field written)).find? slot =
      (store.find? slot).map fun value =>
        Operation.revise slot value (.setField object field written) := by
  unfold Operation.revise
  rw [perform_setField]
  by_cases same : slot = .ofVariable object
  · subst same
    simp only [if_true]
    cases found : store.fieldsOf object with
    | ok fields => simp [find?_set, fieldsOf_eq_ok.mp found, Value.withField]
    | error e =>
        obtain ⟨unbound, _⟩ | ⟨value, bound, noObject, _⟩ := fieldsOf_eq_error.mp found
        · simp [unbound]
        · simp [bound, Value.withField_of_kind noObject]
  · simp only [same, if_false, Option.map_id']
    cases store.fieldsOf object with
    | ok fields => exact (find?_set ..).trans (if_neg same)
    | error e => rfl

/-- An operation that does not bind a slot makes of its value what it makes of the value alone. -/
theorem find?_perform (store : Store) (noSet : ∀ value, op ≠ .set slot value) :
    (store.perform op).find? slot =
      (store.find? slot).map fun value => Operation.revise slot value op := by
  cases op with
  | set other value =>
      have different : slot ≠ other := by
        rintro rfl
        exact noSet value rfl
      rw [perform, find?_set, if_neg different]
      exact Option.map_id'.symm
  | setField object field written => exact find?_perform_setField store object field written slot
  | get | contains | getField | sorted => exact Option.map_id'.symm

theorem contains_eq_false_iff : store.contains slot = false ↔ store.find? slot = none := by
  rw [contains, Option.isSome_eq_false_iff, Option.isNone_iff_eq_none]

theorem contains_perform (store : Store) (noSet : ∀ value, op ≠ .set slot value) :
    (store.perform op).contains slot = store.contains slot := by
  rw [contains, find?_perform store noSet, Option.isSome_map, contains]

theorem get_eq_ok_iff : store.get slot = .ok value ↔ store.find? slot = some value := by
  unfold get
  split <;> simp_all

theorem get_eq_error_iff {e : EvalError} :
    store.get slot = .error e ↔ store.find? slot = none ∧ e = .undefinedVariable slot.name := by
  unfold get
  split
  · rename_i value found
    simp [found]
  · rename_i unbound
    simpa [unbound] using eq_comm

/-- Reading hangs on what is found in the slot. -/
theorem get_congr {other : Store} (same : other.find? slot = store.find? slot) :
    other.get slot = store.get slot := by
  rw [get, same, get]

theorem getField_congr {other : Store}
    (same : other.find? (.ofVariable object) = store.find? (.ofVariable object)) :
    other.getField object field = store.getField object field := by
  rw [getField, fieldsOf, same, getField, fieldsOf]

/-- Writing one field of an object does not change the others. -/
theorem getField_perform_setField {other : Slot} (different : field ≠ other) :
    (store.perform (.setField object other written)).getField object field =
      store.getField object field := by
  rw [perform_setField]
  cases found : store.fieldsOf object with
  | ok fields =>
      have now : (store.set (.ofVariable object)
          (.object (Bindings.insert other written fields))).fieldsOf object =
            .ok (Bindings.insert other written fields) := by
        rw [fieldsOf_eq_ok, find?_set, if_pos rfl]
      simp only [getField, now, found, Bindings.lookup_insert, if_neg different]
  | error e => rfl

theorem getField_perform_of_ne (noSet : ∀ value, op ≠ .set (.ofVariable object) value)
    (noWrite : ∀ value, op ≠ .setField object field value) :
    (store.perform op).getField object field = store.getField object field := by
  have kept (same : ∀ value, Operation.revise (.ofVariable object) value op = value) :
      (store.perform op).getField object field = store.getField object field := by
    refine getField_congr ?_
    rw [find?_perform store noSet]
    simp only [same, Option.map_id']
  cases op with
  | setField other otherField written =>
      by_cases sameObject : Slot.ofVariable object = .ofVariable other
      · obtain rfl : object = other := congrArg Slot.name sameObject
        refine getField_perform_setField ?_
        rintro rfl
        exact noWrite written rfl
      · exact kept fun value => if_neg sameObject
  | set | get | contains | getField | sorted => exact kept fun value => rfl

theorem areOrdered_perform (ordered : Bindings.AreOrdered store.bindings) (op : Operation) :
    Bindings.AreOrdered (store.perform op).bindings := by
  cases op with
  | set slot value => exact ordered.insert slot value
  | setField object field written =>
      rw [perform_setField]
      cases store.fieldsOf object with
      | ok fields => exact ordered.insert _ _
      | error e => exact ordered
  | get | contains | getField | sorted => exact ordered

/-! ### A whole history -/

theorem after_append_singleton (history : List Operation) (op : Operation) :
    after (history ++ [op]) = (after history).perform op := by
  rw [after, List.foldl_append]
  rfl

theorem areOrdered_after (history : List Operation) :
    Bindings.AreOrdered (after history).bindings := by
  induction history using List.reverseRecOn with
  | nil => exact Bindings.areOrdered_nil
  | append_singleton history op ih =>
      rw [after_append_singleton]
      exact areOrdered_perform ih op

/-- A slot that is bound last has the value that is bound to it. -/
theorem leaves_append_set :
    Leaves (history ++ [.set slot written]) slot value ↔ value = written := by
  constructor
  · rintro ⟨before, first, later, same, noSet, rfl⟩
    rcases later.eq_nil_or_concat with rfl | ⟨others, last, rfl⟩
    · obtain ⟨_, singletons⟩ := List.append_inj' same rfl
      cases singletons
      rfl
    · -- the last of the later operations would be the one that binds the slot
      rw [List.concat_eq_append, ← List.cons_append, ← List.append_assoc] at same
      obtain ⟨_, singletons⟩ := List.append_inj' same rfl
      cases singletons
      exact absurd (by simp) (noSet written)
  · rintro rfl
    exact ⟨history, value, [], rfl, by simp, rfl⟩

/-- An operation that does not bind the slot revises the value that was left before. -/
theorem leaves_append_of_ne (noSet : ∀ written, op ≠ .set slot written) :
    Leaves (history ++ [op]) slot value ↔
      ∃ earlier, Leaves history slot earlier ∧ value = Operation.revise slot earlier op := by
  constructor
  · rintro ⟨before, first, later, same, noLater, rfl⟩
    rcases later.eq_nil_or_concat with rfl | ⟨others, last, rfl⟩
    · obtain ⟨_, singletons⟩ := List.append_inj' same rfl
      cases singletons
      exact absurd rfl (noSet first)
    · rw [List.concat_eq_append, ← List.cons_append, ← List.append_assoc] at same
      obtain ⟨rfl, singletons⟩ := List.append_inj' same rfl
      cases singletons
      refine ⟨_, ⟨before, first, others, rfl, fun other member => noLater other ?_, rfl⟩, ?_⟩
      · simp [member]
      · rw [List.concat_eq_append, List.foldl_append]
        rfl
  · rintro ⟨_, ⟨before, first, later, rfl, noLater, rfl⟩, rfl⟩
    refine ⟨before, first, later ++ [op], by simp, fun other member => ?_, ?_⟩
    · rcases List.mem_append.mp member with member | member
      · exact noLater other member
      · exact noSet other (List.mem_singleton.mp member).symm
    · rw [List.foldl_append]
      rfl

/-- A store has in every slot what its history leaves there. -/
theorem find?_after : (after history).find? slot = some value ↔ Leaves history slot value := by
  induction history using List.reverseRecOn generalizing value with
  | nil =>
      constructor
      · intro found
        cases found
      · rintro ⟨before, first, later, same, _⟩
        simp at same
  | append_singleton history op ih =>
      rw [after_append_singleton]
      by_cases binds : ∃ written, op = .set slot written
      · obtain ⟨written, rfl⟩ := binds
        rw [find?_perform_set, leaves_append_set, Option.some.injEq, eq_comm]
      · have noSet : ∀ written, op ≠ .set slot written := fun written same => binds ⟨written, same⟩
        rw [find?_perform _ noSet, leaves_append_of_ne noSet, Option.map_eq_some_iff]
        simp only [ih, eq_comm]

theorem contains_after :
    (after history).contains slot = true ↔ ∃ value, .set slot value ∈ history := by
  induction history using List.reverseRecOn with
  | nil => simp [after, empty, contains, find?]
  | append_singleton history op ih =>
      rw [after_append_singleton]
      by_cases binds : ∃ written, op = .set slot written
      · obtain ⟨written, rfl⟩ := binds
        rw [contains, find?_perform_set]
        exact iff_of_true rfl ⟨written, by simp⟩
      · have noSet : ∀ written, op ≠ .set slot written := fun written same => binds ⟨written, same⟩
        rw [contains_perform _ noSet, ih]
        simp [fun written => Ne.symm (noSet written)]

/-- The bound slots are those that the history binds. -/
theorem mem_slots_after :
    slot ∈ (after history).bindings.map Prod.fst ↔ slot ∈ history.filterMap Operation.slot? := by
  have bound : slot ∈ (after history).bindings.map Prod.fst ↔
      ∃ value, (after history).find? slot = some value := by
    simp [find?, ← (areOrdered_after history).mem_iff_lookup]
  rw [bound, ← Option.isSome_iff_exists]
  refine contains_after.trans ?_
  rw [List.mem_filterMap]
  constructor
  · rintro ⟨value, member⟩
    exact ⟨_, member, rfl⟩
  · rintro ⟨op, member, binds⟩
    cases op with
    | set other value =>
        cases binds
        exact ⟨value, member⟩
    | setField | get | contains | getField | sorted => cases binds

theorem size_after (history : List Operation) :
    (after history).size = (history.filterMap Operation.slot?).dedup.length := by
  have nodup := (areOrdered_after history).nodup
  have same := (List.perm_ext_iff_of_nodup nodup (List.nodup_dedup _)).mpr fun slot =>
    mem_slots_after.trans List.mem_dedup.symm
  rw [← same.length_eq, List.length_map, size]

theorem setField_isOk_iff : (store.setField object field written).1.isOk = true ↔
    ∃ fields, store.get (.ofVariable object) = .ok (.object fields) := by
  simp only [get_eq_ok_iff, ← fieldsOf_eq_ok]
  unfold setField
  cases store.fieldsOf object with
  | ok fields => exact iff_of_true rfl ⟨fields, rfl⟩
  | error e => simp [Except.isOk, Except.toBool]

/-- A store refines a finite map with updates of one level. Whatever operations were made on a new
    store, in whatever order: just the slots are bound that were set, each slot is read as the value
    that was last set there with the later writes to its fields, a field is read from the object
    that is read in its variable, and all errors say what is missing. Fields are written just where
    there is an object, and otherwise nothing changes. No operation changes what is read anywhere
    but where it writes. The number of bindings is that of the slots that were set, and the listing
    has each of them once, in order and with its value. -/
theorem refines_after (history : List Operation) : Refines history (after history) where
  contains_iff slot := contains_after
  get_eq_ok slot value := get_eq_ok_iff.trans find?_after
  get_eq_error slot e := by
    rw [get_eq_error_iff, ← contains_eq_false_iff, Bool.eq_false_iff, Ne, contains_after,
      not_exists]
  getField_eq_ok object field value := by
    simp only [get_eq_ok_iff]
    exact Store.getField_eq_ok
  getField_eq_error object field e := by
    rw [Store.getField_eq_error, fieldsOf_eq_error, contains_eq_false_iff]
    simp only [get_eq_ok_iff, fieldsOf_eq_ok, or_assoc]
  setField_isOk object field value := setField_isOk_iff
  getField_perform_self object field value written := by
    obtain ⟨fields, bound⟩ := setField_isOk_iff.mp written
    rw [get_eq_ok_iff] at bound
    rw [Store.getField_eq_ok, find?_perform_setField, bound]
    refine ⟨Bindings.insert field value fields, ?_, ?_⟩
    · simp [Operation.revise, Value.withField]
    · rw [Bindings.lookup_insert, if_pos rfl]
  perform_of_not_isOk object field value unwritten := by
    rw [setField_isOk_iff] at unwritten
    simp only [get_eq_ok_iff, ← fieldsOf_eq_ok, not_exists] at unwritten
    rw [perform_setField]
    cases found : (after history).fieldsOf object with
    | ok fields => exact absurd found (unwritten fields)
    | error e => rfl
  get_perform op slot noSet elsewhere := by
    refine get_congr ?_
    rw [find?_perform _ noSet]
    cases op with
    | setField object field written =>
        simp only [Operation.revise, if_neg (elsewhere object field written rfl), Option.map_id']
    | set | get | contains | getField | sorted => exact Option.map_id'
  getField_perform op object field noSet noWrite := getField_perform_of_ne noSet noWrite
  size_eq := size_after history
  mem_sorted slot value := (mem_sorted _).trans get_eq_ok_iff.symm
  nodup_sorted := (areOrdered_sorted _).nodup
  ascending_sorted := (areOrdered_sorted _).imp Slot.precedes_iff_name.mp

/-- A variable and a field of one name are two slots, and only the variable's fields are written. -/
example :
    let store := after [.set (.ofField "o") (.text ""), .set (.ofVariable "o") (.object []),
      .setField "o" (.ofField "f") (.bool true)]
    store.getField "o" (.ofField "f") = .ok (.bool true) ∧
      store.get (.ofField "o") = .ok (.text "") ∧ store.size = 2 := ⟨rfl, rfl, rfl⟩

end Store

end Kiss
