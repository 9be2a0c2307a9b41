import Kiss.Proofs.Execution.Invariant

/-!
# What a run leaves alone

A run binds the variables that its statement assigns, writes the fields that it assigns, and
changes nothing else in the store; nothing is ever unbound. This holds wherever the run is broken
off, since each step keeps it (`Stmt.Frames.assign`, `Stmt.Frames.assignField`). Objects are
values: a field is written in the binding of one variable, whatever the object was copied from.
-/

namespace Kiss

theorem Slot.ofVariable_inj {name other : String} :
    Slot.ofVariable name = Slot.ofVariable other ↔ name = other := by
  simp [Slot.ofVariable]

/-- Fields have become other ones by writing: those there were are still there, and only the
    written ones have other values or are new. -/
structure FieldsWritten (written : String → Prop) (before after : List (Slot × Value)) : Prop where
  kept : ∀ slot, (before.lookup slot).isSome → (after.lookup slot).isSome
  others : ∀ slot, (∀ field, written field → slot ≠ .ofField field) →
    after.lookup slot = before.lookup slot

namespace FieldsWritten

variable {written : String → Prop} {fields before after : List (Slot × Value)} {field : String}

theorem insert (allowed : written field) (value : Value) (fields : List (Slot × Value)) :
    FieldsWritten written fields (Bindings.insert (.ofField field) value fields) where
  kept slot bound := by
    rw [Bindings.lookup_insert]
    split
    · rfl
    · exact bound
  others slot unwritten := by
    rw [Bindings.lookup_insert, if_neg (unwritten field allowed)]

theorem trans (first : FieldsWritten written before fields)
    (second : FieldsWritten written fields after) : FieldsWritten written before after where
  kept slot bound := second.kept slot (first.kept slot bound)
  others slot unwritten := (second.others slot unwritten).trans (first.others slot unwritten)

end FieldsWritten

namespace Stmt

variable {s : Stmt} {name : String}

/-- What becomes of the binding of a variable that a statement does not assign: fields that the
    statement assigns are written, if the variable holds an object. Any other value stays, and a
    variable that is not bound stays so. -/
inductive WritesInto (s : Stmt) (name : String) : Option Value → Option Value → Prop where
  | unchanged (binding : Option Value) : WritesInto s name binding binding
  | object {before after : List (Slot × Value)}
      (written : FieldsWritten (s.AssignsField name) before after) :
      WritesInto s name (some (.object before)) (some (.object after))

theorem WritesInto.insert {binding : Option Value} {fields : List (Slot × Value)} {field : String}
    (into : s.WritesInto name binding (some (.object fields)))
    (assigns : s.AssignsField name field) (value : Value) :
    s.WritesInto name binding (some (.object (Bindings.insert (.ofField field) value fields))) := by
  cases into with
  | unchanged => exact .object (.insert assigns value fields)
  | object written => exact .object (written.trans (.insert assigns value fields))

/-- A store has become another one by what a statement assigns, and by nothing else. -/
structure Frames (s : Stmt) (before after : Store) : Prop where
  bound : ∀ name, before.contains (.ofVariable name) → after.contains (.ofVariable name)
  untouched : ∀ name, ¬ s.Assigns name → (∀ field, ¬ s.AssignsField name field) →
    after.find? (.ofVariable name) = before.find? (.ofVariable name)
  unassigned : ∀ name, ¬ s.Assigns name →
    s.WritesInto name (before.find? (.ofVariable name)) (after.find? (.ofVariable name))

namespace Frames

variable {before store : Store}

theorem refl (s : Stmt) (store : Store) : s.Frames store store where
  bound _ bound := bound
  untouched _ _ _ := rfl
  unassigned _ _ := .unchanged _

theorem contains_set (framed : s.Frames before store) (value : Value) {other : String}
    (bound : before.contains (.ofVariable other)) :
    (store.set (.ofVariable name) value).contains (.ofVariable other) := by
  rw [Store.contains, Store.find?_set]
  split
  · rfl
  · exact framed.bound other bound

theorem assign (framed : s.Frames before store) (assigns : s.Assigns name) (value : Value) :
    s.Frames before (store.set (.ofVariable name) value) := by
  have others : ∀ other, ¬ s.Assigns other →
      (store.set (.ofVariable name) value).find? (.ofVariable other) =
        store.find? (.ofVariable other) := by
    intro other unassigned
    have different : other ≠ name := fun same => unassigned (same ▸ assigns)
    rw [Store.find?_set, if_neg (mt Slot.ofVariable_inj.mp different)]
  refine ⟨fun other => framed.contains_set value, fun other unassigned unwritten => ?_,
    fun other unassigned => ?_⟩
  · rw [others other unassigned, framed.untouched other unassigned unwritten]
  · rw [others other unassigned]
    exact framed.unassigned other unassigned

theorem assignField (framed : s.Frames before store) {field : String}
    (assigns : s.AssignsField name field) {fields : List (Slot × Value)}
    (holds : store.find? (.ofVariable name) = some (.object fields)) (value : Value) :
    s.Frames before
      (store.set (.ofVariable name) (.object (Bindings.insert (.ofField field) value fields))) := by
  refine ⟨fun other => framed.contains_set _, fun other unassigned unwritten => ?_,
    fun other unassigned => ?_⟩
  · have different : other ≠ name := fun same => unwritten field (same ▸ assigns)
    rw [Store.find?_set, if_neg (mt Slot.ofVariable_inj.mp different),
      framed.untouched other unassigned unwritten]
  · have into := framed.unassigned other unassigned
    rw [Store.find?_set]
    split
    · rename_i same
      obtain rfl := Slot.ofVariable_inj.mp same
      -- the object that is written is the one that earlier writes have left there
      rw [holds] at into
      exact into.insert assigns value
    · exact into

end Frames

variable {σ : Type} [Sink σ]

/-- The simple statements in a statement change the store by what they assign. -/
theorem keeps_frames (s : Stmt) (before : Store) :
    s.Keeps fun m : Machine σ => s.Frames before m.store where
  print _ _ _ value framed _ := Run.leaves_print framed value
  assign name e member _ value framed _ :=
    Run.leaves_done.mpr (framed.assign ⟨e, member⟩ value)
  assignField object field e member m value framed _ := by
    rw [Machine.assignField_eq]
    split
    · rename_i fields found
      have holds := Store.fieldsOf_eq_ok.mp found
      exact Run.leaves_done.mpr (framed.assignField ⟨e, member⟩ holds value)
    · exact Run.leaves_failed.mpr framed

/-- A statement touches only what it assigns, whether it is done or fails, and whatever its sink.
    What was bound is bound still; a variable that is no target in the statement is bound as
    before, or not at all; and one whose fields alone are targets holds the object with no other
    fields written, or just what it held. In particular, writing a field through one variable
    changes no other one, wherever their objects were copied from. -/
theorem exec_frames (bound : Nat) (s : Stmt) (m : Machine σ) :
    (exec bound s m).Leaves (fun after => s.Frames m.store after.store) ∧
      ∀ object other field e, other ≠ object →
        (exec bound (.assignField object field e) m).Leaves fun after =>
          after.store.find? (.ofVariable other) = m.store.find? (.ofVariable other) := by
  have framed (s : Stmt) : (exec bound s m).Leaves fun after => s.Frames m.store after.store :=
    exec_leaves (s.keeps_frames m.store) m (.refl s m.store)
  refine ⟨framed s, fun object other field e different => ?_⟩
  refine (framed (.assignField object field e)).mono fun after frames => ?_
  apply frames.untouched other
  · simp [Assigns, simples]
  · simp [AssignsField, simples, different]

/-- The program `p = {} q = p q.x = "a"` leaves `p` without fields. -/
example :
    exec 0 (.block [.assign "p" .emptyObject, .assign "q" (.var "p"),
      .assignField "q" "x" (.text "a")]) (.start Buffer.unlimited) =
    .done ⟨⟨[(.ofVariable "p", .object []),
      (.ofVariable "q", .object [(.ofField "x", .text "a")])]⟩, .unlimited⟩ := by
  rfl

end Stmt

end Kiss
