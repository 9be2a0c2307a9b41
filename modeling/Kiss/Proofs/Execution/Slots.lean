import Kiss.CommandLine.Answer
import Kiss.Proofs.Execution.Evaluation
import Kiss.Proofs.Execution.Invariant
import Kiss.Proofs.Store.Order

/-!
# Which slots are bound where

Variables and fields share one type of slots, and a listing shows only the name of a slot. Still
no listing shows a name twice, for a run binds variables in the store and fields in objects, and
nothing else in either of them. Bindings of one sort are in strict order of their names
(`Bindings.AreKeyed`), and binding one more slot of that sort keeps them so. Objects are copied
into the fields of other ones, so what is said of fields is said at every depth (`Value.Inside`).
-/

namespace Kiss

namespace Bindings

variable {α : Type} {isField : Bool} {slot : Slot} {bindings : List (Slot × α)}

/-- All slots are of one sort, and their names are in strict order. -/
structure AreKeyed (isField : Bool) (bindings : List (Slot × α)) : Prop where
  sort : ∀ binding ∈ bindings, binding.1.isField = isField
  ascending : bindings.Pairwise fun a b => a.1.name < b.1.name

theorem areKeyed_nil : AreKeyed isField ([] : List (Slot × α)) :=
  ⟨by simp, .nil⟩

/-- Among slots of one sort the names decide the order. -/
theorem precedes_iff {other : Slot} (same : slot.isField = other.isField) :
    slot.precedes other = true ↔ slot.name < other.name := by
  cases sort : slot.isField <;> simp_all [Slot.precedes]

/-- What is in order of its names is in order of its slots. -/
theorem AreKeyed.areOrdered (keyed : AreKeyed isField bindings) : AreOrdered bindings := by
  refine keyed.ascending.imp_of_mem fun {a b} first second lt => ?_
  exact (precedes_iff ((keyed.sort a first).trans (keyed.sort b second).symm)).mpr lt

theorem areKeyed_of_areOrdered (sort : ∀ binding ∈ bindings, binding.1.isField = isField)
    (ordered : AreOrdered bindings) : AreKeyed isField bindings where
  sort := sort
  ascending := List.Pairwise.imp_of_mem (fun {a b} first second before =>
    (precedes_iff ((sort a first).trans (sort b second).symm)).mp before) ordered

/-- Binding one more slot of the sort keeps the order. -/
theorem AreKeyed.insert (keyed : AreKeyed isField bindings) (sort : slot.isField = isField)
    (value : α) : AreKeyed isField (Bindings.insert slot value bindings) := by
  refine areKeyed_of_areOrdered (fun binding member => ?_) (keyed.areOrdered.insert slot value)
  rcases mem_of_mem_insert member with rfl | member
  · exact sort
  · exact keyed.sort binding member

/-- Names in strict order are all different. -/
theorem AreKeyed.names (keyed : AreKeyed isField bindings) :
    (bindings.map fun binding => binding.1.name).Pairwise (· < ·) ∧
      (bindings.map fun binding => binding.1.name).Nodup := by
  have ascending := List.pairwise_map.mpr keyed.ascending
  refine ⟨ascending, ascending.imp fun lt equal => ?_⟩
  exact String.lt_irrefl _ (equal ▸ lt)

end Bindings

namespace Value

variable {value part : Value} {fields : List (Slot × Value)}

/-- A value stands in another one: it is that value, or it stands in one of its fields. -/
inductive Inside (part : Value) : Value → Prop where
  | self : Inside part part
  | field {fields : List (Slot × Value)} {slot : Slot} {value : Value}
      (member : (slot, value) ∈ fields) (inside : Inside part value) : Inside part (.object fields)

theorem inside_object :
    part.Inside (.object fields) ↔
      part = .object fields ∨ ∃ field ∈ fields, part.Inside field.2 := by
  constructor
  · intro inside
    cases inside with
    | self => exact .inl rfl
    | field member inside => exact .inr ⟨_, member, inside⟩
  · rintro (rfl | ⟨field, member, inside⟩)
    · exact .self
    · exact .field member inside

/-- Every object in a value binds fields only. -/
def IsKeyed (value : Value) : Prop :=
  ∀ fields, (object fields).Inside value → Bindings.AreKeyed true fields

theorem isKeyed_of_kind (noObject : value.kind ≠ .object) : value.IsKeyed := by
  intro fields inside
  cases inside with
  | self | field => exact absurd rfl noObject

theorem isKeyed_object :
    (object fields).IsKeyed ↔
      Bindings.AreKeyed true fields ∧ ∀ field ∈ fields, field.2.IsKeyed := by
  constructor
  · intro keyed
    exact ⟨keyed fields .self, fun field member inner inside =>
      keyed inner (inside_object.mpr (.inr ⟨field, member, inside⟩))⟩
  · rintro ⟨keyed, others⟩ inner inside
    rcases inside_object.mp inside with same | ⟨field, member, inside⟩
    · cases same
      exact keyed
    · exact others field member inner inside

/-- Writing a field of an object leaves an object that binds fields only. -/
theorem IsKeyed.insert {name : String} (objectKeyed : (object fields).IsKeyed)
    (keyed : value.IsKeyed) :
    (object (Bindings.insert (.ofField name) value fields)).IsKeyed := by
  obtain ⟨fieldsKeyed, others⟩ := isKeyed_object.mp objectKeyed
  refine isKeyed_object.mpr ⟨fieldsKeyed.insert rfl value, fun field member => ?_⟩
  rcases Bindings.mem_of_mem_insert member with rfl | member
  · exact keyed
  · exact others field member

/-- The text of an object shows its fields one behind the other. -/
theorem render_object (fields : List (Slot × Value)) :
    (object fields).render = "\x7b" ++
      ", ".intercalate (fields.map fun field => field.1.name ++ ": " ++ field.2.render) ++
        "\x7d" := by
  have shown : renderFields fields =
      fields.map fun field => field.1.name ++ ": " ++ field.2.render := by
    induction fields with
    | nil => rfl
    | cons field rest ih => rw [renderFields, List.map_cons, ih]
  rw [render, shown]

end Value

namespace Store

variable {store : Store} {value : Value} {name : String}

/-- A store binds variables only, and the objects in their values bind fields only. -/
structure IsKeyed (store : Store) : Prop where
  slots : ∀ binding ∈ store.bindings, binding.1.isField = false
  values : ∀ binding ∈ store.bindings, binding.2.IsKeyed

theorem isKeyed_empty : empty.IsKeyed :=
  ⟨by simp [empty], by simp [empty]⟩

theorem IsKeyed.of_find? (keyed : store.IsKeyed) {slot : Slot}
    (found : store.find? slot = some value) : value.IsKeyed :=
  keyed.values _ (Bindings.mem_of_lookup found)

theorem IsKeyed.set (keyed : store.IsKeyed) (valueKeyed : value.IsKeyed) :
    (store.set (.ofVariable name) value).IsKeyed where
  slots binding member := by
    rcases Bindings.mem_of_mem_insert member with rfl | member
    · rfl
    · exact keyed.slots binding member
  values binding member := by
    rcases Bindings.mem_of_mem_insert member with rfl | member
    · exact valueKeyed
    · exact keyed.values binding member

/-- The listing of a store that binds variables only is in order of their names. -/
theorem IsKeyed.sorted (keyed : store.IsKeyed) : Bindings.AreKeyed false store.sorted := by
  refine Bindings.areKeyed_of_areOrdered (fun binding member => ?_) store.areOrdered_sorted
  exact keyed.slots binding (Bindings.mem_of_lookup (store.mem_sorted.mp member))

theorem IsKeyed.of_getField (keyed : store.IsKeyed) {slot : Slot}
    (found : store.getField name slot = .ok value) : value.IsKeyed := by
  obtain ⟨fields, bound, field⟩ := getField_eq_ok.mp found
  exact (Value.isKeyed_object.mp (keyed.of_find? bound)).2 _ (Bindings.mem_of_lookup field)

end Store

section Evaluation

variable {store : Store} {value : Value}

theorem kind_of_unary {op : UnaryOp} {operand : Value} (applied : op.apply operand = .ok value) :
    value.kind ≠ .object := by
  cases op with
  | negate =>
      cases operand <;> simp [UnaryOp.apply, Value.toNumber, Except.map] at applied
      simp [← applied, Value.kind]
  | not =>
      cases applied
      simp [Value.ofTruth, Value.kind]

/-- No operation makes an object. -/
theorem kind_of_binary {op : BinaryOp} {left right : Value}
    (applied : op.apply left right = .ok value) : value.kind ≠ .object := by
  cases op with
  | logical op =>
      cases applied
      simp [Value.ofTruth, Value.kind]
  | arithmetic op =>
      cases op <;> cases left <;> cases right <;>
        simp [BinaryOp.apply, ArithmeticOp.apply] at applied <;> simp [← applied, Value.kind]
  | comparison op =>
      cases left <;> cases right <;>
        simp [BinaryOp.apply, ComparisonOp.apply] at applied <;>
          simp [← applied, Value.ofTruth, Value.kind]

/-- The objects that expressions denote are those in the store, and new ones without fields. -/
theorem isKeyed_of_eval (keyed : store.IsKeyed) {e : Expr} (evaluated : eval store e = .ok value) :
    value.IsKeyed := by
  cases e with
  | number | text | bool =>
      cases evaluated
      exact Value.isKeyed_of_kind (by simp [Value.kind])
  | emptyObject =>
      cases evaluated
      exact Value.isKeyed_object.mpr ⟨Bindings.areKeyed_nil, by simp⟩
  | var name =>
      rw [eval, Store.get] at evaluated
      split at evaluated
      · rename_i found
        cases evaluated
        exact keyed.of_find? found
      · cases evaluated
  | field object name => exact keyed.of_getField evaluated
  | unary op operand =>
      obtain ⟨x, -, applied⟩ := bind_eq_ok.mp ((eval_unary op operand).symm.trans evaluated)
      exact Value.isKeyed_of_kind (kind_of_unary applied)
  | binary op left right =>
      obtain ⟨x, -, rest⟩ := bind_eq_ok.mp ((eval_binary op left right).symm.trans evaluated)
      split at rest
      · rename_i decided
        cases rest
        exact Value.isKeyed_of_kind (kind_of_binary (BinaryOp.apply_of_decided decided x))
      · obtain ⟨y, -, applied⟩ := bind_eq_ok.mp rest
        exact Value.isKeyed_of_kind (kind_of_binary applied)

end Evaluation

variable {σ : Type} [Sink σ]

/-- Every simple statement keeps the store to variables, and objects to fields. -/
theorem Stmt.keeps_isKeyed (s : Stmt) : s.Keeps fun m : Machine σ => m.store.IsKeyed where
  print _ _ _ value keyed _ := Run.leaves_print keyed value
  assign _ _ _ _ _ keyed evaluated :=
    Run.leaves_done.mpr (keyed.set (isKeyed_of_eval keyed evaluated))
  assignField object field _ _ m value keyed evaluated := by
    rw [Machine.assignField_eq]
    split
    · rename_i fields found
      have objectKeyed := keyed.of_find? (Store.fieldsOf_eq_ok.mp found)
      have valueKeyed := isKeyed_of_eval keyed evaluated
      exact Run.leaves_done.mpr (keyed.set (objectKeyed.insert valueKeyed))
    · exact Run.leaves_failed.mpr keyed

/-- Statements are run one after another on the same machine, each of them whether the ones before
    it were done or have failed. -/
inductive Session : List Stmt → Machine σ → Machine σ → Prop where
  | nothing (m : Machine σ) : Session [] m m
  | next {first : Stmt} {rest : List Stmt} {m between after : Machine σ} {run : Run σ}
      (ends : first.Ends m run) (left : between ∈ run.machine?)
      (others : Session rest between after) : Session (first :: rest) m after

theorem Session.isKeyed {statements : List Stmt} {m after : Machine σ}
    (session : Session statements m after) (keyed : m.store.IsKeyed) : after.store.IsKeyed := by
  induction session with
  | nothing => exact keyed
  | next ends left _ ih =>
      obtain ⟨-, bound, rfl⟩ := ends
      exact ih (Stmt.exec_leaves (Stmt.keeps_isKeyed _) _ keyed _ left)

/-- Store and objects keep to their sort of slots. Whatever statements are run one after another on
    a new store, into whatever sink, and whether they are done or fail: the store that is left binds
    variables only, and the objects in its values, at every depth, bind fields only, as do those in
    the value of every expression. So the names of a listing of the store are in strict order and
    all different, and so are the names of the fields that the text of an object shows. -/
theorem isKeyed_of_session {statements : List Stmt} {sink : σ} {after : Machine σ}
    (session : Session statements (.start sink) after) :
    (∀ binding ∈ after.store.bindings, binding.1.isField = false) ∧
      ((after.store.sorted.map fun binding => binding.1.name).Pairwise (· < ·) ∧
        (after.store.sorted.map fun binding => binding.1.name).Nodup ∧
        CommandLine.dumpStore after.store = String.join (after.store.sorted.map fun binding =>
          binding.1.name ++ " = " ++ binding.2.render ++ "\n")) ∧
      ∀ value, ((∃ binding ∈ after.store.bindings, binding.2 = value) ∨
          ∃ e, eval after.store e = .ok value) →
        ∀ fields, (Value.object fields).Inside value →
          (∀ field ∈ fields, field.1.isField = true) ∧
            (fields.map fun field => field.1.name).Pairwise (· < ·) ∧
            (fields.map fun field => field.1.name).Nodup ∧
            (Value.object fields).render = "\x7b" ++
              ", ".intercalate (fields.map fun field => field.1.name ++ ": " ++ field.2.render) ++
                "\x7d" := by
  have keyed : after.store.IsKeyed := session.isKeyed Store.isKeyed_empty
  refine ⟨keyed.slots, ⟨keyed.sorted.names.1, keyed.sorted.names.2, rfl⟩, ?_⟩
  intro value reached fields inside
  have valueKeyed : value.IsKeyed := by
    rcases reached with ⟨binding, member, rfl⟩ | ⟨e, evaluated⟩
    · exact keyed.values binding member
    · exact isKeyed_of_eval keyed evaluated
  have fieldsKeyed := valueKeyed fields inside
  exact ⟨fieldsKeyed.sort, fieldsKeyed.names.1, fieldsKeyed.names.2, Value.render_object fields⟩

/-- A sink that passes on whatever is written, so that it keeps nothing. Its flushes come out as
    listed, and well when the list is at its end. -/
structure Relay where
  flushes : List (Except IoError Unit)

instance : Sink Relay where
  write relay _ := (.ok (), relay)
  flush relay :=
    match relay.flushes with
    | [] => (.ok (), relay)
    | first :: rest => (first, ⟨rest⟩)

/-- The statements `b = {}`, `b.y = "s"`, `print b`, `b.x = b`, `print b` and `a = b.z`. -/
def copiesObject : List Stmt :=
  [.assign "b" .emptyObject, .assignField "b" "y" (.text "s"), .print (.var "b"),
    .assignField "b" "x" (.var "b"), .print (.var "b"), .assign "a" (.field "b" "z")]

/-- The first flush goes wrong, so the third of these statements fails and the fifth one does not,
    and there is no field for the last. What is left is the object with a copy of itself in one of
    its fields, which are listed in order. -/
theorem isKeyed_of_session_copiesObject :
    ∃ after, Session copiesObject (.start (Relay.mk [.error ⟨"BrokenPipe", "broken pipe"⟩])) after ∧
      CommandLine.dumpStore after.store = "b = \x7bx: \x7by: s\x7d, y: s\x7d\n" ∧
      ∃ value, eval after.store (.field "b" "x") = .ok value ∧
        ∀ fields, (Value.object fields).Inside value →
          (fields.map fun field => field.1.name).Pairwise (· < ·) := by
  let copied : Value := .object [(.ofField "y", .text "s")]
  let broken : IoError := ⟨"BrokenPipe", "broken pipe"⟩
  let started (store : Store) : Machine Relay := ⟨store, ⟨[.error broken]⟩⟩
  let before : Store := ⟨[(.ofVariable "b", copied)]⟩
  let after : Machine Relay :=
    ⟨⟨[(.ofVariable "b", .object [(.ofField "x", copied), (.ofField "y", .text "s")])]⟩, ⟨[]⟩⟩
  have ends (s : Stmt) (m : Machine Relay) (run : Run Relay) (ended : run ≠ .outOfRounds)
      (same : exec 0 s m = run) : s.Ends m run := ⟨ended, 0, same⟩
  have session : Session copiesObject (started .empty) after :=
    .next (ends _ _ (.done (started ⟨[(.ofVariable "b", .object [])]⟩)) (by simp) rfl) rfl <|
    .next (ends _ _ (.done (started before)) (by simp) rfl) rfl <|
    .next (ends _ _ (.failed (.output broken) ⟨before, ⟨[]⟩⟩) (by simp) rfl) rfl <|
    .next (ends _ _ (.done after) (by simp) rfl) rfl <|
    .next (ends _ _ (.done after) (by simp) rfl) rfl <|
    .next (ends _ _ (.failed (.missingField "b" "z") after) (by simp) rfl) rfl <|
    .nothing after
  have evaluated : eval after.store (.field "b" "x") = .ok copied := rfl
  refine ⟨after, session, by decide, copied, evaluated, fun fields inside => ?_⟩
  exact ((isKeyed_of_session session).2.2 copied (.inr ⟨_, evaluated⟩) fields inside).2.1

end Kiss
