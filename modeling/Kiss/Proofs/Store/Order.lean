import Kiss.Store

/-!
# The order of slots

Slots are in a strict order, by name and under one name the variable before the field, and binding a
slot finds its place in that order. So bindings that are made one after another stay in order
(`AreOrdered.insert`) and each slot is bound once. A store is listed by putting its bindings in
order, so what is listed is what is found in it (`Store.mem_sorted`).
-/

namespace Kiss

namespace Slot

variable {a b c : Slot}

theorem precedes_iff_name :
    a.precedes b = true ↔
      a.name < b.name ∨ a.name = b.name ∧ a.isField = false ∧ b.isField = true := by
  simp [precedes, and_assoc]

theorem precedes_irrefl (a : Slot) : ¬a.precedes a = true := by
  rw [precedes_iff_name]
  rintro (lt | ⟨_, noField, field⟩)
  · exact String.lt_irrefl _ lt
  · simp [noField] at field

theorem precedes_trans (first : a.precedes b = true) (second : b.precedes c = true) :
    a.precedes c = true := by
  rw [precedes_iff_name] at *
  rcases first with lt | ⟨name, noField, field⟩
  · rcases second with more | ⟨same, _⟩
    · exact .inl (String.lt_trans lt more)
    · exact .inl (same ▸ lt)
  · rcases second with lt | ⟨_, variableAgain, _⟩
    · exact .inl (name ▸ lt)
    · simp [field] at variableAgain

/-- Of two different slots, one comes before the other. -/
theorem precedes_of_not (different : a ≠ b) (notBefore : ¬a.precedes b = true) :
    b.precedes a = true := by
  rw [precedes_iff_name] at *
  rw [not_or, String.not_lt] at notBefore
  obtain ⟨le, notUnder⟩ := notBefore
  by_cases lt : b.name < a.name
  · exact .inl lt
  · have name : a.name = b.name := String.le_antisymm (String.not_lt.mp lt) le
    refine .inr ⟨name.symm, ?_⟩
    -- the names are the same, so the marks are not
    have marks : a.isField ≠ b.isField := fun same => different (congr (congrArg mk name) same)
    cases field : a.isField <;> cases otherField : b.isField <;> simp_all

end Slot

namespace Bindings

variable {α : Type} {slot : Slot} {value : α} {bindings : List (Slot × α)}

/-- The slots of bindings are in strict order. -/
def AreOrdered (bindings : List (Slot × α)) : Prop :=
  bindings.Pairwise fun a b => a.1.precedes b.1 = true

theorem areOrdered_nil : AreOrdered ([] : List (Slot × α)) :=
  .nil

theorem mem_of_lookup (found : bindings.lookup slot = some value) :
    (slot, value) ∈ bindings := by
  obtain ⟨before, after, rfl, -⟩ := List.lookup_eq_some_iff.mp found
  simp

/-- What is bound after an insertion was bound before, or it is what was inserted. -/
theorem mem_of_mem_insert {binding : Slot × α}
    (member : binding ∈ insert slot value bindings) :
    binding = (slot, value) ∨ binding ∈ bindings := by
  induction bindings with
  | nil => exact .inl (by simpa [insert] using member)
  | cons first rest ih =>
      simp only [insert] at member
      split at member
      · rcases List.mem_cons.mp member with rfl | member
        · exact .inl rfl
        · exact .inr (List.mem_cons_of_mem _ member)
      · split at member
        · exact List.mem_cons.mp member
        · rcases List.mem_cons.mp member with rfl | member
          · exact .inr List.mem_cons_self
          · exact (ih member).imp_right (List.mem_cons_of_mem _)

/-- A slot that is bound finds its place in the order. -/
theorem AreOrdered.insert (ordered : AreOrdered bindings) (slot : Slot) (value : α) :
    AreOrdered (Bindings.insert slot value bindings) := by
  induction bindings with
  | nil => exact List.pairwise_singleton _ _
  | cons first rest ih =>
      obtain ⟨beforeRest, restOrdered⟩ := List.pairwise_cons.mp ordered
      unfold Bindings.insert
      split
      · rename_i equal
        subst equal
        exact List.pairwise_cons.mpr ⟨beforeRest, restOrdered⟩
      · rename_i different
        split
        · rename_i before
          refine List.pairwise_cons.mpr ⟨fun binding member => ?_, ordered⟩
          rcases List.mem_cons.mp member with rfl | member
          · exact before
          · exact Slot.precedes_trans before (beforeRest binding member)
        · rename_i notBefore
          refine List.pairwise_cons.mpr ⟨fun binding member => ?_, ih restOrdered⟩
          rcases mem_of_mem_insert member with rfl | member
          · exact Slot.precedes_of_not (Ne.symm different) notBefore
          · exact beforeRest binding member

/-- No slot is bound twice. -/
theorem AreOrdered.nodup (ordered : AreOrdered bindings) : (bindings.map Prod.fst).Nodup := by
  refine List.pairwise_map.mpr (List.Pairwise.imp (fun before same => ?_) ordered)
  exact Slot.precedes_irrefl _ (same ▸ before)

/-- In order, what is listed is what is found. -/
theorem AreOrdered.mem_iff_lookup (ordered : AreOrdered bindings) :
    (slot, value) ∈ bindings ↔ bindings.lookup slot = some value := by
  refine ⟨fun member => ?_, mem_of_lookup⟩
  obtain ⟨before, after, rfl⟩ := List.append_of_mem member
  refine List.lookup_eq_some_iff.mpr ⟨before, after, rfl, fun binding earlier => ?_⟩
  have lt := (List.pairwise_append.mp ordered).2.2 binding earlier (slot, value) List.mem_cons_self
  rw [bne_iff_ne]
  rintro rfl
  exact Slot.precedes_irrefl _ lt

end Bindings

namespace Store

variable (store : Store)

/-- The listing is in order. -/
theorem areOrdered_sorted : Bindings.AreOrdered store.sorted := by
  rw [sorted]
  induction store.bindings with
  | nil => exact Bindings.areOrdered_nil
  | cons first rest ih => exact ih.insert first.1 first.2

theorem lookup_sorted (slot : Slot) : store.sorted.lookup slot = store.find? slot := by
  rw [sorted, find?]
  induction store.bindings with
  | nil => rfl
  | cons first rest ih =>
      rcases first with ⟨first, value⟩
      rw [List.foldr_cons, Bindings.lookup_insert, ih]
      by_cases same : slot = first
      · simp [same]
      · simp [List.lookup_cons, same, beq_false_of_ne same]

/-- The listing has what is found in the store. -/
theorem mem_sorted {slot : Slot} {value : Value} :
    (slot, value) ∈ store.sorted ↔ store.find? slot = some value := by
  rw [store.areOrdered_sorted.mem_iff_lookup, lookup_sorted]

end Store

end Kiss
