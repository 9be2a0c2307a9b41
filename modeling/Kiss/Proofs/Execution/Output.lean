import Kiss.Proofs.Execution.Invariant

/-!
# Output

What a program does with its sink. Nothing is known of a sink but what becomes of it when it
prints, so its output is told by the values that it was given to print, in their order
(`Sink.after`). A program prints more of them and does nothing else with the sink
(`Stmt.exec_grows`).
-/

namespace Kiss

variable {σ : Type} [Sink σ]

namespace Sink

/-- A sink behind the printing of values, one after the other. -/
def after (sink : σ) (values : List Value) : σ :=
  values.foldl (fun sink value => (print sink value.pieces).2) sink

theorem after_nil (sink : σ) : after sink [] = sink := rfl

theorem after_cons (sink : σ) (value : Value) (values : List Value) :
    after sink (value :: values) = after (print sink value.pieces).2 values := rfl

theorem after_append (sink : σ) (values others : List Value) :
    after sink (values ++ others) = after (after sink values) others :=
  List.foldl_append

/-- A sink that can print any value, whatever it has printed before. -/
def NeverFails (sink : σ) : Prop :=
  ∀ values (value : Value), (print (after sink values) value.pieces).1 = .ok ()

theorem NeverFails.after {sink : σ} (free : NeverFails sink) (values : List Value) :
    NeverFails (after sink values) := by
  intro others value
  rw [← after_append]
  exact free (values ++ others) value

theorem NeverFails.print {sink : σ} (free : NeverFails sink) (value : Value) :
    print sink value.pieces = (.ok (), Sink.after sink [value]) :=
  Prod.ext (free [] value) rfl

end Sink

namespace Machine

/-- A machine becomes another one whose sink has printed some more values. -/
def GrowsTo (before after : Machine σ) : Prop :=
  ∃ values, after.sink = Sink.after before.sink values

theorem GrowsTo.of_sink_eq {before after : Machine σ} (same : after.sink = before.sink) :
    before.GrowsTo after :=
  ⟨[], same⟩

theorem GrowsTo.refl (m : Machine σ) : m.GrowsTo m :=
  .of_sink_eq rfl

theorem GrowsTo.trans {first second third : Machine σ} (here : first.GrowsTo second)
    (there : second.GrowsTo third) : first.GrowsTo third := by
  obtain ⟨values, printed⟩ := here
  obtain ⟨others, othersPrinted⟩ := there
  exact ⟨values ++ others, by rw [othersPrinted, printed, Sink.after_append]⟩

/-- Printing into a sink that never fails is done. -/
theorem print_of_neverFails {m : Machine σ} (free : Sink.NeverFails m.sink) (value : Value) :
    m.print value = .done { m with sink := Sink.after m.sink [value] } := by
  rw [print, free.print]

theorem print_leaves (m : Machine σ) (value : Value) : (m.print value).Leaves m.GrowsTo := by
  have printed : (Sink.print m.sink value.pieces).2 = Sink.after m.sink [value] := rfl
  rw [print]
  split
  · rename_i result
    rw [result] at printed
    exact Run.leaves_done.mpr ⟨[value], printed⟩
  · rename_i result
    rw [result] at printed
    exact Run.leaves_failed.mpr ⟨[value], printed⟩

theorem assignField_leaves (m : Machine σ) (object field : String) (value : Value) :
    (m.assignField object field value).Leaves m.GrowsTo := by
  rw [assignField_eq]
  split
  · exact Run.leaves_done.mpr (.of_sink_eq rfl)
  · exact Run.leaves_failed.mpr (.of_sink_eq rfl)

end Machine

/-- A step that only prints more values. -/
def Grows (step : Machine σ → Run σ) : Prop :=
  ∀ m, (step m).Leaves m.GrowsTo

/-- What comes behind a step that has been taken prints behind what the step has printed. -/
theorem Grows.leaves {step : Machine σ → Run σ} (grows : Grows step) {before m : Machine σ}
    (grown : before.GrowsTo m) : (step m).Leaves before.GrowsTo :=
  (grows m).mono fun _ => grown.trans

theorem Grows.andThen {step next : Machine σ → Run σ} (grows : Grows step)
    (nextGrows : Grows next) : Grows fun m => (step m).andThen next :=
  fun m => (grows m).andThen fun _ => nextGrows.leaves

theorem Grows.repeatWhile {round : Machine σ → Run σ} (grows : Grows round) (condition : Expr)
    (rounds : Nat) : Grows (repeatWhile condition round rounds) :=
  fun m => repeatWhile_leaves condition (fun _ => grows.leaves) rounds m (.refl m)

/-- A program prints more values into its sink and does nothing else with it. -/
theorem Stmt.exec_grows (bound : Nat) (s : Stmt) :
    Grows (exec bound s : Machine σ → Run σ) := by
  intro m
  have kept : s.Keeps m.GrowsTo :=
    { print := fun _ _ between value grown _ =>
        (between.print_leaves value).mono fun _ => grown.trans
      assign := fun _ _ _ _ _ grown _ => Run.leaves_done.mpr grown
      assignField := fun object field _ _ between value grown _ =>
        (between.assignField_leaves object field value).mono fun _ => grown.trans }
  exact exec_leaves kept m (.refl m)

end Kiss
