import Kiss.Proofs.Execution.Buffer
import Kiss.Proofs.Execution.Simulation

/-!
# Running into a full buffer

A run into a buffer that takes only so many bytes does what the run into an unlimited one does
until the first byte that there is no room for, and there it fails. The two runs are compared
step by step (`Run.CutAt`): while the bytes fit the machines are the same but for the room that
is left, and once they do not, the one run has failed, whatever the other goes on to print.
-/

namespace Kiss

namespace Machine

/-- A machine whose buffer takes everything and has taken the given bytes. -/
def unbounded (store : Store) (output : ByteArray) : Machine Buffer :=
  ⟨store, Buffer.unlimited.taking output⟩

/-- A machine whose buffer takes `n` bytes in all and has taken the given ones. -/
def upTo (n : Nat) (store : Store) (output : ByteArray) : Machine Buffer :=
  ⟨store, (Buffer.limited n).taking output⟩

theorem start_unlimited : start .unlimited = unbounded .empty .empty := by
  rw [unbounded, Buffer.taking_empty, start]

theorem start_limited (n : Nat) : start (.limited n) = upTo n .empty .empty := by
  rw [upTo, Buffer.taking_empty, start]

theorem unbounded_written (store : Store) (output : ByteArray) :
    (unbounded store output).sink.written = output :=
  ByteArray.empty_append

theorem upTo_written (n : Nat) (store : Store) (output : ByteArray) :
    (upTo n store output).sink.written = output :=
  ByteArray.empty_append

end Machine

namespace Run

open Machine

/-- The run has gone on to print behind the given bytes, or it has not ended. -/
def GoesBeyond (run : Run Buffer) (output : ByteArray) : Prop :=
  run.Leaves fun m => ∃ store more, 0 < more.size ∧ m = unbounded store (output ++ more)

/-- What a run into an unlimited buffer becomes if the buffer takes `n` bytes: the same, if these
    are enough, and if they are not a failure with `n` bytes written. Nothing is said of a run that
    has not ended. -/
inductive CutAt (n : Nat) : Run Buffer → Run Buffer → Prop where
  | outOfRounds (limited : Run Buffer) : CutAt n .outOfRounds limited
  | done (store : Store) {output : ByteArray} (fits : output.size ≤ n) :
      CutAt n (.done (unbounded store output)) (.done (upTo n store output))
  | failed (e : EvalError) (store : Store) {output : ByteArray} (fits : output.size ≤ n) :
      CutAt n (.failed e (unbounded store output)) (.failed e (upTo n store output))
  | full {run : Run Buffer} (store : Store) {output : ByteArray} (filled : output.size = n)
      (beyond : run.GoesBeyond output) :
      CutAt n run (.failed (.output Buffer.full) (upTo n store output))

/-- A step that is cut where the buffer is full, from all machines whose bytes fit into it. -/
def CutsAt (n : Nat) (step limited : Machine Buffer → Run Buffer) : Prop :=
  ∀ store output, output.size ≤ n →
    CutAt n (step (unbounded store output)) (limited (upTo n store output))

variable {n : Nat} {run limited : Run Buffer} {next limitedNext : Machine Buffer → Run Buffer}

theorem GoesBeyond.andThen {output : ByteArray} (beyond : run.GoesBeyond output)
    (grows : Grows next) : (run.andThen next).GoesBeyond output := by
  apply Leaves.andThen beyond
  rintro _ ⟨store, more, positive, rfl⟩
  refine (grows _).mono ?_
  rintro ⟨after, sink⟩ ⟨values, printed⟩
  let others := (String.join (values.map Value.render)).toUTF8
  have taken : sink = (Buffer.unlimited.taking (output ++ more)).taking others :=
    printed.trans (Buffer.after_eq_taking_join rfl rfl values)
  refine ⟨after, more ++ others, by rw [ByteArray.size_append]; omega, ?_⟩
  rw [taken, unbounded, Buffer.taking_taking, ByteArray.append_assoc]

theorem CutAt.andThen (cut : CutAt n run limited) (nextCut : CutsAt n next limitedNext)
    (grows : Grows next) :
    CutAt n (run.andThen next) (limited.andThen limitedNext) := by
  cases cut with
  | outOfRounds => exact .outOfRounds _
  | done store fits => exact nextCut store _ fits
  | failed e store fits => exact .failed e store fits
  | full store filled beyond => exact .full store filled (beyond.andThen grows)

theorem CutAt.withValue {store : Store} {output : ByteArray} {e : Expr}
    {next limitedNext : Value → Run Buffer} (fits : output.size ≤ n)
    (nextCut : ∀ value, CutAt n (next value) (limitedNext value)) :
    CutAt n ((unbounded store output).withValue e next)
      ((upTo n store output).withValue e limitedNext) := by
  simp only [Machine.withValue, unbounded, upTo]
  cases eval store e with
  | error failure => exact .failed failure store fits
  | ok value => exact nextCut value

/-- A print is cut where the buffer is full. -/
theorem print_cutsAt (n : Nat) (value : Value) :
    CutsAt n (fun m => m.print value) fun m => m.print value := by
  intro store output fits
  have room : ((Buffer.limited n).taking output).room = some (n - output.size) := rfl
  have printed : (unbounded store output).print value =
      .done (unbounded store (output ++ value.render.toUTF8)) := by
    have anything : (Buffer.unlimited.taking output).HasRoom value.render.toUTF8 :=
      fun _ none => nomatch none
    rw [Machine.print, unbounded, Buffer.print_of_hasRoom anything rfl, Buffer.taking_taking]
    rfl
  by_cases textFits : value.render.toUTF8.size ≤ n - output.size
  · have limitedPrinted : (upTo n store output).print value =
        .done (upTo n store (output ++ value.render.toUTF8)) := by
      have hasRoom : ((Buffer.limited n).taking output).HasRoom value.render.toUTF8 := by
        simpa [Buffer.HasRoom, room] using textFits
      rw [Machine.print, upTo, Buffer.print_of_hasRoom hasRoom rfl, Buffer.taking_taking]
      rfl
    simp only [printed, limitedPrinted]
    exact .done store (by rw [ByteArray.size_append]; omega)
  · have limitedPrinted : (upTo n store output).print value =
        .failed (.output Buffer.full)
          (upTo n store (output ++ value.render.toUTF8.extract 0 (n - output.size))) := by
      rw [Machine.print, upTo, Buffer.print_of_room_lt room (Nat.lt_of_not_le textFits),
        Buffer.taking_taking]
      rfl
    simp only [printed, limitedPrinted]
    refine .full store ?_ (leaves_done.mpr ⟨store, ?_⟩)
    · rw [ByteArray.size_append, ByteArray.size_extract]
      omega
    · refine ⟨value.render.toUTF8.extract (n - output.size) value.render.toUTF8.size, ?_, ?_⟩
      · rw [ByteArray.size_extract]
        omega
      · rw [ByteArray.append_assoc, ByteArray.extract_append_extract, Nat.zero_min,
          Nat.max_eq_right (Nat.le_of_not_le textFits), ByteArray.extract_zero_size]

theorem assignField_cutsAt (n : Nat) (object field : String) (value : Value) :
    CutsAt n (fun m => m.assignField object field value) fun m =>
      m.assignField object field value := by
  intro store output fits
  simp only [Machine.assignField_eq, unbounded, upTo]
  cases store.fieldsOf object with
  | ok fields => exact .done _ fits
  | error failure => exact .failed failure store fits

/-- Two machines of one store that have printed the same, which fits into a buffer of `n` bytes:
    the one with an unlimited buffer, and the one with that buffer. -/
def BeforeCut (n : Nat) (m limited : Machine Buffer) : Prop :=
  ∃ store output, output.size ≤ n ∧ m = unbounded store output ∧ limited = upTo n store output

theorem relates_iff_cutsAt {step limitedStep : Machine Buffer → Run Buffer} :
    Relates (BeforeCut n) (CutAt n) step limitedStep ↔ CutsAt n step limitedStep := by
  constructor
  · exact fun related store output fits => related _ _ ⟨store, output, fits, rfl, rfl⟩
  · rintro cut _ _ ⟨store, output, fits, rfl, rfl⟩
    exact cut store output fits

theorem simulation_cutAt (n : Nat) : Simulation (BeforeCut n) (CutAt n) where
  done := by
    rintro _ _ ⟨store, output, fits, rfl, rfl⟩
    exact .done store fits
  outOfRounds := .outOfRounds _
  andThen run limited next limitedNext cut grows nextCut :=
    cut.andThen (relates_iff_cutsAt.mp nextCut) grows

theorem valuesRelate_cutAt (n : Nat) (e : Expr) : ValuesRelate (BeforeCut n) (CutAt n) e e := by
  rintro _ _ ⟨store, output, fits, rfl, rfl⟩ next limitedNext _ cut
  exact .withValue fits fun value => relates_iff_cutsAt.mp (cut value) store output fits

end Run

open Run Machine

/-- Every statement is cut where the buffer is full. -/
theorem Stmt.exec_cutsAt (n bound : Nat) (s : Stmt) : CutsAt n (exec bound s) (exec bound s) := by
  have followed : s.Follows (BeforeCut n) (CutAt n) id :=
    { values := fun e _ => valuesRelate_cutAt n e
      print := fun _ _ value => relates_iff_cutsAt.mpr (print_cutsAt n value)
      assign := fun _ _ _ value =>
        relates_iff_cutsAt.mpr fun store output fits => .done _ fits
      assignField := fun object field _ _ value =>
        relates_iff_cutsAt.mpr (assignField_cutsAt n object field value) }
  exact relates_iff_cutsAt.mp ((simulation_cutAt n).exec_self followed bound)

/-- What is known of the run of a source text once it has ended: how it failed, if it did, the
    variables, and the bytes that it has printed. -/
structure Observation where
  failure : Option Failure
  store : Store
  output : ByteArray

/-- What is seen of a run into a buffer, unless some loop has run out of rounds. A text that holds
    no program leaves everything as it was. -/
def observation? (buffer : Buffer) : Except Failure (Run Buffer) → Option Observation
  | .error failure => some ⟨some failure, .empty, buffer.written⟩
  | .ok (.done m) => some ⟨none, m.store, m.sink.written⟩
  | .ok (.failed e m) => some ⟨some (.evaluation e), m.store, m.sink.written⟩
  | .ok .outOfRounds => none

/-- The run of a source text into a buffer ends: there is a bound on rounds that is enough. -/
def RunsTo (source : String) (buffer : Buffer) (seen : Observation) : Prop :=
  ∃ bound, observation? buffer (run bound source buffer) = some seen

section Sources

variable {source : String} {buffer : Buffer} {seen other : Observation} {n : Nat}

theorem run_of_error {σ : Type} [Sink σ] {failure : Failure}
    (unread : readProgram source = .error failure) (bound : Nat) (sink : σ) :
    run bound source sink = .error failure := by
  rw [run, unread]
  rfl

theorem run_of_ok {σ : Type} [Sink σ] {program : Stmt} (read : readProgram source = .ok program)
    (bound : Nat) (sink : σ) :
    run bound source sink = .ok (exec bound program (.start sink)) := by
  rw [run, read]
  rfl

/-- The run of a text that holds a program ends where the program does. -/
theorem RunsTo.exists_ends {program : Stmt} (runs : RunsTo source buffer seen)
    (read : readProgram source = .ok program) :
    ∃ run, program.Ends (.start buffer) run ∧ observation? buffer (.ok run) = some seen := by
  obtain ⟨bound, ended⟩ := runs
  rw [run_of_ok read] at ended
  refine ⟨_, ⟨fun outOfRounds => ?_, bound, rfl⟩, ended⟩
  rw [outOfRounds] at ended
  cases ended

/-- A run ends in one way only. -/
theorem RunsTo.unique (runs : RunsTo source buffer seen) (also : RunsTo source buffer other) :
    seen = other := by
  cases read : readProgram source with
  | error failure =>
      obtain ⟨bound, ended⟩ := runs
      obtain ⟨otherBound, otherEnded⟩ := also
      rw [run_of_error read] at ended otherEnded
      exact Option.some.inj (ended.symm.trans otherEnded)
  | ok program =>
      obtain ⟨run, ends, ended⟩ := runs.exists_ends read
      obtain ⟨otherRun, otherEnds, otherEnded⟩ := also.exists_ends read
      rw [ends.unique otherEnds] at ended
      exact Option.some.inj (ended.symm.trans otherEnded)

theorem runsTo_iff (runs : RunsTo source buffer seen) :
    RunsTo source buffer other ↔ other = seen :=
  ⟨fun also => also.unique runs, fun same => same ▸ runs⟩

theorem exists_machine_of_observation {run : Run Buffer}
    (ended : observation? buffer (.ok run) = some seen) :
    ∃ m ∈ run.machine?, m.sink.written = seen.output := by
  cases run with
  | done m | failed e m =>
      cases ended
      exact ⟨m, rfl, rfl⟩
  | outOfRounds => cases ended

/-- A run that is cut where the buffer is full ends as the whole one does, if the bytes fit, and
    otherwise because the buffer is full, with the bytes before the cut. -/
theorem observation_of_cutAt {run limited : Run Buffer} (cut : run.CutAt n limited)
    (ended : observation? .unlimited (.ok run) = some seen) :
    (seen.output.size ≤ n → observation? (.limited n) (.ok limited) = some seen) ∧
      (n < seen.output.size → ∃ store, observation? (.limited n) (.ok limited) =
        some ⟨some (.evaluation (.output Buffer.full)), store, seen.output.extract 0 n⟩) := by
  cases cut with
  | outOfRounds => cases ended
  | done store fits | failed e store fits =>
      rw [observation?, unbounded_written] at ended
      cases ended
      refine ⟨fun _ => ?_, fun exceeds => absurd fits (Nat.not_le.mpr exceeds)⟩
      rw [observation?, upTo_written]
      rfl
  | @full _ store output filled beyond =>
      obtain ⟨m, left, written⟩ := exists_machine_of_observation ended
      obtain ⟨after, more, positive, rfl⟩ := beyond m left
      rw [unbounded_written] at written
      have size : seen.output.size = n + more.size := by
        rw [← written, ByteArray.size_append, filled]
      refine ⟨fun fits => by omega, fun _ => ⟨store, ?_⟩⟩
      rw [observation?, upTo_written, ← written, ByteArray.extract_append_eq_left filled.symm]
      rfl

/-- A full buffer truncates a run and changes nothing else about it. If the run of a source into an
    unlimited buffer ends, then the run into a buffer that takes `n` bytes ends in one way: with the
    same failure or none, the same variables and the same output, if the output has at most `n`
    bytes, and otherwise with the failure to print and the first `n` bytes of the output. It makes
    no difference to a buffer whether a value is printed at once or in the pieces that its text is
    put together from, so the cut may fall inside an object. -/
theorem runsTo_limited (runs : RunsTo source .unlimited seen) (n : Nat) :
    (seen.output.size ≤ n → ∀ other, RunsTo source (.limited n) other ↔ other = seen) ∧
      (n < seen.output.size → ∃ store, ∀ other, RunsTo source (.limited n) other ↔
        other = ⟨some (.evaluation (.output Buffer.full)), store, seen.output.extract 0 n⟩) ∧
      ∀ (buffer : Buffer) (value : Value),
        Sink.writeAll buffer value.pieces = buffer.write value.render.toUTF8 := by
  obtain ⟨bound, ended⟩ := runs
  have limitedRun : (seen.output.size ≤ n → RunsTo source (.limited n) seen) ∧
      (n < seen.output.size → ∃ store, RunsTo source (.limited n)
        ⟨some (.evaluation (.output Buffer.full)), store, seen.output.extract 0 n⟩) := by
    cases read : readProgram source with
    | error failure =>
        rw [run_of_error read] at ended
        cases ended
        have unread : RunsTo source (.limited n) ⟨some failure, .empty, .empty⟩ :=
          ⟨bound, by rw [run_of_error read]; rfl⟩
        exact ⟨fun _ => unread, fun exceeds => absurd exceeds (Nat.not_lt_zero n)⟩
    | ok program =>
        have cut := program.exec_cutsAt n bound .empty .empty (Nat.zero_le n)
        rw [run_of_ok read, start_unlimited] at ended
        obtain ⟨whole, truncated⟩ := observation_of_cutAt cut ended
        refine ⟨fun fits => ⟨bound, ?_⟩, fun exceeds => ?_⟩
        · rw [run_of_ok read, start_limited, whole fits]
        · obtain ⟨store, full⟩ := truncated exceeds
          exact ⟨store, bound, by rw [run_of_ok read, start_limited, full]⟩
  refine ⟨fun fits other => runsTo_iff (limitedRun.1 fits), fun exceeds => ?_,
    Buffer.writeAll_pieces⟩
  obtain ⟨store, full⟩ := limitedRun.2 exceeds
  exact ⟨store, fun other => runsTo_iff full⟩

end Sources

/-- The program `x = {} x.a = "cd" print x print x` prints `{a: cd}{a: cd}`, of which a buffer for
    nine bytes takes `{a: cd}{a`. -/
theorem runsTo_limited_object :
    ∃ seen store, RunsTo "x = \x7b\x7d x.a = \"cd\" print x print x" .unlimited seen ∧
      seen.output = "\x7ba: cd\x7d\x7ba: cd\x7d".toUTF8 ∧
      RunsTo "x = \x7b\x7d x.a = \"cd\" print x print x" (.limited 9)
        ⟨some (.evaluation (.output Buffer.full)), store, "\x7ba: cd\x7d\x7ba".toUTF8⟩ := by
  have printed : (observation? .unlimited
      (run 1 "x = \x7b\x7d x.a = \"cd\" print x print x" Buffer.unlimited)).map Observation.output =
        some "\x7ba: cd\x7d\x7ba: cd\x7d".toUTF8 := by
    decide +kernel
  obtain ⟨seen, ended, output⟩ := Option.map_eq_some_iff.mp printed
  have runs : RunsTo "x = \x7b\x7d x.a = \"cd\" print x print x" .unlimited seen := ⟨1, ended⟩
  obtain ⟨store, truncated⟩ := (runsTo_limited runs 9).2.1 (by rw [output]; decide)
  have first : seen.output.extract 0 9 = "\x7ba: cd\x7d\x7ba".toUTF8 := by
    rw [output]
    decide +kernel
  exact ⟨seen, store, runs, output, (truncated _).mpr (by rw [first])⟩

end Kiss
