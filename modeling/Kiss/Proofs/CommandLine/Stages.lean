import Kiss.CommandLine.Answer
import Kiss.Proofs.Execution.Truncation

/-!
# Commands agree on failures

A file is read, cut into tokens, read as a program and run. To list its tokens and to show its
program, these stages are taken one by one and each failure is worded on the spot; to run it is one
call, and its failure words itself. `Reaches` tells how far a file gets, and for every such case
there is one law with the answers of all commands. So the first stage that fails gives the answer
of all commands that come to it, in the same words, and options change what is shown, never whether
all went well (`commands_agree`).
-/

namespace Kiss.CommandLine

/-- How far a file gets through the stages before it is run. -/
inductive Reaches (file : SourceFile) : Prop where
  | nothing {e : FileError} (unread : file.text = .error e)
  | text {source : String} {e : LexError} (read : file.text = .ok source)
      (uncut : tokenize source = .error e)
  | tokens {source : String} {tokens : List Token} {e : ParseError}
      (read : file.text = .ok source) (cut : tokenize source = .ok tokens)
      (refused : parse tokens = .error e)
  | program {source : String} {tokens : List Token} {tree : Stmt}
      (read : file.text = .ok source) (cut : tokenize source = .ok tokens)
      (accepted : parse tokens = .ok tree)

theorem reaches (file : SourceFile) : Reaches file := by
  cases read : file.text with
  | error e => exact .nothing read
  | ok source =>
      cases cut : tokenize source with
      | error e => exact .text read cut
      | ok tokens =>
          cases parsed : parse tokens with
          | error e => exact .tokens read cut parsed
          | ok tree => exact .program read cut parsed

/-- What the commands answer for a file: the tokens listed, the program shown, and the program run
    with a bound on rounds. -/
structure Answered (name : String) (file : SourceFile) (switch : Bool) (listed shown : Answer)
    (ran : Nat → Option Answer) : Prop where
  tokenize : tokenizeFile switch name file = listed
  parse : parseFile switch name file = shown
  run : ∀ bound, runFile bound switch name file = ran bound

theorem Answered.codes {name : String} {file : SourceFile} {switch : Bool} {listed shown : Answer}
    {ran : Nat → Option Answer} (answered : Answered name file switch listed shown ran) :
    (tokenizeFile switch name file).code = listed.code ∧
      (parseFile switch name file).code = shown.code :=
  ⟨congrArg Answer.code answered.tokenize, congrArg Answer.code answered.parse⟩

section Stages

variable {file : SourceFile} {source : String} {tokens : List Token}

/-- All commands word it alike that a file cannot be read. -/
theorem answered_of_unread {e : FileError} (unread : file.text = .error e) (name : String)
    (switch : Bool) :
    Answered name file switch (.failure (e.message name)) (.failure (e.message name))
      fun _ => some (.failure (e.message name)) where
  tokenize := by simp [tokenizeFile, readSource, unread]
  parse := by simp [parseFile, readSource, unread]
  run bound := by simp [runFile, readSource, unread]

theorem runText_of_error {failure : Failure} (unread : readProgram source = .error failure)
    (bound : Nat) (dumpVars : Bool) :
    runText bound dumpVars source = some (.failure failure.message) := by
  rw [runText, run_of_error unread]

/-- All commands word it alike that a text cannot be cut into tokens. -/
theorem answered_of_uncut {e : LexError} (read : file.text = .ok source)
    (uncut : tokenize source = .error e) (name : String) (switch : Bool) :
    Answered name file switch (.failure ("Lexer error: " ++ e.message))
      (.failure ("Lexer error: " ++ e.message))
      fun _ => some (.failure ("Lexer error: " ++ e.message)) where
  tokenize := by simp [tokenizeFile, tokenizeText, readSource, read, lex, uncut]
  parse := by simp [parseFile, parseText, readSource, read, lex, uncut]
  run bound := by
    have unread : readProgram source = .error (.lexing e) := by rw [readProgram, uncut]
    simp only [runFile, readSource, read]
    exact runText_of_error unread bound switch

/-- Tokens that are no program can be listed, and the other commands word it alike that they are
    none. -/
theorem answered_of_refused {e : ParseError} (read : file.text = .ok source)
    (cut : tokenize source = .ok tokens) (refused : parse tokens = .error e) (name : String)
    (switch : Bool) :
    Answered name file switch (.success (showTokens switch tokens))
      (.failure ("Parse error: " ++ e.message))
      fun _ => some (.failure ("Parse error: " ++ e.message)) where
  tokenize := by simp [tokenizeFile, tokenizeText, readSource, read, lex, cut]
  parse := by simp [parseFile, parseText, readSource, read, lex, cut, refused]
  run bound := by
    have unread : readProgram source = .error (.parsing e) := by simp [readProgram, cut, refused]
    simp only [runFile, readSource, read]
    exact runText_of_error unread bound switch

/-- A program can be shown, and it is run as it is when its text is given. -/
theorem answered_of_accepted {program : Stmt} (read : file.text = .ok source)
    (cut : tokenize source = .ok tokens) (accepted : parse tokens = .ok program) (name : String)
    (switch : Bool) :
    Answered name file switch (.success (showTokens switch tokens))
      (.success (showProgram switch program)) fun bound => runText bound switch source where
  tokenize := by simp [tokenizeFile, tokenizeText, readSource, read, lex, cut]
  parse := by simp [parseFile, parseText, readSource, read, lex, cut, accepted]
  run bound := by simp only [runFile, readSource, read]

/-- Whether tokens can be listed and a program can be shown is decided by the file, not by the form
    in which they are shown. -/
theorem exists_codes (name : String) (file : SourceFile) :
    ∃ listed shown : UInt8, (listed = 0 ∨ listed = 1) ∧ (shown = 0 ∨ shown = 1) ∧
      ∀ json, (tokenizeFile json name file).code = listed ∧
        (parseFile json name file).code = shown := by
  cases reaches file with
  | nothing unread =>
      exact ⟨1, 1, .inr rfl, .inr rfl, fun json => (answered_of_unread unread name json).codes⟩
  | text read uncut =>
      exact ⟨1, 1, .inr rfl, .inr rfl, fun json => (answered_of_uncut read uncut name json).codes⟩
  | tokens read cut refused =>
      exact ⟨0, 1, .inl rfl, .inr rfl, fun json =>
        (answered_of_refused read cut refused name json).codes⟩
  | program read cut accepted =>
      exact ⟨0, 0, .inl rfl, .inl rfl, fun json =>
        (answered_of_accepted read cut accepted name json).codes⟩

end Stages

section Runs

variable {source : String} {seen : Observation} {a : Answer}

/-- What a run that has ended shows: what was printed, and then how it failed or, if it is asked
    for, what is bound. -/
def shownOf (dumpVars : Bool) (seen : Observation) : Answer :=
  match seen.failure with
  | none => ⟨0, seen.output, if dumpVars then dumpStore seen.store else ""⟩
  | some failure => ⟨1, seen.output, failure.message ++ "\n"⟩

theorem shownOf_output (dumpVars : Bool) (seen : Observation) :
    (shownOf dumpVars seen).output = seen.output := by
  rw [shownOf]
  split <;> rfl

theorem shownOf_code (dumpVars other : Bool) (seen : Observation) :
    (shownOf other seen).code = (shownOf dumpVars seen).code := by
  rw [shownOf, shownOf]
  split <;> rfl

theorem runText_eq (bound : Nat) (dumpVars : Bool) (source : String) :
    runText bound dumpVars source =
      (observation? .unlimited (run bound source .unlimited)).map (shownOf dumpVars) := by
  rw [runText]
  cases run bound source Buffer.unlimited with
  | error failure => rfl
  | ok ended => cases ended <;> rfl

/-- Every bound from some bound on gives the end of a run. -/
theorem exists_bound_of_runsTo {buffer : Buffer} (runs : RunsTo source buffer seen) :
    ∃ least, ∀ bound, least ≤ bound →
      observation? buffer (run bound source buffer) = some seen := by
  cases read : readProgram source with
  | error failure =>
      obtain ⟨bound, ended⟩ := runs
      rw [run_of_error read] at ended
      exact ⟨0, fun bound _ => by rw [run_of_error read, ended]⟩
  | ok program =>
      obtain ⟨run, ends, ended⟩ := runs.exists_ends read
      obtain ⟨least, same⟩ := ends.exists_bound
      exact ⟨least, fun bound le => by rw [run_of_ok read, same bound le, ended]⟩

theorem runText_of_runsTo (runs : RunsTo source .unlimited seen) (dumpVars : Bool) :
    ∃ least, ∀ bound, least ≤ bound →
      runText bound dumpVars source = some (shownOf dumpVars seen) := by
  obtain ⟨least, same⟩ := exists_bound_of_runsTo runs
  exact ⟨least, fun bound le => by rw [runText_eq, same bound le, Option.map_some]⟩

/-- Only what is said on the error output hangs on whether the variables are shown. -/
theorem runText_switch {bound : Nat} {dumpVars : Bool}
    (same : runText bound dumpVars source = some a) (other : Bool) :
    ∃ errors least, ∀ bound, least ≤ bound →
      runText bound other source = some ⟨a.code, a.output, errors⟩ := by
  rw [runText_eq, Option.map_eq_some_iff] at same
  obtain ⟨seen, ended, rfl⟩ := same
  obtain ⟨least, otherSame⟩ := runText_of_runsTo ⟨bound, ended⟩ other
  refine ⟨(shownOf other seen).errors, least, fun bound le => ?_⟩
  rw [otherSame bound le, ← shownOf_code dumpVars other, shownOf_output dumpVars,
    ← shownOf_output other]

/-- A text that holds a program fails only while it is run. -/
theorem shownOf_of_accepted {program : Stmt} (accepted : readProgram source = .ok program)
    (runs : RunsTo source .unlimited seen) (dumpVars : Bool) :
    (shownOf dumpVars seen).code = 0 ∨
      (shownOf dumpVars seen).code = 1 ∧
        ∃ text, (shownOf dumpVars seen).errors = "Runtime error: " ++ text := by
  obtain ⟨run, -, ended⟩ := runs.exists_ends accepted
  cases run with
  | done m =>
      cases ended
      exact .inl rfl
  | failed e m =>
      cases ended
      exact .inr ⟨rfl, e.message ++ "\n", by simp [shownOf, Failure.message, String.append_assoc]⟩
  | outOfRounds => cases ended

end Runs

/-- A command comes to an answer: its program ends, if it runs one, and no larger bound on rounds
    changes the answer. -/
def Command.Answers (command : Command) (find : String → SourceFile) (a : Answer) : Prop :=
  ∃ least, ∀ bound, least ≤ bound → command.answer bound find = some a

section Commands

variable {find : String → SourceFile} {file : String} {command : Command} {a b : Answer}

theorem Command.Answers.unique (answers : command.Answers find a)
    (also : command.Answers find b) : a = b := by
  obtain ⟨least, same⟩ := answers
  obtain ⟨otherLeast, otherSame⟩ := also
  have first := same (max least otherLeast) (Nat.le_max_left ..)
  exact Option.some.inj (first.symm.trans (otherSame _ (Nat.le_max_right ..)))

theorem tokenize_answers (find : String → SourceFile) (file : String) (json : Bool) :
    (Command.tokenize file json).Answers find (tokenizeFile json file (find file)) :=
  ⟨0, fun _ _ => rfl⟩

theorem parse_answers (find : String → SourceFile) (file : String) (json : Bool) :
    (Command.parse file json).Answers find (parseFile json file (find file)) :=
  ⟨0, fun _ _ => rfl⟩

theorem run_answers {switch : Bool} {listed shown : Answer}
    (answered : Answered file (find file) switch listed shown fun _ => some a) :
    (Command.run (some file) none switch).Answers find a :=
  ⟨0, fun bound _ => answered.run bound⟩

/-- Where the tokens cannot be listed, nothing else can be done either. -/
theorem answers_of_tokenize_failed {json : Bool}
    (answers : (Command.tokenize file json).Answers find a) (failed : a.code = 1) (switch : Bool) :
    (Command.parse file switch).Answers find ⟨1, .empty, a.errors⟩ ∧
      (Command.run (some file) none switch).Answers find ⟨1, .empty, a.errors⟩ := by
  obtain rfl := answers.unique (tokenize_answers find file json)
  have parseAnswers := parse_answers find file switch
  cases reaches (find file) with
  | nothing unread =>
      have answered := answered_of_unread unread file switch
      rw [answered.parse] at parseAnswers
      rw [(answered_of_unread unread file json).tokenize]
      exact ⟨parseAnswers, run_answers answered⟩
  | text read uncut =>
      have answered := answered_of_uncut read uncut file switch
      rw [answered.parse] at parseAnswers
      rw [(answered_of_uncut read uncut file json).tokenize]
      exact ⟨parseAnswers, run_answers answered⟩
  | tokens read cut refused =>
      rw [(answered_of_refused read cut refused file json).tokenize] at failed
      cases failed
  | program read cut accepted =>
      rw [(answered_of_accepted read cut accepted file json).tokenize] at failed
      cases failed

/-- Where there are tokens but no program, nothing can be run. -/
theorem run_answers_of_parse_failed {json other : Bool}
    (answers : (Command.tokenize file json).Answers find a) (listed : a.code = 0)
    (parseAnswers : (Command.parse file other).Answers find b) (failed : b.code = 1)
    (switch : Bool) : (Command.run (some file) none switch).Answers find ⟨1, .empty, b.errors⟩ := by
  obtain rfl := answers.unique (tokenize_answers find file json)
  obtain rfl := parseAnswers.unique (parse_answers find file other)
  cases reaches (find file) with
  | nothing unread =>
      rw [(answered_of_unread unread file json).tokenize] at listed
      cases listed
  | text read uncut =>
      rw [(answered_of_uncut read uncut file json).tokenize] at listed
      cases listed
  | tokens read cut refused =>
      rw [(answered_of_refused read cut refused file other).parse]
      exact run_answers (answered_of_refused read cut refused file switch)
  | program read cut accepted =>
      rw [(answered_of_accepted read cut accepted file other).parse] at failed
      cases failed

/-- Where a program can be shown, it is run as it is when its text is given. -/
theorem run_answers_of_parse_answers {json : Bool}
    (parseAnswers : (Command.parse file json).Answers find a) (shown : a.code = 0) :
    ∃ source program, (find file).text = .ok source ∧ readProgram source = .ok program ∧
      ∀ bound switch, (Command.run (some file) none switch).answer bound find =
        (Command.run none (some source) switch).answer bound find := by
  obtain rfl := parseAnswers.unique (parse_answers find file json)
  cases reaches (find file) with
  | nothing unread =>
      rw [(answered_of_unread unread file json).parse] at shown
      cases shown
  | text read uncut =>
      rw [(answered_of_uncut read uncut file json).parse] at shown
      cases shown
  | tokens read cut refused =>
      rw [(answered_of_refused read cut refused file json).parse] at shown
      cases shown
  | @program source tokens program read cut accepted =>
      refine ⟨source, program, read, by simp [readProgram, cut, accepted], fun bound switch => ?_⟩
      exact (answered_of_accepted read cut accepted file switch).run bound

/-- Whether the variables are shown changes neither the output nor the code. -/
theorem run_answers_switch {file source : Option String} {dumpVars : Bool}
    (answers : (Command.run file source dumpVars).Answers find a) (other : Bool) :
    ∃ errors, (Command.run file source other).Answers find ⟨a.code, a.output, errors⟩ := by
  obtain ⟨least, same⟩ := answers
  have ended := same least (Nat.le_refl _)
  cases source with
  | some source =>
      obtain ⟨errors, others⟩ := runText_switch ended other
      exact ⟨errors, others⟩
  | none =>
      cases file with
      | none =>
          cases ended
          exact ⟨_, 0, fun _ _ => rfl⟩
      | some file =>
          simp only [Command.answer, runFile] at ended
          simp only [Command.Answers, Command.answer, runFile]
          cases read : readSource file (find file) with
          | error failed =>
              rw [read] at ended
              cases ended
              exact ⟨_, 0, fun _ _ => rfl⟩
          | ok source =>
              rw [read] at ended
              exact runText_switch ended other

end Commands

/-- The commands agree on failures, whatever stands under the name of a file. Listing its tokens and
    showing its program always come to an answer, and the switch for JSON does not change the code.
    If the tokens cannot be listed, the other commands fail with nothing on the output and the same
    words on the error output; if the tokens can be listed and the program cannot be shown, then
    running it fails in the words of the latter. If both go well and the program ends, running it
    goes well or fails with a runtime error, its output is what was printed, and the answer is that
    to the same text given in the arguments. Showing the variables changes neither the output nor
    the code. -/
theorem commands_agree (find : String → SourceFile) (file : String) :
    (∃ code, (code = 0 ∨ code = 1) ∧
      ∀ json, ∃ a, (Command.tokenize file json).Answers find a ∧ a.code = code) ∧
    (∃ code, (code = 0 ∨ code = 1) ∧
      ∀ json, ∃ a, (Command.parse file json).Answers find a ∧ a.code = code) ∧
    (∀ json a, (Command.tokenize file json).Answers find a → a.code = 1 →
      ∀ switch, (Command.parse file switch).Answers find ⟨1, .empty, a.errors⟩ ∧
        (Command.run (some file) none switch).Answers find ⟨1, .empty, a.errors⟩) ∧
    (∀ json a, (Command.tokenize file json).Answers find a → a.code = 0 →
      ∀ json b, (Command.parse file json).Answers find b → b.code = 1 →
        ∀ switch, (Command.run (some file) none switch).Answers find ⟨1, .empty, b.errors⟩) ∧
    (∀ json a, (Command.tokenize file json).Answers find a → a.code = 0 →
      ∀ json b, (Command.parse file json).Answers find b → b.code = 0 →
        ∃ source, (find file).text = .ok source ∧ ∀ seen, RunsTo source .unlimited seen →
          ∀ switch, ∃ c, (Command.run (some file) none switch).Answers find c ∧
            (Command.run none (some source) switch).Answers find c ∧ c.output = seen.output ∧
            (c.code = 0 ∨ c.code = 1 ∧ ∃ text, c.errors = "Runtime error: " ++ text)) ∧
    ∀ program source switch a, (Command.run program source switch).Answers find a →
      ∀ other, ∃ errors,
        (Command.run program source other).Answers find ⟨a.code, a.output, errors⟩ := by
  obtain ⟨listed, shown, listedCode, shownCode, codes⟩ := exists_codes file (find file)
  refine ⟨?_, ?_, fun _ _ => answers_of_tokenize_failed,
    fun _ _ answers listed _ _ => run_answers_of_parse_failed answers listed, ?_,
    fun _ _ _ _ => run_answers_switch⟩
  · exact ⟨listed, listedCode, fun json => ⟨_, tokenize_answers find file json, (codes json).1⟩⟩
  · exact ⟨shown, shownCode, fun json => ⟨_, parse_answers find file json, (codes json).2⟩⟩
  · intro _ _ _ _ _ _ answers shown
    obtain ⟨source, program, read, accepted, same⟩ := run_answers_of_parse_answers answers shown
    refine ⟨source, read, fun seen runs switch => ⟨shownOf switch seen, ?_⟩⟩
    obtain ⟨least, ended⟩ := runText_of_runsTo runs switch
    exact ⟨⟨least, fun bound le => (same bound switch).trans (ended bound le)⟩, ⟨least, ended⟩,
      shownOf_output switch seen, shownOf_of_accepted accepted runs switch⟩

end Kiss.CommandLine
