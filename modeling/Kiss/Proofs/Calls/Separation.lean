import Kiss.Proofs.Calls.Sequence

/-!
# Programs one behind the other

Nothing is read beyond an end of the input, and nothing behind it is looked at. So tokens that
hold several programs, each with an end of the input behind it, are read program by program: a call
gives what the program at which it begins gives on its own, and if that was read the next call
begins at the next program, with no level counted. Behind the last token there is an end of the
input as often as a parser is called.
-/

namespace Kiss

open Kiss.Parser (Outcome frontKind)

/-- The tokens of a program, with an end of the input behind them and nowhere else. -/
structure EndedTokens where
  inner : List Token
  ending : Token
  noEnd : ∀ t ∈ inner, t.kind ≠ .endOfInput
  isEnd : ending.kind = .endOfInput

namespace EndedTokens

/-- All the tokens, the end of the input among them. -/
def all (ended : EndedTokens) : List Token :=
  ended.inner ++ [ended.ending]

theorem all_append (ended : EndedTokens) (ts : List Token) :
    ended.all ++ ts = ended.inner ++ ended.ending :: ts := by
  rw [all, List.append_assoc, List.singleton_append]

end EndedTokens

namespace Grammar

variable {behind other ts us : List Token}

/-- The same tokens up to an end of the input, and whatever there is behind it. -/
inductive EndAlike (behind other : List Token) : List Token → List Token → Prop where
  | ending {z : Token} (isEnd : z.kind = .endOfInput) :
      EndAlike behind other (z :: behind) (z :: other)
  | cons {t : Token} {ts us : List Token} (noEnd : t.kind ≠ .endOfInput)
      (also : EndAlike behind other ts us) : EndAlike behind other (t :: ts) (t :: us)

namespace EndAlike

theorem of_ended (ended : EndedTokens) (behind other : List Token) :
    EndAlike behind other (ended.all ++ behind) (ended.all ++ other) := by
  obtain ⟨inner, z, noEnd, isEnd⟩ := ended
  simp only [EndedTokens.all_append]
  induction inner with
  | nil => exact .ending isEnd
  | cons t inner ih =>
      exact .cons (noEnd t (List.mem_cons_self ..))
        (ih fun u member => noEnd u (List.mem_cons_of_mem t member))

theorem headD (alike : EndAlike behind other ts us) (t u : Token) :
    us.headD u = ts.headD t := by
  cases alike <;> rfl

theorem front (alike : EndAlike behind other ts us) : frontKind us = frontKind ts := by
  cases alike <;> rfl

theorem tail (alike : EndAlike behind other ts us) (noEnd : frontKind ts ≠ .endOfInput) :
    EndAlike behind other ts.tail us.tail := by
  cases alike with
  | ending isEnd => exact absurd isEnd noEnd
  | cons _ also => exact also

theorem tail_of_end (alike : EndAlike behind other ts us) (atEnd : frontKind ts = .endOfInput) :
    ts.tail = behind ∧ us.tail = other := by
  cases alike with
  | ending => exact ⟨rfl, rfl⟩
  | cons noEnd => exact absurd atEnd noEnd

theorem head_eq {t u : Token} (alike : EndAlike behind other (t :: ts) (u :: us)) : u = t :=
  alike.headD t u

/-- There is no limit to how far the runs look alike, since none goes beyond the end. -/
def lockstep (behind other : List Token) : Lockstep where
  agree := EndAlike behind other
  limit := 0
  same := True
  front alike _ := alike.front
  tail alike _ := alike.tail
  converts alike converts := alike.head_eq ▸ converts
  value _ alike _ := by rw [alike.head_eq]

/-- What is read of a program whatever there is behind its end. -/
theorem program (alike : EndAlike behind other ts us) (depth : Nat) (found : List Stmt) :
    match Parser.program depth found ts with
    | .ok tree rest => rest = behind ∧ Parser.program depth found us = .ok tree other
    | .fail fault rest reached => ∃ place left,
        Parser.program depth found us = .fail ⟨fault.cause, place⟩ left reached ∧
          EndAlike behind other fault.place place ∧ EndAlike behind other rest left := by
  cases result : Parser.program depth found ts with
  | ok tree rest =>
      obtain ⟨last, left, atEnd, rfl, also, read⟩ :=
        (lockstep behind other).program_reads rfl trivial result alike
      obtain ⟨first, second⟩ := also.tail_of_end atEnd
      exact ⟨first, second ▸ read⟩
  | fail fault rest reached =>
      exact (lockstep behind other).program_fails result (fun _ => trivial) (Nat.zero_le _) alike
        found

end EndAlike

end Grammar

namespace Parser

open Kiss.Grammar (EndAlike)

variable {p : Parser} {rest : List Token}

/-- A call with no level counted gives what the program at which it begins gives on its own, and if
    that was read it leaves what is behind. -/
theorem parse_ended (ended : EndedTokens) (level : p.depth = 0)
    (begins : p.rest = ended.all ++ rest) :
    p.parse.1 = Kiss.parse ended.all ∧
      ∀ tree, p.parse.1 = .ok tree → p.parse.2 = { p with rest } := by
  have alone := (EndAlike.of_ended ended rest []).program 0 []
  rw [List.append_nil] at alone
  rw [Kiss.parse, parse, parse, level, begins]
  simp only [ofTokens]
  cases result : program 0 [] (ended.all ++ rest) with
  | ok tree left =>
      rw [result] at alone
      obtain ⟨rfl, same⟩ := alone
      rw [same]
      exact ⟨rfl, fun _ _ => by rw [← level]⟩
  | fail fault left reached =>
      rw [result] at alone
      obtain ⟨place, _, same, alike, _⟩ := alone
      rw [same]
      refine ⟨?_, fun tree read => by cases read⟩
      exact congrArg (fun t => Except.error (ParseError.mk fault.cause t)) (alike.headD _ _).symm

/-- Behind a program the parser is as new, if there are tokens left. -/
theorem ofTokens_append (more : rest ≠ []) (ts : List Token) :
    { ofTokens (ts ++ rest) with rest } = ofTokens rest := by
  rw [ofTokens, ofTokens, List.getLast?_append_of_ne_nil ts more]

/-- A parser at an end of the input finds an empty program and passes the end. -/
theorem parse_of_end (atEnd : frontKind p.rest = .endOfInput) :
    p.parse = (.ok (.block []), { p with rest := p.rest.tail }) := by
  rw [parse, program, atEnd]
  rfl

/-- A parser that has used up its tokens is at an end that it never passes. -/
theorem parse_of_nil (usedUp : p.rest = []) : p.parse = (.ok (.block []), p) := by
  rw [parse_of_end (by rw [usedUp]; rfl), usedUp]
  cases p
  cases usedUp
  rfl

theorem after_of_nil (usedUp : p.rest = []) (calls : Nat) : p.after calls = p := by
  induction calls with
  | zero => rfl
  | succ calls ih => rw [after_succ, ih, parse_of_nil usedUp]

theorem result_of_nil (usedUp : p.rest = []) (calls : Nat) : p.result calls = .ok (.block []) := by
  rw [result, after_of_nil usedUp, parse_of_nil usedUp]

/-- The calls before one have all given a tree. -/
def ReadsBefore (p : Parser) (calls : Nat) : Prop :=
  ∀ call < calls, ∃ tree, p.result call = .ok tree

/-- Behind programs that were read there is left what is behind them. -/
theorem after_ended (programs : List EndedTokens) (level : p.depth = 0)
    (begins : p.rest = programs.flatMap EndedTokens.all ++ rest)
    (reads : p.ReadsBefore programs.length) : p.after programs.length = { p with rest } := by
  induction programs generalizing p with
  | nil =>
      cases p
      cases begins
      rfl
  | cons ended programs ih =>
      rw [List.flatMap_cons, List.append_assoc] at begins
      obtain ⟨tree, read⟩ := reads 0 (Nat.succ_pos _)
      have next := (parse_ended ended level begins).2 tree read
      have readsNext : p.parse.2.ReadsBefore programs.length :=
        fun call before => reads (call + 1) (Nat.succ_lt_succ before)
      rw [List.length_cons, after_succ_first]
      rw [next] at readsNext ⊢
      exact ih level rfl readsNext

/-- An end of the input separates programs. As long as the calls before gave trees, a call gives
    what the next program gives on its own, whatever there is behind it; behind the last of them
    the calls are those of a new parser of the tokens that are left; and once no tokens are left
    every call gives the empty program. -/
theorem results_ended (programs : List EndedTokens) (rest : List Token) :
    let p := ofTokens (programs.flatMap EndedTokens.all ++ rest)
    (∀ (n : Nat) (inside : n < programs.length), p.ReadsBefore n →
      p.result n = Kiss.parse programs[n].all) ∧
    (p.ReadsBefore programs.length → (p.after programs.length).rest = rest ∧
      (rest ≠ [] → ∀ n, p.result (programs.length + n) = (ofTokens rest).result n)) ∧
    (∀ calls, (p.after calls).rest = [] → ∀ n, p.result (calls + n) = .ok (.block [])) := by
  intro p
  refine ⟨fun n inside reads => ?_, fun reads => ?_, fun calls usedUp n => ?_⟩
  · have split : programs.flatMap EndedTokens.all ++ rest =
        (programs.take n).flatMap EndedTokens.all ++ (programs[n].all ++
          ((programs.drop (n + 1)).flatMap EndedTokens.all ++ rest)) := by
      conv_lhs => rw [← List.take_append_drop n programs, List.drop_eq_getElem_cons inside]
      rw [List.flatMap_append, List.flatMap_cons, List.append_assoc, List.append_assoc]
    have count : (programs.take n).length = n := List.length_take_of_le (Nat.le_of_lt inside)
    have reached := after_ended (p := p) (programs.take n) rfl split (by rwa [count])
    rw [count] at reached
    rw [result, reached]
    exact (parse_ended programs[n] rfl rfl).1
  · have reached := after_ended (p := p) programs rfl rfl reads
    refine ⟨by rw [reached], fun more n => ?_⟩
    rw [result_add, reached]
    exact congrArg (fun p => p.result n) (ofTokens_append more _)
  · rw [result_add]
    exact result_of_nil usedUp n

/-- The tokens of `print true` and the end of the input. -/
def endedTruth : EndedTokens where
  inner := Grammar.printedTruth.tokens
  ending := .endOfInput ⟨1, 11⟩
  noEnd := Grammar.printedTruth.kind_ne_endOfInput
  isEnd := rfl

/-- A parser of a program and of two ends of the input behind it. -/
def twoEnds : Parser :=
  ofTokens ([endedTruth].flatMap EndedTokens.all ++ [.endOfInput ⟨1, 11⟩])

/-- Between the two ends there is an empty program, and behind them there are nothing but empty
    programs. -/
theorem results_ended_twoEnds :
    twoEnds.result 0 = .ok (.block [.print (.bool true)]) ∧ twoEnds.result 1 = .ok (.block []) ∧
      twoEnds.result 9 = .ok (.block []) := by
  have alone : Kiss.parse endedTruth.all = .ok (.block [.print (.bool true)]) := by
    have same : Grammar.printedTruth.tokens = Grammar.body endedTruth.all := rfl
    rcases Grammar.parse_of_program same rfl with ⟨_, accepted⟩ | ⟨beyond, _⟩
    · exact accepted
    · exact absurd (by decide) beyond
  obtain ⟨first, behind, usedUp⟩ := results_ended [endedTruth] [.endOfInput ⟨1, 11⟩]
  have read : twoEnds.result 0 = .ok (.block [.print (.bool true)]) :=
    (first 0 Nat.one_pos fun _ impossible => absurd impossible (Nat.not_lt_zero _)).trans alone
  have reads : twoEnds.ReadsBefore 1 := fun call before => by
    rw [Nat.lt_one_iff.mp before]
    exact ⟨_, read⟩
  have left : (twoEnds.after 1).rest = [.endOfInput ⟨1, 11⟩] := (behind reads).1
  have next := (behind reads).2
  have last : (twoEnds.after 2).rest = [] := by
    rw [after_succ, parse_of_end (by rw [left]; rfl), left]
    rfl
  refine ⟨read, (next (by simp) 0).trans ?_, usedUp 2 last 7⟩
  rw [result_zero, parse_of_end rfl]

end Parser

end Kiss
