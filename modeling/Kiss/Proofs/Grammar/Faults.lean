import Kiss.Proofs.Grammar.Recast
import Kiss.Proofs.Grammar.StmtLockstep

/-!
# Errors point at the fault

What stands in front of the token that a parse error reports begins some program, so nothing
before it is wrong. And if the error lies neither in the depth nor in a literal, then no program
goes on as the tokens do from there, up to the third one behind: a program whose tokens have the
same kinds that far would be read in lockstep and refused for the same cause, but with literals
that denote numbers it could only be refused for its depth.
-/

namespace Kiss.Grammar

open Kiss.Parser (frontKind)

variable {ts us : List Token}

/-- The place of the token that the first failure to read a program reports; one behind the last
    token if it reports the sentinel. -/
def faultIndex? (ts : List Token) : Option Nat :=
  match Parser.program 0 [] ts with
  | .ok _ _ => none
  | .fail fault _ _ => some (ts.length - fault.place.length)

/-- The kinds of the tokens of a program, with that of the end behind them. -/
def kinds (ts : List Token) : List TokenKind :=
  (body ts).map (·.kind) ++ [.endOfInput]

/-- The kinds of the tokens up to the third one behind a place, or up to the end of the input. -/
def window (ts : List Token) (k : Nat) : List TokenKind :=
  (kinds ts).take (k + 4)

theorem kinds_of_ne (noEnd : frontKind ts ≠ .endOfInput) :
    kinds ts = frontKind ts :: kinds ts.tail := by
  cases ts with
  | nil => exact absurd rfl noEnd
  | cons t rest =>
      have noEnd : t.kind ≠ .endOfInput := noEnd
      simp [kinds, body, noEnd, frontKind]

/-- The first of the kinds is that of the token at the front. -/
theorem exists_kinds (ts : List Token) : ∃ others, kinds ts = frontKind ts :: others := by
  by_cases atEnd : frontKind ts = .endOfInput
  · exact ⟨[], by rw [kinds, body_eq_nil atEnd, atEnd]; rfl⟩
  · exact ⟨_, kinds_of_ne atEnd⟩

theorem exists_fault {e : ParseError} (failed : parse ts = .error e) :
    ∃ fault rest reached, Parser.program 0 [] ts = .fail fault rest reached ∧
      e = ⟨fault.cause, fault.place.headD (Parser.ofTokens ts).sentinel⟩ := by
  simp only [parse, Parser.parse, Parser.ofTokens] at failed
  cases result : Parser.program 0 [] ts with
  | ok tree rest =>
      rw [result] at failed
      cases failed
  | fail fault rest reached =>
      rw [result] at failed
      cases failed
      exact ⟨fault, rest, reached, rfl, rfl⟩

theorem parse_eq_error {fault : Parser.Fault} {rest : List Token} {reached : Nat}
    (failed : Parser.program 0 [] ts = .fail fault rest reached) :
    parse ts = .error ⟨fault.cause, fault.place.headD (Parser.ofTokens ts).sentinel⟩ := by
  simp only [parse, Parser.parse, Parser.ofTokens]
  rw [failed]

/-- Other tokens go through the same kinds up to the third token behind a limit, and all their
    literals denote numbers. -/
structure LooksAlike (limit : Nat) (ts us : List Token) : Prop where
  begins : (kinds ts).take (ts.length + 4 - limit) <+: us.map (·.kind)
  converts : ∀ u ∈ us, Converts u

namespace LooksAlike

variable {limit : Nat}

/-- There is a token within the limit, and what is behind it looks alike in turn. -/
theorem exists_cons (alike : LooksAlike limit ts us) (near : limit ≤ ts.length + 3) :
    ∃ u others, us = u :: others ∧ u.kind = frontKind ts ∧
      (frontKind ts ≠ .endOfInput → LooksAlike limit ts.tail others) := by
  obtain ⟨more, same⟩ := alike.begins
  have count : ts.length + 4 - limit = ts.length + 3 - limit + 1 := by omega
  obtain ⟨kinds, split⟩ := exists_kinds ts
  rw [count, split, List.take_succ_cons, List.cons_append] at same
  cases us with
  | nil => cases same
  | cons u others =>
      obtain ⟨first, behind⟩ := List.cons.inj same
      refine ⟨u, others, rfl, first.symm, fun noEnd => ⟨⟨more, ?_⟩, fun v member =>
        alike.converts v (List.mem_cons_of_mem _ member)⟩⟩
      -- the tail has one token less, and the window ends where it ended
      have left := List.length_pos_iff.mpr (Parser.ne_nil_of_frontKind rfl noEnd)
      rw [kinds_of_ne noEnd] at split
      rw [← (List.cons.inj split).2] at behind
      have shorter : ts.tail.length + 4 - limit = ts.length + 3 - limit := by
        rw [List.length_tail]
        omega
      rw [← behind, shorter]

theorem front (alike : LooksAlike limit ts us) (near : limit ≤ ts.length + 3) :
    frontKind us = frontKind ts := by
  obtain ⟨u, others, rfl, same, _⟩ := alike.exists_cons near
  exact same

theorem tail (alike : LooksAlike limit ts us) (near : limit ≤ ts.length + 3)
    (noEnd : frontKind ts ≠ .endOfInput) : LooksAlike limit ts.tail us.tail := by
  obtain ⟨u, others, rfl, _, also⟩ := alike.exists_cons near
  exact also noEnd

/-- Values do not count. -/
def lockstep (limit : Nat) : Lockstep where
  agree := LooksAlike limit
  limit := limit
  same := False
  front := front
  tail := tail
  converts alike _ := alike.converts _ (List.mem_cons_self ..)
  value := False.elim

end LooksAlike

/-- Literals that denote numbers, in place of all others. -/
def Recasting.zeros : Recasting where
  token t := if t.kind = .number ∨ t.kind = .hexNumber then { t with value := "0" } else t
  keeps t := by split <;> rfl

theorem Recasting.converts_zeros (t : Token) : Converts (zeros.token t) := by
  have decimal : (Number.read? "0").isSome := by decide
  have hex : (Number.readHex? "0").isSome := by decide
  by_cases literal : t.kind = .number ∨ t.kind = .hexNumber
  · simp only [zeros, if_pos literal]
    exact ⟨fun _ => decimal, fun _ => hex⟩
  · simp only [zeros, if_neg literal]
    exact ⟨fun number => absurd (.inl number) literal, fun number => absurd (.inr number) literal⟩

/-- A program whose tokens have the kinds of the window at a fault would be refused as well. -/
theorem not_prefix_of_fails {fault : Parser.Fault} {rest : List Token} {reached : Nat}
    (failed : Parser.program 0 [] ts = .fail fault rest reached) (deep : fault.cause ≠ .tooDeep)
    (noLiteral : ¬fault.cause.IsLiteral) (program : Program) :
    ¬window ts (ts.length - fault.place.length) <+:
      program.tokens.map (·.kind) ++ [.endOfInput] := by
  intro isPrefix
  have inside := (begins_program failed).length_le
  let other := program.recast .zeros
  let us := other.tokens ++ [Token.endOfInput .start]
  have tokens : other.tokens = program.tokens.map Recasting.zeros.token :=
    program.tokens_recast
  have converts : ∀ u ∈ other.tokens, Converts u := by
    rw [tokens]
    exact fun u member => by
      obtain ⟨t, _, rfl⟩ := List.mem_map.mp member
      exact Recasting.converts_zeros t
  have alike : LooksAlike fault.place.length ts us := by
    refine ⟨?_, fun u member => ?_⟩
    · have count : ts.length - fault.place.length + 4 = ts.length + 4 - fault.place.length := by
        omega
      rw [window, count] at isPrefix
      have sameKinds :
          us.map (·.kind) = program.tokens.map (·.kind) ++ [TokenKind.endOfInput] := by
        simp [us, tokens, Recasting.zeros.keeps, Function.comp_def, Token.endOfInput]
      rw [sameKinds]
      exact isPrefix
    · rcases List.mem_append.mp member with literal | atEnd
      · exact converts u literal
      · rw [List.mem_singleton.mp atEnd]
        exact ⟨fun number => (by cases number), fun number => (by cases number)⟩
  -- both runs fail for the same cause, but a program can be refused for its depth alone
  obtain ⟨place, left, also, _⟩ := (LooksAlike.lockstep fault.place.length).program_fails failed
    (fun literal => absurd literal noLiteral) (Nat.le_refl _) alike []
  have bodySame : other.tokens = body us := by
    rw [body_append other.kind_ne_endOfInput, body_eq_nil rfl, List.append_nil]
  obtain ⟨trees, found⟩ := other.exists_tree converts
  have blockFound : blockTree? other = some (.block trees) := by
    rw [blockTree?, found]
    rfl
  have refused := parse_eq_error also
  rcases parse_of_program bodySame blockFound with ⟨_, accepted⟩ | ⟨_, t, tooDeep⟩
  · rw [accepted] at refused
    cases refused
  · rw [tooDeep] at refused
    injection refused with same
    exact deep (congrArg ParseError.cause same).symm

/-- Parse errors point at the fault. The tokens in front of the one that is reported begin a
    program. And unless the error is about depth or about a literal, no program with the end
    behind it goes through the same kinds of token up to the third one behind that place, or up
    to the end of the input if that comes first. -/
theorem parse_error_at_fault {e : ParseError} (failed : parse ts = .error e) :
    ∃ k, faultIndex? ts = some k ∧ k ≤ ts.length ∧
      e.token = (ts[k]?).getD (Parser.ofTokens ts).sentinel ∧
      (∃ program : Program, ts.take k <+: program.tokens) ∧
      (e.cause ≠ .tooDeep → ¬e.cause.IsLiteral → ∀ program : Program,
        ¬window ts k <+: program.tokens.map (·.kind) ++ [.endOfInput]) := by
  obtain ⟨fault, rest, reached, result, rfl⟩ := exists_fault failed
  refine ⟨ts.length - fault.place.length, ?_, Nat.sub_le .., ?_, ?_, fun deep literal program =>
    not_prefix_of_fails result deep literal program⟩
  · rw [faultIndex?, result]
  · obtain ⟨taken, more, rfl, _⟩ := begins_program result
    rw [List.length_append, Nat.add_sub_cancel, List.getElem?_append_right (Nat.le_refl _),
      Nat.sub_self, ← List.head?_eq_getElem?, List.headD_eq_head?_getD]
  · obtain ⟨taken, more, rfl, program, same⟩ := begins_program result
    refine ⟨program, ?_⟩
    rw [List.length_append, Nat.add_sub_cancel, List.take_left', same]
    · exact List.prefix_append ..
    · rfl

/-- The tokens of `x.y;`, a name and a field in front of something else than `=`. -/
def halfAssignment : List Token :=
  [⟨.word, "x", ⟨1, 1⟩⟩, ⟨.symbol .dot, ".", ⟨1, 2⟩⟩, ⟨.word, "y", ⟨1, 3⟩⟩,
    ⟨.symbol .semicolon, ";", ⟨1, 4⟩⟩, .endOfInput ⟨1, 5⟩]

/-- The statement that `x` begins is unknown because of the third token behind it. -/
theorem parse_error_at_fault_halfAssignment :
    parse halfAssignment = .error ⟨.unknownStatement, ⟨.word, "x", ⟨1, 1⟩⟩⟩ ∧
      ∀ program : Program, ¬[.word, .symbol .dot, .word, .symbol .semicolon] <+:
        program.tokens.map (·.kind) ++ [TokenKind.endOfInput] := by
  have failed : Parser.program 0 [] halfAssignment =
      .fail ⟨.unknownStatement, halfAssignment⟩ halfAssignment 0 := by
    rw [program_of_ne 0 [] (by decide), statement_eq, if_pos (by decide)]
    rfl
  have refused := parse_eq_error failed
  obtain ⟨k, place, _, _, _, noProgram⟩ := parse_error_at_fault refused
  rw [faultIndex?, failed] at place
  cases place
  exact ⟨refused, noProgram (by decide) (by unfold ParseCause.IsLiteral; decide)⟩

end Kiss.Grammar
