import Kiss.Proofs.Calls.Sequence

/-!
# An end of the input behind the last token

Behind its last token a parser sees an end of the input as often as it looks. If the tokens have
one more end there, the parser comes to it in the same state, and is behind all tokens once it has
passed it. So it is the same whether the end is among the tokens or not: one call keeps two such
parsers in line (`ClosedBy.next`), and therefore all calls give the same (`result_closed`).
-/

namespace Kiss

/-- The end of the input where the last token stands, or at the start if there is no token. -/
def Token.closing (ts : List Token) : Token :=
  match ts.getLast? with
  | some last => .endOfInput last.position
  | none => .endOfInput .start

namespace Grammar

open Kiss.Parser (frontKind)

variable {z : Token} {ts us : List Token}

/-- The same tokens, without and with an end of the input behind them, as long as that end is not
    passed. -/
inductive Closes (z : Token) : List Token → List Token → Prop where
  | ahead (ts : List Token) : Closes z ts (ts ++ [z])
  | passed : Closes z [] []

namespace Closes

theorem front (isEnd : z.kind = .endOfInput) (closes : Closes z ts us) :
    frontKind us = frontKind ts := by
  cases closes with
  | ahead =>
      cases ts with
      | nil => exact isEnd
      | cons => rfl
  | passed => rfl

/-- If there is no token left, the end is what is passed. -/
theorem tail (closes : Closes z ts us) : Closes z ts.tail us.tail := by
  cases closes with
  | ahead =>
      cases ts with
      | nil => exact .passed
      | cons t rest => exact .ahead rest
  | passed => exact .passed

theorem headD (closes : Closes z ts us) : us.headD z = ts.headD z := by
  cases closes with
  | ahead => cases ts <;> rfl
  | passed => rfl

theorem head_eq {t u : Token} (closes : Closes z (t :: ts) (u :: us)) : u = t :=
  closes.headD

/-- Nothing tells the runs apart, so there is no limit to the lockstep. -/
def lockstep (isEnd : z.kind = .endOfInput) : Lockstep where
  agree := Closes z
  limit := 0
  same := True
  front closes _ := closes.front isEnd
  tail closes _ _ := closes.tail
  converts closes converts := closes.head_eq ▸ converts
  value _ closes _ := by rw [closes.head_eq]

end Closes

end Grammar

namespace Parser

open Kiss.Grammar (Closes)

variable {z : Token} {p q : Parser}

/-- Two parsers at the same place and depth, the second one with an end of the input behind its
    tokens that is the sentinel of both. -/
structure ClosedBy (z : Token) (p q : Parser) : Prop where
  closes : Closes z p.rest q.rest
  sentinel : p.sentinel = z
  otherSentinel : q.sentinel = z
  depth : q.depth = p.depth

/-- One call gives the same, and behind it the parsers are as they were. -/
theorem ClosedBy.next (isEnd : z.kind = .endOfInput) (closed : ClosedBy z p q) :
    q.parse.1 = p.parse.1 ∧ ClosedBy z p.parse.2 q.parse.2 := by
  obtain ⟨closes, sentinel, otherSentinel, depth⟩ := closed
  rw [parse, parse, depth]
  cases result : program p.depth [] p.rest with
  | ok tree rest =>
      obtain ⟨last, left, _, rfl, also, read⟩ :=
        (Closes.lockstep isEnd).program_reads rfl trivial result closes
      rw [read]
      exact ⟨rfl, also.tail, sentinel, otherSentinel, rfl⟩
  | fail fault rest reached =>
      obtain ⟨place, left, failed, faultsAlike, also⟩ :=
        (Closes.lockstep isEnd).program_fails result (fun _ => trivial) (Nat.zero_le _) closes []
      rw [failed, sentinel, otherSentinel]
      have reported : place.headD z = fault.place.headD z := faultsAlike.headD
      refine ⟨?_, also, rfl, rfl, rfl⟩
      exact congrArg (fun t => Except.error (ParseError.mk fault.cause t)) reported

theorem ClosedBy.after (isEnd : z.kind = .endOfInput) (closed : ClosedBy z p q) (calls : Nat) :
    ClosedBy z (p.after calls) (q.after calls) := by
  induction calls with
  | zero => exact closed
  | succ calls ih =>
      rw [after_succ, after_succ]
      exact (ih.next isEnd).2

theorem sentinel_ofTokens (ts : List Token) : (ofTokens ts).sentinel = .closing ts := by
  rw [ofTokens, Token.closing]
  cases ts.getLast? <;> rfl

/-- An end of the input behind the last token, at the place of that token, changes nothing that any
    call gives: neither a tree nor an error nor the token at which the error stands. -/
theorem result_closed (ts : List Token) (n : Nat) :
    (ofTokens (ts ++ [.closing ts])).result n = (ofTokens ts).result n := by
  have isEnd : (Token.closing ts).kind = .endOfInput := by
    rw [Token.closing]
    cases ts.getLast? <;> rfl
  have sentinel : (Token.closing (ts ++ [Token.closing ts])) = .closing ts := by
    rw [Token.closing, List.getLast?_concat, Token.closing]
    cases ts.getLast? <;> rfl
  have closed : ClosedBy (.closing ts) (ofTokens ts) (ofTokens (ts ++ [Token.closing ts])) :=
    { closes := .ahead ts
      sentinel := sentinel_ofTokens ts
      otherSentinel := (sentinel_ofTokens _).trans sentinel
      depth := rfl }
  exact ((closed.after isEnd n).next isEnd).1

end Parser

end Kiss
