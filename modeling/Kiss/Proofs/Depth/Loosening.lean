import Kiss.Proofs.Depth.Closed
import Kiss.Proofs.Grammar.StmtLockstep

/-!
# Reading from a lower depth

Two runs on the same tokens, the second one from a lower depth, come to the same up to where the
first one finds no level free (`Outcome.LoosensTo`). Where it does, the second run may go on, and
then all that is known of it is that it ends no earlier. The two count different depths all along,
also where both fail; but the second never counts more than the first. So what the depth decides is
whether a result is an error of the depth, and not what the other results are.
-/

namespace Kiss

open Kiss.Parser (Level Outcome Reader frontKind readerAt)

namespace Parser.Outcome

variable {α β : Type} {first second : Outcome α} {depth lower : Nat} {ts : List Token}

/-- What a second run from a lower depth may come to: what was read by the first run is read by
    the second, and a fault is found again, except that the second goes on at least to where the
    first one finds itself too deep. -/
def LoosensTo (first second : Outcome α) : Prop :=
  match first with
  | .ok value rest => second = .ok value rest
  | .fail fault rest reached =>
      if fault.cause = .tooDeep then second.EndsIn rest
      else ∃ lower ≤ reached, second = .fail fault rest lower

theorem fail_loosensTo (fault : Fault) (le : lower ≤ depth) :
    (.fail fault ts depth : Outcome α).LoosensTo (.fail fault ts lower) := by
  show if fault.cause = .tooDeep then _ else _
  split
  · exact List.suffix_refl ts
  · exact ⟨lower, le, rfl⟩

theorem tooDeep_loosensTo (ends : second.EndsIn ts) :
    (tooDeep depth ts : Outcome α).LoosensTo second :=
  ends

theorem LoosensTo.leave (loosens : first.LoosensTo second) :
    first.leave.LoosensTo second.leave := by
  cases first with
  | ok value rest =>
      cases loosens
      rfl
  | fail fault rest reached =>
      simp only [LoosensTo, Outcome.leave] at loosens ⊢
      split at loosens
      · rw [if_pos ‹_›]
        exact EndsIn.leave loosens
      · rw [if_neg ‹_›]
        obtain ⟨lower, le, rfl⟩ := loosens
        exact ⟨lower - 1, Nat.sub_le_sub_right le 1, rfl⟩

/-- The second run may have gone on where the first was too deep, so it matters that what follows
    reads nothing but what is left. -/
theorem LoosensTo.fail_andThen {fault : Fault} {rest : List Token} {reached : Nat}
    {next : α → List Token → Outcome β}
    (loosens : (.fail fault rest reached : Outcome α).LoosensTo second)
    (ends : ∀ value rest, (next value rest).EndsIn rest) :
    (.fail fault rest reached : Outcome β).LoosensTo (second.andThen next) := by
  simp only [LoosensTo] at loosens ⊢
  split at loosens
  · rw [if_pos ‹_›]
    exact EndsIn.andThen loosens fun value left _ => ends value left
  · rw [if_neg ‹_›]
    obtain ⟨lower, le, rfl⟩ := loosens
    exact ⟨lower, le, rfl⟩

theorem LoosensTo.andThen {f g : α → List Token → Outcome β} (loosens : first.LoosensTo second)
    (ends : ∀ value rest, (g value rest).EndsIn rest)
    (more : ∀ value rest, (f value rest).LoosensTo (g value rest)) :
    (first.andThen f).LoosensTo (second.andThen g) := by
  cases first with
  | ok value rest =>
      cases loosens
      exact more value rest
  | fail fault rest reached => exact loosens.fail_andThen ends

theorem LoosensTo.map {f : α → β} (loosens : first.LoosensTo second) :
    (first.map f).LoosensTo (second.map f) :=
  loosens.andThen (fun _ rest => List.suffix_refl rest) fun _ _ => rfl

end Parser.Outcome

namespace Grammar

variable {depth lower : Nat} {ts : List Token}

theorem expect_loosens (kind : TokenKind) (le : lower ≤ depth) (ts : List Token) :
    (Parser.expect kind depth ts).LoosensTo (Parser.expect kind lower ts) := by
  cases ts with
  | nil => exact Outcome.fail_loosensTo _ le
  | cons t rest =>
      rw [Parser.expect, Parser.expect]
      split
      · rfl
      · exact Outcome.fail_loosensTo _ le

theorem nameOrField_loosens (name : String) (le : lower ≤ depth) (ts : List Token) :
    (Parser.nameOrField depth name ts).LoosensTo (Parser.nameOrField lower name ts) := by
  rw [Parser.nameOrField, Parser.nameOrField]
  split
  · exact (expect_loosens .word le ts.tail).map
  · rfl

/-- What each reader of a part of an expression comes to from a lower depth. -/
theorem expression_levels_loosen :
    (∀ depth ts, ∀ lower ≤ depth,
      (Parser.expression depth ts).LoosensTo (Parser.expression lower ts)) ∧
    (∀ level depth ts, ∀ lower ≤ depth,
      (Parser.chainAt level depth ts).LoosensTo (Parser.chainAt level lower ts)) ∧
    (∀ level depth left ts, ∀ lower ≤ depth,
      (Parser.chainRest level depth left ts).LoosensTo (Parser.chainRest level lower left ts)) ∧
    (∀ level depth ts, ∀ lower ≤ depth,
      (Parser.operand level depth ts).LoosensTo (Parser.operand level lower ts)) ∧
    (∀ depth ts, ∀ lower ≤ depth,
      (Parser.unary depth ts).LoosensTo (Parser.unary lower ts)) ∧
    (∀ depth ts, ∀ lower ≤ depth,
      (Parser.primary depth ts).LoosensTo (Parser.primary lower ts)) := by
  obtain ⟨expression, chainAt, chainRest, operand, _⟩ := closed_endsIn.expression_levels
  apply Parser.expression_induction
  case inside =>
    intro depth ts within inner lower le
    have room : lower < maxDepth := Nat.lt_of_le_of_lt le within
    rw [Parser.expression, Parser.expression, if_pos within, if_pos room]
    exact (inner (lower + 1) (Nat.succ_le_succ le)).leave
  case beyond =>
    intro depth ts beyond lower le
    rw [Parser.expression, if_neg beyond]
    exact Outcome.tooDeep_loosensTo (expression lower ts)
  case chain =>
    intro level depth ts first more lower le
    rw [Parser.chainAt, Parser.chainAt]
    exact (first lower le).andThen (fun left rest => chainRest level lower left rest)
      fun left rest => more left rest lower le
  case ended =>
    intro level depth left ts found lower le
    rw [Parser.chainRest_ended found, Parser.chainRest_ended found]
    rfl
  case again =>
    intro level depth left ts op found within first more lower le
    have room : lower < maxDepth := Nat.lt_of_le_of_lt le within
    rw [Parser.chainRest_again found within, Parser.chainRest_again found room]
    exact (first (lower + 1) (Nat.succ_le_succ le)).andThen
      (fun right rest => chainRest level (lower + 1) _ rest)
      fun right rest => more right rest (lower + 1) (Nat.succ_le_succ le)
  case againBeyond =>
    intro level depth left ts op found beyond lower le
    rw [Parser.chainRest_again_beyond found beyond]
    refine Outcome.tooDeep_loosensTo ?_
    by_cases room : lower < maxDepth
    · rw [Parser.chainRest_again found room]
      exact (operand level (lower + 1) ts.tail).andThen
        fun right rest _ => chainRest level (lower + 1) _ rest
    · rw [Parser.chainRest_again_beyond found room]
      exact List.suffix_refl ts.tail
  case last =>
    intro level depth left ts op found right lower le
    rw [Parser.chainRest_last found, Parser.chainRest_last found]
    exact (right lower le).map
  case nested =>
    intro level depth left ts op found within right lower le
    have room : lower < maxDepth := Nat.lt_of_le_of_lt le within
    rw [Parser.chainRest_nested found within, Parser.chainRest_nested found room]
    exact (right (lower + 1) (Nat.succ_le_succ le)).map
  case nestedBeyond =>
    intro level depth left ts op found beyond lower le
    rw [Parser.chainRest_nested_beyond found beyond]
    refine Outcome.tooDeep_loosensTo ?_
    by_cases room : lower < maxDepth
    · rw [Parser.chainRest_nested found room]
      exact (chainAt level (lower + 1) ts.tail).andThen fun _ rest _ => List.suffix_refl rest
    · rw [Parser.chainRest_nested_beyond found room]
      exact List.suffix_refl ts.tail
  case minus | bang =>
    intro depth ts front inner lower le
    rw [Parser.unary, Parser.unary, front]
    exact (inner lower le).map
  case plus =>
    intro depth ts front inner lower le
    rw [Parser.unary, Parser.unary, front]
    exact inner lower le
  case unsigned =>
    intro depth ts noMinus noPlus noBang inner lower le
    rw [Parser.unary_unsigned noMinus noPlus noBang, Parser.unary_unsigned noMinus noPlus noBang]
    exact inner lower le
  case number =>
    intro depth t rest kind lower le
    rw [Parser.primary, Parser.primary, kind]
    simp only [Parser.numberLiteral]
    cases Number.read? t.value with
    | some => rfl
    | none => exact Outcome.fail_loosensTo _ le
  case hexNumber =>
    intro depth t rest kind lower le
    rw [Parser.primary, Parser.primary, kind]
    simp only [Parser.hexLiteral]
    cases Number.readHex? t.value with
    | some => rfl
    | none => exact Outcome.fail_loosensTo _ le
  case text | trueWord | falseWord =>
    intro depth t rest kind lower le
    rw [Parser.primary, Parser.primary, kind]
    rfl
  case word =>
    intro depth t rest kind lower le
    rw [Parser.primary, Parser.primary, kind]
    exact nameOrField_loosens t.value le rest
  case leftBrace =>
    intro depth t rest kind lower le
    rw [Parser.primary, Parser.primary, kind]
    exact (expect_loosens _ le rest).map
  case leftParen =>
    intro depth t rest kind inner lower le
    rw [Parser.primary, Parser.primary, kind]
    exact (inner lower le).andThen
      (fun _ rest => (closed_endsIn.expect (by decide) lower rest).andThen
        fun _ rest _ => List.suffix_refl rest)
      fun _ rest => (expect_loosens _ le rest).map
  case noPrimary =>
    intro depth ts different lower le
    rw [Parser.primary_of_not_begins different, Parser.primary_of_not_begins different]
    exact Outcome.fail_loosensTo _ le
  all_goals
    intro depth ts inner lower le
    rw [Parser.operand, Parser.operand]
    exact inner lower le

/-- Reading from the first depth loosens to reading from the second, and the latter leaves nothing
    but what there was. -/
structure Loosens {α : Type} (f g : List Token → Outcome α) : Prop where
  loosens : ∀ ts, (f ts).LoosensTo (g ts)
  ends : ∀ ts, (g ts).EndsIn ts

namespace Loosens

variable {α β : Type} {f g : List Token → Outcome α}

theorem andThen {k l : α → List Token → Outcome β} (first : Loosens f g)
    (more : ∀ value, Loosens (k value) (l value)) :
    Loosens (fun ts => (f ts).andThen k) fun ts => (g ts).andThen l where
  loosens ts := (first.loosens ts).andThen (fun value => (more value).ends)
    fun value => (more value).loosens
  ends ts := (first.ends ts).andThen fun value rest _ => (more value).ends rest

theorem map {h : α → β} (loosens : Loosens f g) :
    Loosens (fun ts => (f ts).map h) fun ts => (g ts).map h :=
  loosens.andThen fun _ => ⟨fun _ => rfl, List.suffix_refl⟩

end Loosens

section Statements

variable (le : lower ≤ depth)

include le

theorem loosens_expression : Loosens (Parser.expression depth) (Parser.expression lower) :=
  ⟨fun ts => expression_levels_loosen.1 depth ts lower le, closed_endsIn.expression lower⟩

theorem loosens_expect {kind : TokenKind} (different : kind ≠ .endOfInput) :
    Loosens (Parser.expect kind depth) (Parser.expect kind lower) :=
  ⟨expect_loosens kind le, closed_endsIn.expect different lower⟩

theorem loosens_assignment : Loosens (Parser.assignment depth) (Parser.assignment lower) := by
  refine ⟨fun ts => ?_, closed_endsIn.assignment lower⟩
  unfold Parser.assignment
  split
  · exact ((loosens_expression le).loosens _).map
  · exact ((loosens_expression le).loosens _).map
  · exact Outcome.fail_loosensTo _ le

theorem loosens_forHead : Loosens (Parser.forHead depth) (Parser.forHead lower) :=
  (loosens_expect le (by decide)).andThen fun _ =>
  (loosens_assignment le).andThen fun _ =>
  (loosens_expect le (by decide)).andThen fun _ =>
  (loosens_expression le).andThen fun _ =>
  (loosens_expect le (by decide)).andThen fun _ =>
  (loosens_assignment le).andThen fun _ => (loosens_expect le (by decide)).map

variable {reader other : Reader} (reads : Loosens reader.read other.read)

include reads

theorem loosens_blockRest (found : List Stmt) :
    Loosens (reader.blockRest depth found) (other.blockRest lower found) := by
  refine ⟨fun ts => ?_, closed_endsIn.blockRest reads.ends found⟩
  fun_induction Reader.blockRest reader depth found ts with
  | case1 found ts closing =>
      rw [Reader.blockRest, closing]
      rfl
  | case2 found ts atEnd =>
      rw [Reader.blockRest, atEnd]
      exact Outcome.fail_loosensTo _ le
  | case3 found ts fault rest reached failed noBrace noEnd =>
      have first := reads.loosens ts
      rw [failed] at first
      rw [StmtPhrase.blockRest_of_ne lower found noBrace noEnd]
      exact first.fail_andThen fun value rest => closed_endsIn.blockRest reads.ends _ rest
  | case4 found ts next rest done noBrace noEnd more =>
      have first := reads.loosens ts
      rw [done] at first
      rw [StmtPhrase.blockRest_of_ne lower found noBrace noEnd, first]
      exact more

theorem loosens_body : Loosens (reader.body depth) (other.body lower) := by
  refine ⟨fun ts => ?_, closed_endsIn.body reads.ends⟩
  rw [Reader.body, Reader.body]
  split
  · exact (loosens_blockRest le reads []).loosens ts.tail
  · exact reads.loosens ts

theorem loosens_elseBranch (condition : Expr) (thenBranch : Stmt) :
    Loosens (reader.elseBranch depth condition thenBranch)
      (other.elseBranch lower condition thenBranch) := by
  refine ⟨fun ts => ?_, closed_endsIn.elseBranch reads.ends condition thenBranch⟩
  rw [Reader.elseBranch, Reader.elseBranch]
  split
  · exact ((loosens_body le reads).loosens ts.tail).map
  · rfl

theorem loosens_unnested : Loosens (reader.unnested depth) (other.unnested lower) := by
  refine ⟨fun ts => ?_, closed_endsIn.unnested reads.ends⟩
  have condition := loosens_expression le
  have body := loosens_body le reads
  rw [Reader.unnested, Reader.unnested]
  split
  · exact (condition.loosens ts.tail).map
  · exact (condition.andThen fun condition => body.andThen fun thenBranch =>
      loosens_elseBranch le reads condition thenBranch).loosens ts.tail
  · exact (condition.andThen fun _ => body.map).loosens ts.tail
  · exact ((loosens_forHead le).andThen fun _ => body.map).loosens ts.tail
  · exact (loosens_assignment le).loosens ts

end Statements

/-- Statements of all levels, by induction on the levels that are free in the first run. -/
theorem loosens_statement (le : lower ≤ depth) :
    Loosens (Parser.statement depth) (Parser.statement lower) := by
  refine ⟨fun ts => ?_, closed_endsIn.statement lower⟩
  induction free : maxDepth - depth generalizing depth lower ts with
  | zero =>
      have full : ¬depth < maxDepth := by omega
      rw [statement_eq depth, if_neg full]
      exact Outcome.tooDeep_loosensTo (closed_endsIn.statement lower ts)
  | succ free ih =>
      have room : depth < maxDepth := by omega
      have alsoRoom : lower < maxDepth := Nat.lt_of_le_of_lt le room
      have deeper : lower + 1 ≤ depth + 1 := Nat.succ_le_succ le
      rw [statement_eq, statement_eq, if_pos room, if_pos alsoRoom]
      exact ((loosens_unnested deeper ⟨fun ts => ih deeper ts (by omega),
        closed_endsIn.statement (lower + 1)⟩).loosens ts).leave

/-- Programs, by induction on the statements that the first run reads. -/
theorem program_loosens (le : lower ≤ depth) (found : List Stmt) (ts : List Token) :
    (Parser.program depth found ts).LoosensTo (Parser.program lower found ts) := by
  fun_induction Parser.program depth found ts with
  | case1 found ts atEnd =>
      rw [Parser.program, atEnd]
      rfl
  | case2 found ts fault rest reached failed noEnd =>
      have first := (loosens_statement le).loosens ts
      rw [failed] at first
      rw [program_of_ne lower found noEnd]
      exact first.fail_andThen fun value rest => program_endsIn lower _ rest
  | case3 found ts next rest done noEnd more =>
      have first := (loosens_statement le).loosens ts
      rw [done] at first
      rw [program_of_ne lower found noEnd, first]
      exact more

end Grammar

end Kiss
