import Kiss.Proofs.Grammar.StmtBeginning

/-!
# What every way of reading keeps

Readers are put together from few pieces: they take nothing, refuse the token at the front, pass a
token, enter a level and leave it, and go on behind what was read. A property of outcomes that
these pieces keep is a property of every reader (`Closed`); the recursion of the readers is gone
through once, for expressions and then for statements, and never again for such a property. No
piece passes an end of the input.

Three properties are kept this way. A failure leaves no level uncounted that was counted before, and
counts at most one level that there is not (`Charges`); what is left behind an outcome is an end of
what there was (`EndsIn`); and a failure that is said to lie in a literal does lie in the literal at
which it is reported (`Blames`).
-/

namespace Kiss

/-- A token that is refused for a cause that lies in its own text: a literal that is read as no
    number. -/
def Token.IsRefusedFor (t : Token) : ParseCause → Prop
  | .invalidNumber => t.kind = .number ∧ Number.read? t.value = none
  | .invalidHexNumber => t.kind = .hexNumber ∧ Number.readHex? t.value = none
  | _ => False

theorem Token.IsRefusedFor.kind_ne_endOfInput {t : Token} {cause : ParseCause}
    (refused : t.IsRefusedFor cause) : t.kind ≠ .endOfInput := by
  intro atEnd
  cases cause with
  | invalidNumber | invalidHexNumber => simp [IsRefusedFor, atEnd] at refused
  | tooDeep | unclosedBlock | unknownStatement | unknownExpression | expected => exact refused

namespace Parser.Outcome

variable {α β : Type}

/-- The tokens that are left, whether something was read or not. -/
def left : Outcome α → List Token
  | .ok _ rest => rest
  | .fail _ rest _ => rest

/-- A failure of a reader that began at a depth has counted no fewer levels than that, and no more
    than one level above the limit or above that depth. -/
def Charges (depth : Nat) : Outcome α → Prop
  | .ok _ _ => True
  | .fail _ _ reached => depth ≤ reached ∧ reached ≤ max (maxDepth + 1) (depth + 1)

/-- What is left stands at the end of what there was. -/
def EndsIn (ts : List Token) (outcome : Outcome α) : Prop :=
  outcome.left <:+ ts

/-- A failure that lies in a literal is reported at a token that is refused for it. -/
def Blames : Outcome α → Prop
  | .ok _ _ => True
  | .fail fault _ _ => fault.cause.IsLiteral →
      ∃ t ∈ fault.place.head?, t.IsRefusedFor fault.cause

theorem EndsIn.leave {ts : List Token} {outcome : Outcome α} (ends : outcome.EndsIn ts) :
    outcome.leave.EndsIn ts := by
  cases outcome with
  | ok => exact ends
  | fail => exact ends

theorem EndsIn.andThen {ts : List Token} {outcome : Outcome α}
    {next : α → List Token → Outcome β} (ends : outcome.EndsIn ts)
    (more : ∀ value rest, outcome = .ok value rest → (next value rest).EndsIn rest) :
    (outcome.andThen next).EndsIn ts := by
  cases outcome with
  | ok value rest => exact (more value rest rfl).trans ends
  | fail => exact ends

end Parser.Outcome

namespace Grammar

open Kiss.Parser (Level Outcome Reader frontKind readerAt)

/-- A property of the outcomes of readers, each at a depth and on some tokens, that all pieces keep
    of which readers are put together. -/
structure Closed (P : (α : Type) → Nat → List Token → Outcome α → Prop) : Prop where
  ok : ∀ {α : Type} (value : α) (depth : Nat) (ts : List Token), P α depth ts (.ok value ts)
  failHere : ∀ {α : Type} {cause : ParseCause} (depth : Nat) (ts : List Token),
    ¬cause.IsLiteral → P α depth ts (Parser.failHere cause depth ts)
  literal : ∀ {α : Type} {cause : ParseCause} (depth : Nat) {t : Token} (rest : List Token),
    t.IsRefusedFor cause → P α depth (t :: rest) (.fail ⟨cause, t :: rest⟩ rest depth)
  tooDeep : ∀ {α : Type} {depth : Nat} (ts : List Token),
    ¬depth < maxDepth → P α depth ts (Parser.tooDeep depth ts)
  pass : ∀ {α : Type} {depth : Nat} {t : Token} {rest : List Token} {outcome : Outcome α},
    t.kind ≠ .endOfInput → P α depth rest outcome → P α depth (t :: rest) outcome
  enter : ∀ {α : Type} {depth : Nat} {ts : List Token} {outcome : Outcome α},
    depth < maxDepth → P α (depth + 1) ts outcome → P α depth ts outcome
  leave : ∀ {α : Type} {depth : Nat} {ts : List Token} {outcome : Outcome α},
    depth < maxDepth → P α (depth + 1) ts outcome → P α depth ts outcome.leave
  goOn : ∀ {α β : Type} {depth : Nat} {ts : List Token} {outcome : Outcome α}
    {next : α → List Token → Outcome β}, P α depth ts outcome →
      (∀ value rest, outcome = .ok value rest → P β depth rest (next value rest)) →
        P β depth ts (outcome.andThen next)

namespace Closed

variable {P : (α : Type) → Nat → List Token → Outcome α → Prop} (closed : Closed P)
variable {α β : Type} {depth : Nat} {ts : List Token}

include closed

theorem passFront {outcome : Outcome α} (noEnd : frontKind ts ≠ .endOfInput)
    (kept : P α depth ts.tail outcome) : P α depth ts outcome := by
  cases ts with
  | nil => exact absurd rfl noEnd
  | cons t rest => exact closed.pass noEnd kept

theorem andThen {outcome : Outcome α} {next : α → List Token → Outcome β}
    (first : P α depth ts outcome) (more : ∀ value rest, P β depth rest (next value rest)) :
    P β depth ts (outcome.andThen next) :=
  closed.goOn first fun value rest _ => more value rest

theorem map {outcome : Outcome α} {f : α → β} (kept : P α depth ts outcome) :
    P β depth ts (outcome.map f) :=
  closed.andThen kept fun value rest => closed.ok (f value) depth rest

theorem expect {kind : TokenKind} (different : kind ≠ .endOfInput) (depth : Nat)
    (ts : List Token) : P Token depth ts (Parser.expect kind depth ts) := by
  have noLiteral : ¬(ParseCause.expected kind).IsLiteral := by simp [ParseCause.IsLiteral]
  cases ts with
  | nil => exact closed.failHere depth [] noLiteral
  | cons t rest =>
      rw [Parser.expect]
      split
      · rename_i found
        exact closed.pass (by rwa [found]) (closed.ok t depth rest)
      · exact closed.failHere depth (t :: rest) noLiteral

theorem numberLiteral {t : Token} (kind : t.kind = .number) (depth : Nat) (rest : List Token) :
    P Expr depth (t :: rest) (Parser.numberLiteral depth t rest) := by
  rw [Parser.numberLiteral]
  split
  · exact closed.pass (by simp [kind]) (closed.ok _ depth rest)
  · rename_i refused
    exact closed.literal depth rest ⟨kind, refused⟩

theorem hexLiteral {t : Token} (kind : t.kind = .hexNumber) (depth : Nat) (rest : List Token) :
    P Expr depth (t :: rest) (Parser.hexLiteral depth t rest) := by
  rw [Parser.hexLiteral]
  split
  · exact closed.pass (by simp [kind]) (closed.ok _ depth rest)
  · rename_i refused
    exact closed.literal depth rest ⟨kind, refused⟩

theorem nameOrField (depth : Nat) (name : String) (rest : List Token) :
    P Expr depth rest (Parser.nameOrField depth name rest) := by
  rw [Parser.nameOrField]
  split
  · rename_i dot
    exact closed.passFront (by simp [dot]) (closed.map (closed.expect (by decide) depth rest.tail))
  · exact closed.ok _ depth rest

theorem expression_levels :
    (∀ depth ts, P Expr depth ts (Parser.expression depth ts)) ∧
    (∀ level depth ts, P Expr depth ts (Parser.chainAt level depth ts)) ∧
    (∀ level depth left ts, P Expr depth ts (Parser.chainRest level depth left ts)) ∧
    (∀ level depth ts, P Expr depth ts (Parser.operand level depth ts)) ∧
    (∀ depth ts, P Expr depth ts (Parser.unary depth ts)) ∧
    (∀ depth ts, P Expr depth ts (Parser.primary depth ts)) := by
  apply Parser.expression_induction
  case inside =>
    intro depth ts within inner
    rw [Parser.expression, if_pos within]
    exact closed.leave within inner
  case beyond =>
    intro depth ts beyond
    rw [Parser.expression, if_neg beyond]
    exact closed.tooDeep ts beyond
  case chain =>
    intro level depth ts first more
    rw [Parser.chainAt]
    exact closed.andThen first more
  case ended =>
    intro level depth left ts found
    rw [Parser.chainRest_ended found]
    exact closed.ok left depth ts
  case again =>
    intro level depth left ts op found within first more
    rw [Parser.chainRest_again found within]
    exact closed.passFront (Parser.noEnd_of_step found)
      (closed.enter within (closed.andThen first more))
  case againBeyond =>
    intro level depth left ts op found beyond
    rw [Parser.chainRest_again_beyond found beyond]
    exact closed.passFront (Parser.noEnd_of_step found) (closed.tooDeep _ beyond)
  case last =>
    intro level depth left ts op found right
    rw [Parser.chainRest_last found]
    exact closed.passFront (Parser.noEnd_of_step found) (closed.map right)
  case nested =>
    intro level depth left ts op found within right
    rw [Parser.chainRest_nested found within]
    exact closed.passFront (Parser.noEnd_of_step found) (closed.enter within (closed.map right))
  case nestedBeyond =>
    intro level depth left ts op found beyond
    rw [Parser.chainRest_nested_beyond found beyond]
    exact closed.passFront (Parser.noEnd_of_step found) (closed.tooDeep _ beyond)
  case minus | bang =>
    intro depth ts front inner
    rw [Parser.unary, front]
    exact closed.passFront (by simp [front]) (closed.map inner)
  case plus =>
    intro depth ts front inner
    rw [Parser.unary, front]
    exact closed.passFront (by simp [front]) inner
  case unsigned =>
    intro depth ts noMinus noPlus noBang inner
    rw [Parser.unary_unsigned noMinus noPlus noBang]
    exact inner
  case number =>
    intro depth t rest kind
    rw [Parser.primary, kind]
    exact closed.numberLiteral kind depth rest
  case hexNumber =>
    intro depth t rest kind
    rw [Parser.primary, kind]
    exact closed.hexLiteral kind depth rest
  case text | trueWord | falseWord =>
    intro depth t rest kind
    rw [Parser.primary, kind]
    exact closed.pass (by simp [kind]) (closed.ok _ depth rest)
  case word =>
    intro depth t rest kind
    rw [Parser.primary, kind]
    exact closed.pass (by simp [kind])
      (closed.nameOrField depth t.value rest)
  case leftBrace =>
    intro depth t rest kind
    rw [Parser.primary, kind]
    exact closed.pass (by simp [kind])
      (closed.map (closed.expect (by decide) depth rest))
  case leftParen =>
    intro depth t rest kind inner
    rw [Parser.primary, kind]
    exact closed.pass (by simp [kind])
      (closed.andThen inner fun _ rest => closed.map (closed.expect (by decide) depth rest))
  case noPrimary =>
    intro depth ts different
    rw [Parser.primary_of_not_begins different]
    exact closed.failHere depth ts (by simp [ParseCause.IsLiteral])
  all_goals
    intro depth ts inner
    rw [Parser.operand]
    exact inner

theorem expression (depth : Nat) (ts : List Token) :
    P Expr depth ts (Parser.expression depth ts) :=
  closed.expression_levels.1 depth ts

theorem assignment (depth : Nat) (ts : List Token) :
    P Stmt depth ts (Parser.assignment depth ts) := by
  unfold Parser.assignment
  split
  · exact closed.pass (by simp) (closed.pass (by simp) (closed.map (closed.expression depth _)))
  · exact closed.pass (by simp) (closed.pass (by simp) (closed.pass (by simp)
      (closed.pass (by simp) (closed.map (closed.expression depth _)))))
  · exact closed.failHere depth _ (by simp [ParseCause.IsLiteral])

theorem forHead (depth : Nat) (ts : List Token) :
    P (Stmt × Expr × Stmt) depth ts (Parser.forHead depth ts) :=
  closed.andThen (closed.expect (by decide) depth ts) fun _ rest =>
  closed.andThen (closed.assignment depth rest) fun _ rest =>
  closed.andThen (closed.expect (by decide) depth rest) fun _ rest =>
  closed.andThen (closed.expression depth rest) fun _ rest =>
  closed.andThen (closed.expect (by decide) depth rest) fun _ rest =>
  closed.andThen (closed.assignment depth rest) fun _ rest =>
  closed.map (closed.expect (by decide) depth rest)

section Readers

variable {reader : Reader} (reads : ∀ ts, P Stmt depth ts (reader.read ts))

include reads

theorem blockRest (found : List Stmt) (ts : List Token) :
    P Stmt depth ts (reader.blockRest depth found ts) := by
  fun_induction Reader.blockRest reader depth found ts with
  | case1 found ts closing => exact closed.passFront (by simp [closing]) (closed.ok _ depth _)
  | case2 found ts atEnd => exact closed.failHere depth ts (by simp [ParseCause.IsLiteral])
  | case3 found ts fault rest reached failed noBrace noEnd => exact failed ▸ reads ts
  | case4 found ts next rest done noBrace noEnd more =>
      have first := reads ts
      rw [done] at first
      -- what follows is read of these tokens only, which is all that is asked for
      show P Stmt depth ts ((Outcome.ok next rest).andThen fun next rest =>
        reader.blockRest depth (next :: found) rest)
      refine closed.goOn first fun value behind same => ?_
      cases same
      exact more

theorem body (ts : List Token) : P Stmt depth ts (reader.body depth ts) := by
  rw [Reader.body]
  split
  · rename_i opening
    exact closed.passFront (by simp [opening]) (closed.blockRest reads [] ts.tail)
  · exact reads ts

theorem elseBranch (condition : Expr) (thenBranch : Stmt) (ts : List Token) :
    P Stmt depth ts (reader.elseBranch depth condition thenBranch ts) := by
  rw [Reader.elseBranch]
  split
  · rename_i front
    exact closed.passFront (by simp [front]) (closed.map (closed.body reads ts.tail))
  · exact closed.ok _ depth ts

theorem unnested (ts : List Token) : P Stmt depth ts (reader.unnested depth ts) := by
  rw [Reader.unnested]
  split
  · rename_i front
    exact closed.passFront (by simp [front]) (closed.map (closed.expression depth ts.tail))
  · rename_i front
    exact closed.passFront (by simp [front])
      (closed.andThen (closed.expression depth ts.tail) fun condition rest =>
        closed.andThen (closed.body reads rest) fun thenBranch rest =>
          closed.elseBranch reads condition thenBranch rest)
  · rename_i front
    exact closed.passFront (by simp [front])
      (closed.andThen (closed.expression depth ts.tail) fun _ rest =>
        closed.map (closed.body reads rest))
  · rename_i front
    exact closed.passFront (by simp [front])
      (closed.andThen (closed.forHead depth ts.tail) fun _ rest =>
        closed.map (closed.body reads rest))
  · exact closed.assignment depth ts

end Readers

/-- The readers of all levels, by induction on the levels that are free. -/
theorem statement (depth : Nat) (ts : List Token) :
    P Stmt depth ts (Parser.statement depth ts) := by
  induction free : maxDepth - depth generalizing depth ts with
  | zero =>
      have full : ¬depth < maxDepth := by omega
      rw [statement_eq, if_neg full]
      exact closed.tooDeep ts full
  | succ free ih =>
      have room : depth < maxDepth := by omega
      rw [statement_eq, if_pos room]
      exact closed.leave room (closed.unnested (fun ts => ih (depth + 1) ts (by omega)) ts)

/-- A program takes the end of the input as well, which no other construct does. -/
theorem program (depth : Nat) (atEnd : ∀ (tree : Stmt) {ts : List Token},
    frontKind ts = .endOfInput → P Stmt depth ts (.ok tree ts.tail))
    (found : List Stmt) (ts : List Token) : P Stmt depth ts (Parser.program depth found ts) := by
  fun_induction Parser.program depth found ts with
  | case1 found ts front => exact atEnd _ front
  | case2 found ts fault rest reached failed noEnd => exact failed ▸ closed.statement depth ts
  | case3 found ts next rest done noEnd more =>
      have first := closed.statement depth ts
      rw [done] at first
      show P Stmt depth ts ((Outcome.ok next rest).andThen fun next rest =>
        Parser.program depth (next :: found) rest)
      refine closed.goOn first fun value behind same => ?_
      cases same
      exact more

end Closed

/-! ### What is counted, what is left and what is blamed -/

/-- Failures leave no level uncounted, and count at most one that there is not. -/
theorem closed_charges : Closed fun _ depth _ outcome => outcome.Charges depth where
  ok _ _ _ := trivial
  failHere depth _ _ := ⟨Nat.le_refl depth, by omega⟩
  literal depth _ _ _ := ⟨Nat.le_refl depth, by omega⟩
  tooDeep _ _ := ⟨Nat.le_succ _, Nat.le_max_right _ _⟩
  pass _ charges := charges
  enter {_ depth _ outcome} room charges := by
    cases outcome with
    | ok => trivial
    | fail fault rest reached =>
        simp only [Outcome.Charges] at charges ⊢
        omega
  leave {_ depth _ outcome} room charges := by
    cases outcome with
    | ok => trivial
    | fail fault rest reached =>
        simp only [Outcome.leave, Outcome.Charges] at charges ⊢
        omega
  goOn {_ _ _ _ outcome _} charges more := by
    cases outcome with
    | ok value rest => exact more value rest rfl
    | fail => exact charges

/-- What is left is an end of what there was. -/
theorem closed_endsIn : Closed fun _ _ ts outcome => outcome.EndsIn ts where
  ok _ _ ts := List.suffix_refl ts
  failHere _ ts _ := List.suffix_refl ts
  literal _ _ rest _ := List.suffix_cons _ rest
  tooDeep ts _ := List.suffix_refl ts
  pass _ ends := ends.trans (List.suffix_cons ..)
  enter _ ends := ends
  leave _ ends := ends.leave
  goOn ends more := ends.andThen more

/-- What is said to lie in a literal lies in the literal where it is reported. -/
theorem closed_blames : Closed fun _ _ _ outcome => outcome.Blames where
  ok _ _ _ := trivial
  failHere _ _ noLiteral literal := absurd literal noLiteral
  literal _ t _ refused _ := ⟨t, rfl, refused⟩
  tooDeep _ _ literal := by simp [ParseCause.IsLiteral] at literal
  pass _ blames := blames
  enter _ blames := blames
  leave {_ _ _ outcome} _ blames := by
    cases outcome with
    | ok => trivial
    | fail => exact blames
  goOn {_ _ _ _ outcome _} blames more := by
    cases outcome with
    | ok value rest => exact more value rest rfl
    | fail => exact blames

/-- A program that cannot be read leaves no level uncounted, and counts at most one that there is
    not. -/
theorem program_charges (depth : Nat) (found : List Stmt) (ts : List Token) :
    (Parser.program depth found ts).Charges depth :=
  closed_charges.program depth (fun _ _ _ => trivial) found ts

theorem program_blames (depth : Nat) (found : List Stmt) (ts : List Token) :
    (Parser.program depth found ts).Blames :=
  closed_blames.program depth (fun _ _ _ => trivial) found ts

theorem program_endsIn (depth : Nat) (found : List Stmt) (ts : List Token) :
    (Parser.program depth found ts).EndsIn ts :=
  closed_endsIn.program depth (fun _ ts _ => List.tail_suffix ts) found ts

end Grammar

end Kiss
