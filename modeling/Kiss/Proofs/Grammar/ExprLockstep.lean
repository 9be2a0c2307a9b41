import Kiss.Proofs.Grammar.StmtBeginning

/-!
# Two runs of the reader in lockstep

What a reader does hangs on the kinds of the tokens that it has passed, on the three that follow,
and on the values of literals and names; nothing else counts. A `Lockstep` relates token lists
that look alike as far as a limit, which is a number of tokens that are still left; then the runs
on two such lists come to the same, as long as the first one does not go beyond the limit
(`Follows`). What they come to is the same value only if the values of the tokens are the same,
and if not, literals that denote numbers are only known to correspond to such literals.
-/

namespace Kiss

namespace Parser.Outcome

variable {α β : Type} {whole : Language Token} {ts : List Token}

/-- What is left, or is left where the fault stands, is not more than there was. -/
def Stays (ts : List Token) : Outcome α → Prop
  | .ok _ rest => rest.length ≤ ts.length
  | .fail fault _ _ => fault.place.length ≤ ts.length

theorem Reads.stays {outcome : Outcome α} (reads : outcome.Reads whole ts) :
    outcome.Stays ts := by
  cases outcome with
  | ok value rest =>
      obtain ⟨taken, _, rfl⟩ := reads
      simp [Stays]
  | fail fault => exact Grammar.Begins.length_le reads

theorem Stays.mono {us : List Token} {outcome : Outcome α} (stays : outcome.Stays ts)
    (le : ts.length ≤ us.length) : outcome.Stays us := by
  cases outcome with
  | ok => exact Nat.le_trans stays le
  | fail => exact Nat.le_trans stays le

theorem Stays.andThen {outcome : Outcome α} {next : α → List Token → Outcome β}
    (first : outcome.Stays ts) (second : ∀ value rest, (next value rest).Stays rest) :
    (outcome.andThen next).Stays ts := by
  cases outcome with
  | fail => exact first
  | ok value rest =>
      exact (second value rest).mono first

theorem Stays.map {outcome : Outcome α} {f : α → β} (stays : outcome.Stays ts) :
    (outcome.map f).Stays ts := by
  cases outcome with
  | ok => exact stays
  | fail => exact stays

end Parser.Outcome

namespace Grammar

open Kiss.Parser (Level Outcome Reader frontKind readerAt)

/-- A relation of token lists that look alike up to the third token behind a limit. Reading on
    keeps the relation. Values need to be the same only if `same` holds. -/
structure Lockstep where
  agree : List Token → List Token → Prop
  limit : Nat
  same : Prop
  front : ∀ {ts us}, agree ts us → limit ≤ ts.length + 3 → frontKind us = frontKind ts
  tail : ∀ {ts us}, agree ts us → limit ≤ ts.length + 3 → frontKind ts ≠ .endOfInput →
    agree ts.tail us.tail
  converts : ∀ {t u ts us}, agree (t :: ts) (u :: us) → Converts t → Converts u
  value : ∀ {t u ts us}, same → agree (t :: ts) (u :: us) → t.kind.hasFreeValue →
    u.value = t.value

namespace Lockstep

variable {α β : Type} (lock : Lockstep)

/-- The second run comes to the same as the first one, unless that one went beyond the limit. A
    fault in a literal is only found again if values are the same. -/
def Follows (first second : Outcome α) : Prop :=
  match first with
  | .ok value rest =>
      lock.limit ≤ rest.length → ∃ other left, second = .ok other left ∧
        (lock.same → other = value) ∧ lock.agree rest left
  | .fail fault rest depth =>
      lock.limit ≤ fault.place.length → (fault.cause.IsLiteral → lock.same) →
        ∃ place left, second = .fail ⟨fault.cause, place⟩ left depth ∧
          lock.agree fault.place place ∧ lock.agree rest left

variable {lock} {ts us rest : List Token} {first second : Outcome α}

/-- Beyond the limit there is nothing to show. -/
theorem Follows.of_stays (stays : first.Stays ts)
    (near : lock.limit ≤ ts.length → lock.Follows first second) : lock.Follows first second := by
  cases first with
  | ok => exact fun inside => near (Nat.le_trans inside stays) inside
  | fail => exact fun inside => near (Nat.le_trans inside stays) inside

theorem Follows.leave (follows : lock.Follows first second) :
    lock.Follows first.leave second.leave := by
  cases first with
  | ok value rest =>
      intro near
      obtain ⟨other, left, rfl, also⟩ := follows near
      exact ⟨other, left, rfl, also⟩
  | fail fault rest depth =>
      intro near literal
      obtain ⟨place, left, rfl, also⟩ := follows near literal
      exact ⟨place, left, rfl, also⟩

theorem Follows.map {f g : α → β} (follows : lock.Follows first second)
    (alike : lock.same → g = f) : lock.Follows (first.map f) (second.map g) := by
  cases first with
  | ok value rest =>
      intro near
      obtain ⟨other, left, rfl, equal, also⟩ := follows near
      exact ⟨g other, left, rfl, fun same => by rw [alike same, equal same], also⟩
  | fail fault rest depth =>
      intro near literal
      obtain ⟨place, left, rfl, also⟩ := follows near literal
      exact ⟨place, left, rfl, also⟩

/-- A first construct that fails is all that is read. -/
theorem Follows.fail_andThen {fault : Parser.Fault} {depth : Nat}
    {next : α → List Token → Outcome β}
    (follows : lock.Follows (.fail fault rest depth) second) :
    lock.Follows (.fail fault rest depth) (second.andThen next) := by
  intro near literal
  obtain ⟨place, left, rfl, also⟩ := follows near literal
  exact ⟨place, left, rfl, also⟩

/-- Behind a first construct that was read within the limit the runs go on in lockstep. -/
theorem Follows.ok_andThen {value : α} {result : Outcome β} {next : α → List Token → Outcome β}
    (follows : lock.Follows (.ok value rest) second) (stays : result.Stays rest)
    (more : ∀ other left, (lock.same → other = value) → lock.agree rest left →
      lock.limit ≤ rest.length → lock.Follows result (next other left)) :
    lock.Follows result (second.andThen next) := by
  refine .of_stays stays fun near => ?_
  obtain ⟨other, left, rfl, equal, agree⟩ := follows near
  exact more other left equal agree near

theorem Follows.andThen {f g : α → List Token → Outcome β} (follows : lock.Follows first second)
    (stays : ∀ value rest, (f value rest).Stays rest)
    (more : ∀ value other rest left, (lock.same → other = value) → lock.agree rest left →
      lock.limit ≤ rest.length → lock.Follows (f value rest) (g other left)) :
    lock.Follows (first.andThen f) (second.andThen g) := by
  cases first with
  | ok value rest =>
      exact follows.ok_andThen (stays value rest) fun other left => more value other rest left
  | fail => exact follows.fail_andThen

theorem follows_ok {value other : α} (equal : lock.same → other = value)
    (agree : lock.agree ts us) : lock.Follows (.ok value ts) (.ok other us) :=
  fun _ => ⟨other, us, rfl, equal, agree⟩

theorem follows_failHere (cause : ParseCause) (depth : Nat) (agree : lock.agree ts us) :
    lock.Follows (Parser.failHere cause depth ts : Outcome α) (Parser.failHere cause depth us) :=
  fun _ _ => ⟨us, us, rfl, agree, agree⟩

/-- A token of a known kind within the limit corresponds to one of that kind. -/
theorem exists_cons {kind : TokenKind} {t : Terminal kind} (agree : lock.agree (t.token :: ts) us)
    (near : lock.limit ≤ ts.length + 4) (different : kind ≠ .endOfInput) :
    ∃ (u : Terminal kind) (others : List Token), us = u.token :: others ∧ lock.agree ts others := by
  have front := (lock.front agree near).trans t.hasKind
  obtain ⟨u, others, rfl⟩ := Grammar.exists_cons front different
  refine ⟨u, others, rfl, lock.tail agree near ?_⟩
  rw [frontKind_terminal]
  exact different

/-- A chain goes on in the second run as it does in the first. -/
theorem step?_eq (lock : Lockstep) {level : Level} {step : Option Parser.Step}
    (agree : lock.agree ts us) (near : lock.limit ≤ ts.length)
    (found : level.step? (frontKind ts) = step) : level.step? (frontKind us) = step := by
  rwa [lock.front agree (by omega)]

theorem expect_of_ne {kind : TokenKind} (missing : frontKind ts ≠ kind) (depth : Nat) :
    Parser.expect kind depth ts = Parser.failHere (.expected kind) depth ts := by
  cases ts with
  | nil => rfl
  | cons t rest =>
      rw [Parser.expect]
      exact if_neg missing

/-- Behind a token that is expected the runs go on, and its value is the same if it counts. -/
theorem expect_follows {kind : TokenKind} {f g : Token → List Token → Outcome β}
    (different : kind ≠ .endOfInput) (depth : Nat) (agree : lock.agree ts us)
    (near : lock.limit ≤ ts.length) (stays : ∀ t rest, (f t rest).Stays rest)
    (more : ∀ (t u : Terminal kind) (rest left : List Token),
      (lock.same → kind.hasFreeValue → u.token.value = t.token.value) → lock.agree rest left →
        lock.limit ≤ rest.length → lock.Follows (f t.token rest) (g u.token left)) :
    lock.Follows ((Parser.expect kind depth ts).andThen f)
      ((Parser.expect kind depth us).andThen g) := by
  have front := lock.front agree (by omega)
  by_cases found : frontKind ts = kind
  · obtain ⟨t, rest, rfl⟩ := Grammar.exists_cons found different
    obtain ⟨u, left, rfl, also⟩ := exists_cons agree (Nat.le_trans near (by simp)) different
    simp only [expect_terminal, Outcome.ok_andThen]
    refine .of_stays (stays t.token rest) (more t u rest left (fun same free => ?_) also)
    exact lock.value same agree (by rwa [t.hasKind])
  · rw [expect_of_ne found, expect_of_ne (front ▸ found)]
    exact follows_failHere _ _ agree

theorem numberLiteral_follows {t u : Terminal .number} {left : List Token} (depth : Nat)
    (agree : lock.agree (t.token :: rest) (u.token :: left)) (also : lock.agree rest left) :
    lock.Follows (Parser.numberLiteral depth t.token rest)
      (Parser.numberLiteral depth u.token left) := by
  have equal (same : lock.same) : u.token.value = t.token.value :=
    lock.value same agree (by rw [t.hasKind]; rfl)
  rw [Parser.numberLiteral, Parser.numberLiteral]
  cases read : Number.read? t.token.value with
  | none =>
      intro near literal
      rw [equal (literal (.inl rfl)), read]
      exact ⟨_, _, rfl, agree, also⟩
  | some value =>
      have converts : Converts t.token :=
        ⟨fun _ => by rw [read]; rfl, fun hex => absurd (t.hasKind.symm.trans hex) (by decide)⟩
      obtain ⟨other, found⟩ :=
        Option.isSome_iff_exists.mp ((lock.converts agree converts).1 u.hasKind)
      rw [found]
      refine follows_ok (fun same => ?_) also
      rw [equal same, read] at found
      cases found
      rfl

theorem hexLiteral_follows {t u : Terminal .hexNumber} {left : List Token} (depth : Nat)
    (agree : lock.agree (t.token :: rest) (u.token :: left)) (also : lock.agree rest left) :
    lock.Follows (Parser.hexLiteral depth t.token rest) (Parser.hexLiteral depth u.token left) := by
  have equal (same : lock.same) : u.token.value = t.token.value :=
    lock.value same agree (by rw [t.hasKind]; rfl)
  rw [Parser.hexLiteral, Parser.hexLiteral]
  cases read : Number.readHex? t.token.value with
  | none =>
      intro near literal
      rw [equal (literal (.inr rfl)), read]
      exact ⟨_, _, rfl, agree, also⟩
  | some value =>
      have converts : Converts t.token :=
        ⟨fun decimal => absurd (t.hasKind.symm.trans decimal) (by decide),
          fun _ => by rw [read]; rfl⟩
      obtain ⟨other, found⟩ :=
        Option.isSome_iff_exists.mp ((lock.converts agree converts).2 u.hasKind)
      rw [found]
      refine follows_ok (fun same => ?_) also
      rw [equal same, read] at found
      cases found
      rfl

theorem nameOrField_follows {name other : String} (depth : Nat)
    (equal : lock.same → other = name) (agree : lock.agree ts us)
    (near : lock.limit ≤ ts.length + 1) :
    lock.Follows (Parser.nameOrField depth name ts) (Parser.nameOrField depth other us) := by
  have front := lock.front agree (by omega)
  simp only [Parser.nameOrField]
  by_cases dotted : frontKind ts = .symbol .dot
  · obtain ⟨dot, rest, rfl⟩ := Grammar.exists_cons dotted (by decide)
    obtain ⟨sign, left, rfl, also⟩ := exists_cons agree (by simp at near; omega) (by decide)
    simp only [frontKind_terminal, List.tail_cons]
    refine .of_stays (expect_reads .word depth rest).map.stays fun inside => ?_
    refine expect_follows (by decide) depth also inside (fun _ _ => Nat.le_refl _) ?_
    intro field fieldToo behind behindToo value agree _
    exact follows_ok (fun same => by simp only [equal same, value same rfl]) agree
  · have also : frontKind us ≠ .symbol .dot := front ▸ dotted
    split
    · contradiction
    · exact follows_ok (fun same => by rw [equal same]) agree

/-- What each reader of a part of an expression comes to in the second run. -/
theorem expression_levels_follow (lock : Lockstep) :
    (∀ depth ts, ∀ us, lock.agree ts us → lock.limit ≤ ts.length →
      lock.Follows (Parser.expression depth ts) (Parser.expression depth us)) ∧
    (∀ level depth ts, ∀ us, lock.agree ts us → lock.limit ≤ ts.length →
      lock.Follows (Parser.chainAt level depth ts) (Parser.chainAt level depth us)) ∧
    (∀ level depth left ts, ∀ other us, (lock.same → other = left) → lock.agree ts us →
      lock.limit ≤ ts.length →
      lock.Follows (Parser.chainRest level depth left ts)
        (Parser.chainRest level depth other us)) ∧
    (∀ level depth ts, ∀ us, lock.agree ts us → lock.limit ≤ ts.length →
      lock.Follows (Parser.operand level depth ts) (Parser.operand level depth us)) ∧
    (∀ depth ts, ∀ us, lock.agree ts us → lock.limit ≤ ts.length →
      lock.Follows (Parser.unary depth ts) (Parser.unary depth us)) ∧
    (∀ depth ts, ∀ us, lock.agree ts us → lock.limit ≤ ts.length →
      lock.Follows (Parser.primary depth ts) (Parser.primary depth us)) := by
  obtain ⟨expression, chainAt, chainRest, operand, _, primary⟩ := expression_levels_read
  apply Parser.expression_induction
  case inside =>
    intro depth ts within inner us agree near
    rw [Parser.expression, Parser.expression, if_pos within, if_pos within]
    exact (inner us agree near).leave
  case beyond =>
    intro depth ts beyond us agree near
    rw [Parser.expression, Parser.expression, if_neg beyond, if_neg beyond]
    exact follows_failHere _ _ agree
  case chain =>
    intro level depth ts first more us agree near
    rw [Parser.chainAt, Parser.chainAt]
    exact (first us agree near).andThen (fun left rest => (chainRest level depth left rest).stays)
      fun left other rest others => more left rest other others
  case ended =>
    intro level depth left ts found other us equal agree near
    rw [Parser.chainRest_ended found, Parser.chainRest_ended (lock.step?_eq agree near found)]
    exact follows_ok equal agree
  case again =>
    intro level depth left ts op found within first more other us equal agree near
    have also : lock.agree ts.tail us.tail :=
      lock.tail agree (by omega) (Parser.noEnd_of_step found)
    rw [Parser.chainRest_again found within,
      Parser.chainRest_again (lock.step?_eq agree near found) within]
    refine (Follows.of_stays (operand level _ ts.tail).stays (first us.tail also)).andThen
      (fun right rest => (chainRest level _ _ rest).stays) ?_
    intro right otherRight behind left same
    exact more right behind _ left fun holds => by rw [equal holds, same holds]
  case againBeyond =>
    intro level depth left ts op found beyond other us equal agree near
    rw [Parser.chainRest_again_beyond found beyond,
      Parser.chainRest_again_beyond (lock.step?_eq agree near found) beyond]
    exact follows_failHere _ _ (lock.tail agree (by omega) (Parser.noEnd_of_step found))
  case last =>
    intro level depth left ts op found right other us equal agree near
    have also : lock.agree ts.tail us.tail :=
      lock.tail agree (by omega) (Parser.noEnd_of_step found)
    rw [Parser.chainRest_last found, Parser.chainRest_last (lock.step?_eq agree near found)]
    exact (Follows.of_stays (operand level _ ts.tail).stays (right us.tail also)).map
      fun same => by rw [equal same]
  case nested =>
    intro level depth left ts op found within right other us equal agree near
    have also : lock.agree ts.tail us.tail :=
      lock.tail agree (by omega) (Parser.noEnd_of_step found)
    rw [Parser.chainRest_nested found within,
      Parser.chainRest_nested (lock.step?_eq agree near found) within]
    exact (Follows.of_stays (chainAt level _ ts.tail).stays (right us.tail also)).map
      fun same => by rw [equal same]
  case nestedBeyond =>
    intro level depth left ts op found beyond other us equal agree near
    rw [Parser.chainRest_nested_beyond found beyond,
      Parser.chainRest_nested_beyond (lock.step?_eq agree near found) beyond]
    exact follows_failHere _ _ (lock.tail agree (by omega) (Parser.noEnd_of_step found))
  case minus | bang =>
    intro depth ts front inner us agree near
    have also : lock.agree ts.tail us.tail := lock.tail agree (by omega) (by simp [front])
    rw [Parser.unary, Parser.unary, lock.front agree (by omega), front]
    exact (Follows.of_stays (primary _ ts.tail).stays (inner us.tail also)).map fun _ => rfl
  case plus =>
    intro depth ts front inner us agree near
    have also : lock.agree ts.tail us.tail := lock.tail agree (by omega) (by simp [front])
    rw [Parser.unary, Parser.unary, lock.front agree (by omega), front]
    exact Follows.of_stays (primary _ ts.tail).stays (inner us.tail also)
  case unsigned =>
    intro depth ts noMinus noPlus noBang inner us agree near
    have front := lock.front agree (by omega)
    rw [Parser.unary_unsigned noMinus noPlus noBang,
      Parser.unary_unsigned (front ▸ noMinus) (front ▸ noPlus) (front ▸ noBang)]
    exact inner us agree near
  case number =>
    intro depth t rest kind us agree near
    obtain ⟨u, others, rfl, also⟩ :=
      exists_cons (t := ⟨t, kind⟩) agree (Nat.le_trans near (by simp)) (by decide)
    rw [Parser.primary, Parser.primary, kind, u.hasKind]
    exact numberLiteral_follows (t := ⟨t, kind⟩) depth agree also
  case hexNumber =>
    intro depth t rest kind us agree near
    obtain ⟨u, others, rfl, also⟩ :=
      exists_cons (t := ⟨t, kind⟩) agree (Nat.le_trans near (by simp)) (by decide)
    rw [Parser.primary, Parser.primary, kind, u.hasKind]
    exact hexLiteral_follows (t := ⟨t, kind⟩) depth agree also
  case text =>
    intro depth t rest kind us agree near
    obtain ⟨u, others, rfl, also⟩ :=
      exists_cons (t := ⟨t, kind⟩) agree (Nat.le_trans near (by simp)) (by decide)
    rw [Parser.primary, Parser.primary, kind, u.hasKind]
    exact follows_ok (fun same => by rw [lock.value same agree (by rw [kind]; rfl)]) also
  case word =>
    intro depth t rest kind us agree near
    obtain ⟨u, others, rfl, also⟩ :=
      exists_cons (t := ⟨t, kind⟩) agree (Nat.le_trans near (by simp)) (by decide)
    rw [Parser.primary, Parser.primary, kind, u.hasKind]
    have equal (same : lock.same) := lock.value same agree (by rw [kind]; rfl)
    exact nameOrField_follows depth equal also near
  case trueWord | falseWord =>
    intro depth t rest kind us agree near
    obtain ⟨u, others, rfl, also⟩ :=
      exists_cons (t := ⟨t, kind⟩) agree (Nat.le_trans near (by simp)) (by decide)
    rw [Parser.primary, Parser.primary, kind, u.hasKind]
    exact follows_ok (fun _ => rfl) also
  case leftBrace =>
    intro depth t rest kind us agree near
    obtain ⟨u, others, rfl, also⟩ :=
      exists_cons (t := ⟨t, kind⟩) agree (Nat.le_trans near (by simp)) (by decide)
    rw [Parser.primary, Parser.primary, kind, u.hasKind]
    refine .of_stays (expect_reads (.symbol .rightBrace) depth rest).map.stays fun inside => ?_
    exact expect_follows (by decide) depth also inside (fun _ _ => Nat.le_refl _)
      fun _ _ _ _ _ agree _ => follows_ok (fun _ => rfl) agree
  case leftParen =>
    intro depth t rest kind inner us agree near
    obtain ⟨u, others, rfl, also⟩ :=
      exists_cons (t := ⟨t, kind⟩) agree (Nat.le_trans near (by simp)) (by decide)
    rw [Parser.primary, Parser.primary, kind, u.hasKind]
    refine (Follows.of_stays (expression _ rest).stays (inner others also)).andThen
      (fun _ rest => (expect_reads _ _ rest).map.stays) ?_
    intro value other behind left equal agree near
    exact expect_follows (by decide) depth agree near (fun _ _ => Nat.le_refl _)
      fun _ _ _ _ _ agree _ => follows_ok equal agree
  case noPrimary =>
    intro depth ts different us agree near
    have front := lock.front agree (by omega)
    rw [Parser.primary_of_not_begins different, Parser.primary_of_not_begins (front ▸ different)]
    exact follows_failHere _ _ agree
  all_goals
    intro depth ts inner us agree near
    rw [Parser.operand, Parser.operand]
    exact inner us agree near

variable {depth : Nat}

/-- Two runs of the reader of expressions come to the same. -/
theorem expression_follows (agree : lock.agree ts us) (near : lock.limit ≤ ts.length) :
    lock.Follows (Parser.expression depth ts) (Parser.expression depth us) :=
  (expression_levels_follow lock).1 depth ts us agree near

end Lockstep

end Grammar

end Kiss
