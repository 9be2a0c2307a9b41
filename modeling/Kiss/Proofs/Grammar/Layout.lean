import Kiss.Proofs.Grammar.Faults

/-!
# Layout and fixed spellings do not count

A program hangs on the kinds of its tokens and on the values of those whose kind leaves the value
free. `Token.Restates` says that two tokens have this in common, wherever they stand and whatever
stands for the spelling of a keyword or a symbol. Tokens that restate others, one by one, are read
in lockstep with them to the end, as the same tree or up to the same fault
(`parse_of_restates`); and since a message quotes kind and value, but no position, it takes equal
values to have the same wording (`text_congr`).
-/

namespace Kiss

/-- Another token of the same kind, and with the same value if tokens of that kind differ in it. -/
def Token.Restates (t u : Token) : Prop :=
  u.kind = t.kind ∧ (t.kind.hasFreeValue → u.value = t.value)

/-- The wording of an error does not hang on the position of its token. -/
theorem ParseError.text_congr {e other : ParseError} (cause : other.cause = e.cause)
    (kind : other.token.kind = e.token.kind) (value : other.token.value = e.token.value) :
    other.text = e.text := by
  simp only [text, describe, cause, kind, value]

namespace Grammar

open Kiss.Parser (frontKind)

variable {ts us : List Token}

theorem frontKind_of_restates (restates : List.Forall₂ Token.Restates ts us) :
    frontKind us = frontKind ts := by
  cases restates with
  | nil => rfl
  | cons first _ => exact first.1

theorem tail_of_restates (restates : List.Forall₂ Token.Restates ts us) :
    List.Forall₂ Token.Restates ts.tail us.tail := by
  cases restates with
  | nil => exact .nil
  | cons _ others => exact others

/-- A literal that denotes a number is restated by one that does. -/
theorem converts_of_restates {t u : Token} (restates : t.Restates u) (converts : Converts t) :
    Converts u := by
  obtain ⟨kind, value⟩ := restates
  constructor
  · intro isNumber
    have number : t.kind = .number := kind.symm.trans isNumber
    rw [value (by rw [number]; rfl)]
    exact converts.1 number
  · intro isHexNumber
    have hexNumber : t.kind = .hexNumber := kind.symm.trans isHexNumber
    rw [value (by rw [hexNumber]; rfl)]
    exact converts.2 hexNumber

/-- All tokens are restated, so there is no limit, and all values that count are the same. -/
def restatesLockstep : Lockstep where
  agree := List.Forall₂ Token.Restates
  limit := 0
  same := True
  front restates _ := frontKind_of_restates restates
  tail restates _ _ := tail_of_restates restates
  converts restates converts :=
    converts_of_restates (List.forall₂_cons.mp restates).1 converts
  value _ restates free := (List.forall₂_cons.mp restates).1.2 free

/-- The token that is reported is the one at its place among all tokens, or the sentinel. -/
theorem headD_place {fault : Parser.Fault} {rest : List Token} {reached : Nat}
    (failed : Parser.program 0 [] ts = .fail fault rest reached) (z : Token) :
    fault.place.headD z = (ts[ts.length - fault.place.length]?).getD z := by
  obtain ⟨taken, more, rfl, _⟩ := begins_program failed
  rw [List.length_append, Nat.add_sub_cancel, List.getElem?_append_right (Nat.le_refl _),
    Nat.sub_self, ← List.head?_eq_getElem?, List.headD_eq_head?_getD]

/-- What holds of the sentinels and of all tokens in the same place holds of the tokens reported
    there. -/
theorem getD_congr {α : Type} (f : Token → α) (same : us.map f = ts.map f) {z w : Token}
    (last : f w = f z) (k : Nat) : f ((us[k]?).getD w) = f ((ts[k]?).getD z) := by
  have there : (us[k]?).map f = (ts[k]?).map f := by
    rw [← List.getElem?_map, ← List.getElem?_map, same]
  rw [← Option.getD_map f, ← Option.getD_map f, there, last]

theorem map_kind_of_restates (restates : List.Forall₂ Token.Restates ts us) :
    us.map (·.kind) = ts.map (·.kind) := by
  induction restates with
  | nil => rfl
  | cons first _ ih => rw [List.map_cons, List.map_cons, first.1, ih]

/-- Tokens that restate others are read as the same tree, or are refused for the same cause at the
    token in the same place, and with the same wording if all values are the same. -/
theorem parse_of_restates (restates : List.Forall₂ Token.Restates ts us) :
    match parse ts with
    | .ok tree => parse us = .ok tree
    | .error e => ∃ other k, parse us = .error other ∧ other.cause = e.cause ∧
        faultIndex? ts = some k ∧ faultIndex? us = some k ∧
        e.token = (ts[k]?).getD (Parser.ofTokens ts).sentinel ∧
        other.token = (us[k]?).getD (Parser.ofTokens us).sentinel ∧
        (us.map (·.value) = ts.map (·.value) → other.text = e.text) := by
  cases result : Parser.program 0 [] ts with
  | ok tree rest =>
      obtain ⟨_, _, _, _, _, read⟩ := restatesLockstep.program_reads rfl trivial result restates
      simp only [parse, Parser.parse, Parser.ofTokens, result, read]
  | fail fault rest reached =>
      obtain ⟨place, left, failed, placesAlike, _⟩ := restatesLockstep.program_fails result
        (fun _ => trivial) (Nat.zero_le _) restates []
      have places : List.Forall₂ Token.Restates fault.place place := placesAlike
      have index : us.length - place.length = ts.length - fault.place.length := by
        rw [restates.length_eq, places.length_eq]
      have token := headD_place result (Parser.ofTokens ts).sentinel
      have otherToken := headD_place failed (Parser.ofTokens us).sentinel
      simp only [index] at otherToken
      rw [parse_eq_error result, parse_eq_error failed]
      refine ⟨_, ts.length - fault.place.length, rfl, rfl, by rw [faultIndex?, result],
        by rw [faultIndex?, failed, ← index], token, otherToken, fun values => ?_⟩
      have lastKind : (Parser.ofTokens us).sentinel.kind = (Parser.ofTokens ts).sentinel.kind := rfl
      have lastValue : (Parser.ofTokens us).sentinel.value = (Parser.ofTokens ts).sentinel.value :=
        rfl
      refine ParseError.text_congr rfl ?_ ?_
      · simp only [token, otherToken]
        exact getD_congr (·.kind) (map_kind_of_restates restates) lastKind _
      · simp only [token, otherToken]
        exact getD_congr (·.value) values lastValue _

/-- The tokens of `for(;`, which lacks the assignment in front of the semicolon. -/
def halfLoop : List Token :=
  [⟨.keyword .forWord, "for", ⟨1, 1⟩⟩, ⟨.symbol .leftParen, "(", ⟨1, 4⟩⟩,
    ⟨.symbol .semicolon, ";", ⟨1, 5⟩⟩]

/-- The same tokens over several lines, with another spelling for the first of them. -/
def respelledLoop : List Token :=
  [⟨.keyword .forWord, "FOR", ⟨1, 1⟩⟩, ⟨.symbol .leftParen, "(", ⟨2, 1⟩⟩,
    ⟨.symbol .semicolon, ";", ⟨4, 1⟩⟩]

/-- Both are refused at the semicolon. -/
theorem parse_of_restates_respelledLoop :
    List.Forall₂ Token.Restates halfLoop respelledLoop ∧
      parse halfLoop = .error ⟨.unknownStatement, ⟨.symbol .semicolon, ";", ⟨1, 5⟩⟩⟩ ∧
      parse respelledLoop = .error ⟨.unknownStatement, ⟨.symbol .semicolon, ";", ⟨4, 1⟩⟩⟩ := by
  have restates : List.Forall₂ Token.Restates halfLoop respelledLoop := by
    simp [halfLoop, respelledLoop, Token.Restates, TokenKind.hasFreeValue]
  have failed : Parser.program 0 [] halfLoop =
      .fail ⟨.unknownStatement, halfLoop.drop 2⟩ (halfLoop.drop 2) 0 := by
    rw [program_of_ne 0 [] (by decide), statement_eq, if_pos (by decide)]
    rfl
  have refused := parse_eq_error failed
  have alike := parse_of_restates restates
  rw [refused] at alike
  obtain ⟨⟨cause, token⟩, k, otherRefused, sameCause, index, _, _, place, _⟩ := alike
  rw [faultIndex?, failed] at index
  cases index
  cases sameCause
  cases place
  exact ⟨restates, refused, otherRefused⟩

end Grammar

end Kiss
