import Kiss.CommandLine.Answer
import Kiss.Proofs.Lexical.RoundTrip
import Kiss.Proofs.Text.Delimited
import Kiss.Proofs.Text.Quoted

/-!
# The listing of tokens is unambiguous

A listing has a line for each token, whatever stands in the string literals, for these are quoted.
What is left out of a line is known all the same: a token that is shown without its value is a
keyword, a symbol or the end of the input, and then the kind tells the value. So a line determines
its token (`text_inj`), and two texts with the same listing have the same tokens.
-/

namespace Kiss

open Text (IsLine eq_of_append_of_head)

variable {rest more : List Char}

theorem isDigit_of_mem_toString {n : Nat} {c : Char} (member : c ∈ (toString n).toList) :
    c.isDigit = true := by
  rw [Nat.toString_eq_repr, Nat.toList_repr] at member
  exact Nat.isDigit_of_mem_toDigits (by decide) (by decide) member

/-- A number ends where something comes that is no digit. -/
theorem eq_of_toString_append {m n : Nat} (ends : ∀ c ∈ rest.head?, c.isDigit = false)
    (otherEnds : ∀ c ∈ more.head?, c.isDigit = false)
    (same : (toString m).toList ++ rest = (toString n).toList ++ more) : m = n ∧ rest = more := by
  obtain ⟨digits, behind⟩ := eq_of_append_of_head (fun _ => isDigit_of_mem_toString) ends
    (fun _ => isDigit_of_mem_toString) otherEnds same
  exact ⟨Nat.repr_inj.mp (String.toList_inj.mp digits), behind⟩

namespace Position

theorem toList_text (p : Position) :
    p.text.toList = (toString p.line).toList ++ ':' :: (toString p.column).toList := by
  simp [text]

theorem isLine_text (p : Position) : IsLine p.text := by
  have noDigit (n : Nat) : '\n' ∉ (toString n).toList := fun member =>
    absurd (isDigit_of_mem_toString member) (by decide)
  rw [IsLine, toList_text, List.mem_append, List.mem_cons]
  rintro (inLine | same | inColumn)
  · exact noDigit _ inLine
  · cases same
  · exact noDigit _ inColumn

/-- A position ends where something comes that is no digit. -/
theorem eq_of_text_append {p q : Position} (ends : ∀ c ∈ rest.head?, c.isDigit = false)
    (otherEnds : ∀ c ∈ more.head?, c.isDigit = false)
    (same : p.text.toList ++ rest = q.text.toList ++ more) : p = q ∧ rest = more := by
  rw [toList_text, toList_text, List.append_assoc, List.append_assoc] at same
  obtain ⟨line, behind⟩ := eq_of_toString_append (by simp) (by simp) same
  obtain ⟨column, behind⟩ := eq_of_toString_append ends otherEnds (List.cons.inj behind).2
  exact ⟨congr (congrArg mk line) column, behind⟩

end Position

namespace TokenKind

/-- No two kinds are named alike. -/
theorem ofName?_name (kind : TokenKind) : ofName? kind.name = some kind := by
  cases kind with
  | keyword k => cases k <;> rfl
  | symbol s => cases s <;> rfl
  | number | hexNumber | text | word | endOfInput => rfl

theorem name_inj {kind other : TokenKind} (same : kind.name = other.name) : kind = other := by
  have found := ofName?_name kind
  rw [same, ofName?_name, Option.some.injEq] at found
  exact found.symm

/-- The name of a kind consists of letters and digits. -/
theorem isAlphanum_name (kind : TokenKind) : kind.name.toList.all Char.isAlphanum = true := by
  cases kind with
  | keyword k => cases k <;> rfl
  | symbol s => cases s <;> rfl
  | number | hexNumber | text | word | endOfInput => rfl

end TokenKind

namespace Token

variable {t u : Token}

/-- A token whose value can be told from its kind, if tokens of that kind are shown without it. -/
def IsShown (t : Token) : Prop :=
  t.kind.hasFreeValue = false → t.value = t.kind.lexeme?.getD ""

theorem IsWellFormed.isShown (wellFormed : t.IsWellFormed) : t.IsShown := by
  obtain ⟨kind, value, position⟩ := t
  intro fixed
  cases kind with
  | keyword | symbol =>
      cases wellFormed
      rfl
  | endOfInput => exact wellFormed.elim
  | number | hexNumber | text | word => cases fixed

/-- What stands between the kind and the position of a token. -/
def shownValue (t : Token) : List Char :=
  if t.kind.hasFreeValue then (Text.quoted t.value).toList ++ [',', ' '] else []

theorem toList_text (t : Token) :
    t.text.toList = "Token(".toList ++ (t.kind.name.toList ++ (',' :: ' ' ::
      (t.shownValue ++ (t.position.text.toList ++ [')'])))) := by
  unfold text shownValue
  split <;> simp

/-- Tokens of one kind show their values so that these can be told, and what comes behind as
    well. -/
theorem eq_of_shownValue_append (shown : t.IsShown) (otherShown : u.IsShown)
    (kind : t.kind = u.kind) (same : t.shownValue ++ rest = u.shownValue ++ more) :
    t.value = u.value ∧ rest = more := by
  unfold shownValue at same
  rw [← kind] at same
  by_cases free : t.kind.hasFreeValue = true
  · rw [if_pos free, if_pos free, List.append_assoc, List.append_assoc] at same
    obtain ⟨values, behind⟩ := Text.eq_of_quoted_append same
    exact ⟨values, List.append_cancel_left behind⟩
  · rw [if_neg free, if_neg free] at same
    have fixed : t.kind.hasFreeValue = false := Bool.eq_false_iff.mpr free
    exact ⟨(shown fixed).trans (kind ▸ (otherShown (kind ▸ fixed)).symm), same⟩

/-- A line determines its token. -/
theorem text_inj (shown : t.IsShown) (otherShown : u.IsShown) (same : t.text = u.text) :
    t = u := by
  have texts := congrArg String.toList same
  rw [toList_text, toList_text, List.append_cancel_left_eq] at texts
  -- the name of the kind ends at the first comma
  obtain ⟨names, behind⟩ := eq_of_append_of_head (List.all_eq_true.mp t.kind.isAlphanum_name)
    (by simp) (List.all_eq_true.mp u.kind.isAlphanum_name) (by simp) texts
  have kind : t.kind = u.kind := TokenKind.name_inj (String.toList_inj.mp names)
  obtain ⟨value, behind⟩ := eq_of_shownValue_append shown otherShown kind
    (List.cons.inj (List.cons.inj behind).2).2
  obtain ⟨position, _⟩ := Position.eq_of_text_append (by simp) (by simp) behind
  exact congr (congr (congrArg mk kind) value) position

/-- Whatever the value of a token is, the token is shown on one line. -/
theorem isLine_text (t : Token) : IsLine t.text := by
  have noNewline : '\n' ∉ t.kind.name.toList := fun member =>
    absurd (List.all_eq_true.mp t.kind.isAlphanum_name _ member) (by decide)
  have inPosition : '\n' ∉ t.position.text.toList := t.position.isLine_text
  have inValue : '\n' ∉ t.shownValue := by
    unfold shownValue
    split <;> simp [Text.newline_notMem_quoted]
  rw [IsLine, toList_text]
  simp [noNewline, inValue, inPosition]

theorem listing_eq_ofLines (tokens : List Token) :
    listing tokens = Text.ofLines (tokens.map text) := by
  rw [listing, Text.ofLines, List.map_map]
  rfl

/-- Tokens can be told from their listing. -/
theorem listing_inj {tokens others : List Token} (shown : ∀ t ∈ tokens, t.IsShown)
    (otherShown : ∀ t ∈ others, t.IsShown) (same : listing tokens = listing others) :
    tokens = others := by
  have areLines (tokens : List Token) : ∀ line ∈ tokens.map text, IsLine line := by
    intro line member
    obtain ⟨t, _, rfl⟩ := List.mem_map.mp member
    exact t.isLine_text
  rw [listing_eq_ofLines, listing_eq_ofLines] at same
  have lines := Text.ofLines_inj (areLines tokens) (areLines others) same
  induction tokens generalizing others with
  | nil => simpa [eq_comm] using lines
  | cons t tokens ih =>
      obtain ⟨u, others, rfl, first, behind⟩ := List.map_eq_cons_iff.mp lines.symm
      obtain ⟨ofFirst, ofRest⟩ := List.forall_mem_cons.mp shown
      obtain ⟨ofOther, ofOthers⟩ := List.forall_mem_cons.mp otherShown
      rw [text_inj ofFirst ofOther first.symm,
        ih ofRest ofOthers (by rw [behind]) behind.symm]

end Token

namespace Lexical

variable {source other : String} {ts us : List Token}

/-- The tokens of a text are shown in full, its end included. -/
theorem isShown_of_tokenize (read : tokenize source = .ok ts) : ∀ t ∈ ts, t.IsShown := by
  obtain ⟨pieces, last, _, isCut, rfl⟩ := exists_isCut_of_tokenize read
  intro t member
  rcases List.mem_append.mp member with member | member
  · exact (isCut.isWellFormed t member).isShown
  · cases List.mem_singleton.mp member
    exact fun _ => rfl

/-- The listing of tokens is unambiguous. For every text that is read, what is shown has just one
    line for each token, whatever is in the string literals; and any two texts for which the same is
    shown have the same tokens, of the same kinds, with the same values and in the same places. -/
theorem tokens_eq_of_tokenizeText_eq (read : tokenize source = .ok ts)
    (otherRead : tokenize other = .ok us) :
    (∃ lines, CommandLine.tokenizeText false source = .success (Text.ofLines lines) ∧
      lines.length = ts.length ∧ ∀ line ∈ lines, IsLine line) ∧
    ((CommandLine.tokenizeText false source).output =
      (CommandLine.tokenizeText false other).output → ts = us) := by
  have shows {text : String} {tokens : List Token} (read : tokenize text = .ok tokens) :
      CommandLine.tokenizeText false text = .success (Token.listing tokens) := by
    rw [CommandLine.tokenizeText, CommandLine.lex, read]
    rfl
  constructor
  · refine ⟨ts.map Token.text, ?_, List.length_map _, fun line member => ?_⟩
    · rw [shows read, Token.listing_eq_ofLines]
    · obtain ⟨t, _, rfl⟩ := List.mem_map.mp member
      exact t.isLine_text
  · intro same
    rw [shows read, shows otherRead] at same
    exact Token.listing_inj (isShown_of_tokenize read) (isShown_of_tokenize otherRead)
      (String.toByteArray_inj.mp same)

/-- A string literal that imitates the end of its line and the line behind it. Only the blanks of
    the two texts differ, which no token shows. -/
theorem tokenizeText_imitation :
    ∃ ts us, tokenize "\"a\\\", 1:1)\nToken(Minus, 2:1)\" -" = .ok ts ∧
      tokenize "\"a\\\", 1:1)\nToken(Minus, 2:1)\"\t-" = .ok us ∧ ts = us ∧ ts.length = 3 ∧
      ∃ lines, lines.length = ts.length ∧ (∀ line ∈ lines, IsLine line) ∧
        CommandLine.tokenizeText false "\"a\\\", 1:1)\nToken(Minus, 2:1)\" -" =
          .success (Text.ofLines lines) := by
  have read : tokenize "\"a\\\", 1:1)\nToken(Minus, 2:1)\" -" =
      .ok [⟨.text, "a\", 1:1)\nToken(Minus, 2:1)", ⟨1, 1⟩⟩, ⟨.symbol .minus, "-", ⟨2, 20⟩⟩,
        .endOfInput ⟨2, 21⟩] := by decide +kernel
  have otherRead : tokenize "\"a\\\", 1:1)\nToken(Minus, 2:1)\"\t-" =
      .ok [⟨.text, "a\", 1:1)\nToken(Minus, 2:1)", ⟨1, 1⟩⟩, ⟨.symbol .minus, "-", ⟨2, 20⟩⟩,
        .endOfInput ⟨2, 21⟩] := by decide +kernel
  obtain ⟨⟨lines, shown, count, areLines⟩, same⟩ := tokens_eq_of_tokenizeText_eq read otherRead
  refine ⟨_, _, read, otherRead, same ?_, rfl, lines, count, areLines, shown⟩
  simp only [CommandLine.tokenizeText, CommandLine.lex, read, otherRead]

end Lexical

end Kiss
