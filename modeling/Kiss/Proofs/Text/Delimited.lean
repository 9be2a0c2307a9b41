/-!
# Texts that are put together

Where a row of characters of one class meets a character of another one, the place where they meet
can be told from the whole. So lines of text can be told from the text that they make up.
-/

namespace Kiss.Text

section Delimited

variable {p : Char → Bool} {front other rest more : List Char}

theorem takeWhile_append_of_head (all : ∀ c ∈ front, p c = true)
    (ends : ∀ c ∈ rest.head?, p c = false) : (front ++ rest).takeWhile p = front := by
  rw [List.takeWhile_append_of_pos all]
  cases rest with
  | nil => simp
  | cons c rest => simp [ends c rfl]

theorem dropWhile_append_of_head (all : ∀ c ∈ front, p c = true)
    (ends : ∀ c ∈ rest.head?, p c = false) : (front ++ rest).dropWhile p = rest := by
  rw [List.dropWhile_append_of_pos all]
  cases rest with
  | nil => rfl
  | cons c rest => simp [ends c rfl]

/-- A row of characters ends where another character comes. -/
theorem eq_of_append_of_head (all : ∀ c ∈ front, p c = true) (ends : ∀ c ∈ rest.head?, p c = false)
    (otherAll : ∀ c ∈ other, p c = true) (otherEnds : ∀ c ∈ more.head?, p c = false)
    (same : front ++ rest = other ++ more) : front = other ∧ rest = more := by
  have fronts := congrArg (List.takeWhile p) same
  rw [takeWhile_append_of_head all ends, takeWhile_append_of_head otherAll otherEnds] at fronts
  subst fronts
  exact ⟨rfl, List.append_cancel_left same⟩

end Delimited

/-- Lines with a newline behind each of them. -/
def ofLines (lines : List String) : String :=
  String.join (lines.map fun line => line ++ "\n")

/-- A text without a newline. -/
def IsLine (text : String) : Prop :=
  '\n' ∉ text.toList

theorem IsLine.append {text more : String} (isLine : IsLine text) (moreIsLine : IsLine more) :
    IsLine (text ++ more) := by
  rw [IsLine, String.toList_append, List.mem_append, not_or]
  exact ⟨isLine, moreIsLine⟩

instance (text : String) : Decidable (IsLine text) :=
  inferInstanceAs (Decidable (¬_))

variable {line : String} {lines others : List String}

theorem toList_ofLines_cons (line : String) (lines : List String) :
    (ofLines (line :: lines)).toList = line.toList ++ '\n' :: (ofLines lines).toList := by
  simp [ofLines, String.toList_join]

/-- Lines can be told from the text they make up. -/
theorem ofLines_inj (areLines : ∀ line ∈ lines, IsLine line)
    (otherAreLines : ∀ line ∈ others, IsLine line) (same : ofLines lines = ofLines others) :
    lines = others := by
  have inside {line : String} (isLine : IsLine line) : ∀ c ∈ line.toList, (c != '\n') = true :=
    fun c member => bne_iff_ne.mpr fun equal => isLine (equal ▸ member)
  have newline (cs : List Char) : ∀ c ∈ ('\n' :: cs).head?, (c != '\n') = false := by
    rintro c ⟨⟩
    rfl
  induction lines generalizing others with
  | nil =>
      cases others with
      | nil => rfl
      | cons other others =>
          have texts := congrArg String.toList same
          rw [toList_ofLines_cons] at texts
          exact absurd texts (by simp [ofLines])
  | cons line lines ih =>
      have texts := congrArg String.toList same
      rw [toList_ofLines_cons] at texts
      cases others with
      | nil => exact absurd texts (by simp [ofLines])
      | cons other others =>
          rw [toList_ofLines_cons] at texts
          obtain ⟨isLine, areLines⟩ := List.forall_mem_cons.mp areLines
          obtain ⟨otherIsLine, otherAreLines⟩ := List.forall_mem_cons.mp otherAreLines
          obtain ⟨firsts, behind⟩ := eq_of_append_of_head (inside isLine) (newline _)
            (inside otherIsLine) (newline _) texts
          have rest := ih areLines otherAreLines (String.toList_inj.mp (List.cons.inj behind).2)
          rw [String.toList_inj.mp firsts, rest]

end Kiss.Text
