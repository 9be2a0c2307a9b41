/-!
# Ranges of code points

The character classes of the language are tables of ranges. A table is written in
ascending order, so a search may stop at the first range that begins too late;
`inRanges_iff` says that nothing is lost by stopping there.
-/

namespace Kiss.Character

/-- Whether a code point lies in one of the ranges, both ends included. The ranges
    are ascending, so the search ends at the first one that begins after it. -/
def inRanges : List (Nat × Nat) → Nat → Bool
  | [], _ => false
  | (first, last) :: rest, code =>
      if code < first then false
      else if code ≤ last then true
      else inRanges rest code

/-- Every range is nonempty and ends before the next one begins. -/
def areAscending : List (Nat × Nat) → Bool
  | [] => true
  | [range] => range.1 ≤ range.2
  | range :: next :: rest =>
      decide (range.1 ≤ range.2) && decide (range.2 < next.1) && areAscending (next :: rest)

theorem areAscending_tail {range : Nat × Nat} {rest : List (Nat × Nat)}
    (ascending : areAscending (range :: rest) = true) : areAscending rest = true := by
  cases rest with
  | nil => rfl
  | cons next rest =>
      simp only [areAscending, Bool.and_eq_true] at ascending
      exact ascending.2

/-- In an ascending table no range begins before the first one does. -/
theorem first_le_of_mem {range : Nat × Nat} {rest : List (Nat × Nat)}
    (ascending : areAscending (range :: rest) = true) :
    ∀ other ∈ range :: rest, range.1 ≤ other.1 := by
  induction rest generalizing range with
  | nil => simp
  | cons next rest ih =>
      intro other member
      have later := ih (areAscending_tail ascending)
      simp only [areAscending, Bool.and_eq_true, decide_eq_true_eq] at ascending
      rcases List.mem_cons.mp member with equal | member
      · exact equal ▸ Nat.le_refl _
      · have bound := later other member
        omega

/-- The search finds exactly the code points of an ascending table. -/
theorem inRanges_iff {table : List (Nat × Nat)} {code : Nat}
    (ascending : areAscending table = true) :
    inRanges table code = true ↔ ∃ range ∈ table, range.1 ≤ code ∧ code ≤ range.2 := by
  induction table with
  | nil => simp [inRanges]
  | cons range rest ih =>
      have earliest := first_le_of_mem ascending
      have ih := ih (areAscending_tail ascending)
      simp only [inRanges]
      split
      · constructor
        · simp
        · rintro ⟨other, member, lower, _⟩
          have := earliest other member
          omega
      · split
        · refine ⟨fun _ => ⟨range, by simp, by omega, by omega⟩, fun _ => rfl⟩
        · rw [ih]
          constructor
          · rintro ⟨other, member, bounds⟩
            exact ⟨other, List.mem_cons_of_mem _ member, bounds⟩
          · rintro ⟨other, member, bounds⟩
            rcases List.mem_cons.mp member with equal | member
            · subst other
              omega
            · exact ⟨other, member, bounds⟩

end Kiss.Character
