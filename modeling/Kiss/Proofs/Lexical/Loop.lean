import Kiss.Proofs.Lexical.Cursor

/-!
# Rounds of a loop

What is left of a source behind the cursor decides what is read (`Cursor.rest`), and to pass
characters is to drop them from it (`Cursor.past`). A round `Advances` if it reads inside of the
source and ends its loop or moves the cursor. A loop of such rounds ends: it goes round at most once
more than there are characters left, so whatever its rounds hand on from each to the one before
holds of the whole loop (`Advances.loop`).
-/

namespace Kiss.Lexical

open Lexer

namespace Cursor

variable {c d e : Cursor} {cs behind : List Char} {rounds m n : Nat}

/-- What is left of the source. -/
def rest (c : Cursor) : List Char := c.source.drop c.index

/-- The cursor behind some more characters. -/
def past (c : Cursor) (cs : List Char) : Cursor :=
  { c with index := c.index + cs.length, place := c.place.after cs }

@[simp]
theorem past_nil (c : Cursor) : c.past [] = c := rfl

@[simp]
theorem past_past (c : Cursor) (cs ds : List Char) : (c.past cs).past ds = c.past (cs ++ ds) := by
  simp [past, Position.after_append, Nat.add_assoc]

theorem rest_past (front : c.rest = cs ++ behind) : (c.past cs).rest = behind := by
  rw [Cursor.rest, past, ← List.drop_drop, show c.source.drop c.index = cs ++ behind from front,
    List.drop_left]

/-- The cursor stands in its source or at its end, and loops may go round more often than the source
    has characters. -/
structure Fits (c : Cursor) (rounds : Nat) : Prop where
  inside : c.index ≤ c.source.length
  enough : c.source.length < rounds

/-- Another cursor stands so many characters further on in the same source, or more. -/
structure Reaches (c : Cursor) (count : Nat) (d : Cursor) : Prop where
  source : d.source = c.source
  further : c.index + count ≤ d.index
  inside : d.index ≤ c.source.length

theorem Fits.reaches_self (fits : c.Fits rounds) : c.Reaches 0 c :=
  ⟨rfl, Nat.le_refl _, fits.inside⟩

theorem Reaches.fits (reaches : c.Reaches n d) (fits : c.Fits rounds) : d.Fits rounds := by
  constructor
  · rw [reaches.source]
    exact reaches.inside
  · rw [reaches.source]
    exact fits.enough

theorem Reaches.mono (reaches : c.Reaches n d) (fewer : m ≤ n) : c.Reaches m d :=
  ⟨reaches.source, by have := reaches.further; omega, reaches.inside⟩

theorem Reaches.trans (first : c.Reaches m d) (second : d.Reaches n e) : c.Reaches (m + n) e := by
  obtain ⟨source, further, _⟩ := first
  obtain ⟨otherSource, evenFurther, inside⟩ := second
  exact ⟨otherSource.trans source, by omega, source ▸ inside⟩

theorem length_rest (fits : c.Fits rounds) : c.index + c.rest.length = c.source.length := by
  have := fits.inside
  rw [rest, List.length_drop]
  omega

theorem reaches_past (fits : c.Fits rounds) (front : c.rest = cs ++ behind) :
    c.Reaches cs.length (c.past cs) := by
  have whole := length_rest fits
  rw [front, List.length_append] at whole
  exact ⟨rfl, Nat.le_refl _, by simp only [past]; omega⟩

theorem rest_past_singleton {ch : Char} (front : c.rest = ch :: behind) :
    (c.past [ch]).rest = behind :=
  rest_past front

theorem reaches_past_singleton {ch : Char} (fits : c.Fits rounds) (front : c.rest = ch :: behind) :
    c.Reaches 1 (c.past [ch]) :=
  reaches_past fits (show c.rest = [ch] ++ behind from front)

theorem fits_past (fits : c.Fits rounds) (front : c.rest = cs ++ behind) :
    (c.past cs).Fits rounds :=
  (reaches_past fits front).fits fits

end Cursor

namespace Scanning

variable {α β : Type} {c : Cursor} {d : Char} {cs : List Char}

/-! ### What the pieces come to -/

/-- Behind a computation that comes to a value it is gone on from there. -/
theorem bind_ok {m : Scanning α} {f : α → Scanning β} {value : α} {after : Cursor}
    (done : m c = .ok (value, after)) : (m >>= f) c = f value after := by
  show Except.bind (m c) _ = _
  rw [done]
  rfl

theorem bind_error {m : Scanning α} {f : α → Scanning β} {why : Halt}
    (halts : m c = .error why) : (m >>= f) c = .error why := by
  show Except.bind (m c) _ = _
  rw [halts]
  rfl

theorem getElem?_of_rest (front : c.rest = d :: cs) : c.source[c.index]? = some d := by
  rw [← List.head?_drop, show c.source.drop c.index = d :: cs from front, List.head?_cons]

theorem peek_bind (front : c.rest = d :: cs) (f : Char → Scanning α) :
    (peek >>= f) c = f d c :=
  bind_ok (by rw [peek, getElem?_of_rest front])

theorem advance_eq (front : c.rest = d :: cs) : advance c = .ok ((), c.past [d]) := by
  rw [advance, getElem?_of_rest front]
  rfl

theorem advance_bind (front : c.rest = d :: cs) (f : Unit → Scanning α) :
    (advance >>= f) c = f () (c.past [d]) :=
  bind_ok (advance_eq front)

theorem ahead_bind (front : c.rest = d :: cs) (f : Option Char → Scanning α) :
    (ahead 1 >>= f) c = f cs.head? c := by
  have next : c.source[c.index + 1]? = cs.head? := by
    rw [← List.head?_drop, ← List.drop_drop, show c.source.drop c.index = d :: cs from front]
    rfl
  exact bind_ok (by rw [ahead, next])

theorem atEnd_eq (c : Cursor) : atEnd c = .ok (c.rest.isEmpty, c) := by
  have same : decide (c.source.length ≤ c.index) = c.rest.isEmpty := by
    rw [Bool.eq_iff_iff, decide_eq_true_iff, List.isEmpty_iff, Cursor.rest,
      List.drop_eq_nil_iff]
  rw [atEnd, same]

section AtEnd

variable {yes no : Scanning α}

theorem atEnd_nil (front : c.rest = []) :
    (atEnd >>= fun ended => if ended = true then yes else no) c = yes c := by
  rw [bind_ok (atEnd_eq c), front, List.isEmpty_nil, if_pos rfl]

/-- In front of a character it is gone on with a round. -/
theorem atEnd_cons (front : c.rest = d :: cs) :
    (atEnd >>= fun ended => if ended = true then yes else no) c = no c := by
  rw [bind_ok (atEnd_eq c), front, List.isEmpty_cons, if_neg Bool.false_ne_true]

end AtEnd

theorem place_bind (f : Position → Scanning α) : (place >>= f) c = f c.place c := rfl

theorem peekPair_bind {e : Char} (front : c.rest = d :: e :: cs) (f : List Char → Scanning α) :
    (peekPair >>= f) c = f [d, e] c := by
  have window : c.source.drop c.index = d :: e :: cs := front
  have room : c.index + 2 ≤ c.source.length := by
    have length := congrArg List.length window
    rw [List.length_drop] at length
    simp only [List.length_cons] at length
    omega
  exact bind_ok (by rw [peekPair, if_pos room, window]; rfl)

/-! ### Loops -/

/-- A round that begins at a cursor ends its loop, or goes on further behind in the source, or
    refuses the source. -/
def IsRoundAt (c : Cursor) : Except Halt (ForInStep α × Cursor) → Prop
  | .ok (.done _, d) => c.Reaches 0 d
  | .ok (.yield _, d) => c.Reaches 1 d
  | .error why => ∃ e, why = .refused e

/-- All rounds of a loop are such, whatever the loop has come to. -/
def Advances (rounds : Nat) (round : α → Scanning (ForInStep α)) : Prop :=
  ∀ value c, c.Fits rounds → IsRoundAt c (round value c)

variable {rounds : Nat} {round : α → Scanning (ForInStep α)}

/-- What a round has to do for something to hold of a loop: it holds of the end to which the round
    comes, or it is handed on from the next round. -/
def HandsOn (R : α → Cursor → Except Halt (α × Cursor) → Prop) (value : α) (c : Cursor) :
    Except Halt (ForInStep α × Cursor) → Prop
  | .ok (.done last, d) => R value c (.ok (last, d))
  | .ok (.yield next, d) => ∀ result, R next d result → R value c result
  | .error why => R value c (.error why)

/-- A loop whose rounds advance comes to its end before it is out of rounds, by induction on those
    that it may still go. -/
theorem Advances.loop {R : α → Cursor → Except Halt (α × Cursor) → Prop}
    (advances : Advances rounds round)
    (handsOn : ∀ value c, c.Fits rounds → HandsOn R value c (round value c)) {left : Nat}
    {value : α} {c : Cursor} (fits : c.Fits rounds) (enough : c.rest.length < left) :
    R value c (loop round left value c) := by
  induction left generalizing value c with
  | zero => omega
  | succ left ih =>
      have moves := advances value c fits
      have holds := handsOn value c fits
      rw [Scanning.loop]
      cases result : round value c with
      | error why =>
          rw [bind_error result]
          rw [result] at holds
          exact holds
      | ok reached =>
          obtain ⟨step, d⟩ := reached
          rw [result] at moves holds
          rw [bind_ok result]
          cases step with
          | done last => exact holds
          | yield next =>
              have inside := moves.fits fits
              have fewer : d.rest.length < left := by
                have before := Cursor.length_rest fits
                have after := Cursor.length_rest inside
                have further := moves.further
                rw [moves.source] at after
                omega
              exact holds _ (ih inside fewer)

/-- So many rounds are enough. -/
theorem length_rest_lt (fits : c.Fits rounds) : c.rest.length < rounds := by
  have := Cursor.length_rest fits
  have := fits.enough
  omega

end Scanning

end Kiss.Lexical
