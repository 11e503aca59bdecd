import Mathlib.Data.Nat.Notation

/-! Something moved in pieces. Each request is answered with a failure or with a piece, which
is as large as the answer offers, within what the request allows and what is left. -/
namespace PowerMonitor.Pieces

variable {limit left rest total moved offer n : ℕ}

/-- The answers to successive requests: a failure, or an offer of some size. -/
abbrev Answers : Type := ℕ → Option ℕ

/-- The answers to the requests after the first. -/
def Answers.later (answers : Answers) : Answers := fun i => answers (i + 1)

variable {answers : Answers}

/-- The size of a piece. An offer of `n` is one of up to `n + 1`, so that no piece is empty
while something is left. -/
def pieceSize (limit left offer : ℕ) : ℕ := min (offer + 1) (min limit left)

theorem piece_size_pos (allowed : 0 < limit) (left : 0 < rest) (offer : ℕ) :
    0 < pieceSize limit rest offer := by
  unfold pieceSize
  omega

theorem piece_size_le_left (limit left offer : ℕ) : pieceSize limit left offer ≤ left := by
  unfold pieceSize
  omega

/-- What a request moves: nothing, when it fails. -/
def movedBy (limit left : ℕ) (answer : Option ℕ) : ℕ := answer.elim 0 (pieceSize limit left)

theorem moved_by_le_left (limit left : ℕ) (answer : Option ℕ) :
    movedBy limit left answer ≤ left := by
  cases answer with
  | none => exact Nat.zero_le _
  | some offer => exact piece_size_le_left limit left offer

/-- How much of `total` was moved before request number `i`, when each request asks for `limit`
and a failure ends them; `none` if request `i` is not made. -/
def movedBefore (limit total : ℕ) (answers : Answers) (moved : ℕ) : ℕ → Option ℕ
  | 0 => if moved < total then some moved else none
  | i + 1 =>
    if moved < total then
      match answers 0 with
      | none => none
      | some offer =>
        movedBefore limit total answers.later (moved + pieceSize limit (total - moved) offer) i
    else none

/-- Nothing is requested once everything was moved. -/
theorem moved_before_done (done : ¬ moved < total) (i : ℕ) :
    movedBefore limit total answers moved i = none := by
  cases i <;> simp [movedBefore, done]

/-- What holds of every request: of the one made now, and, if it succeeds, of those after it. -/
theorem forall_moved_before_iff (left : moved < total) (P : ℕ → ℕ → Prop) :
    (∀ i, ∀ m ∈ movedBefore limit total answers moved i, P i m) ↔
      P 0 moved ∧ ∀ offer ∈ answers 0, ∀ i,
        ∀ m ∈ movedBefore limit total answers.later
            (moved + pieceSize limit (total - moved) offer) i,
          P (i + 1) m := by
  have first : movedBefore limit total answers moved 0 = some moved := by simp [movedBefore, left]
  constructor
  · refine fun all => ⟨all 0 moved first, fun offer answer i m asked => all (i + 1) m ?_⟩
    rw [Option.mem_def] at answer
    simpa [movedBefore, left, answer] using asked
  · rintro ⟨now, later⟩ i m asked
    cases i with
    | zero =>
      obtain rfl : moved = m := by simpa [first] using asked
      exact now
    | succ i =>
      cases answer : answers 0 with
      | none => simp [movedBefore, answer] at asked
      | some offer =>
        exact later offer answer i m (by simpa [movedBefore, left, answer] using asked)

end PowerMonitor.Pieces
