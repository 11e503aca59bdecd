import Mathlib.Logic.Basic

/-! Writes to some bits of a word. A write names the bits it covers and their new values; a
bit holds what the last write that covers it gave it. -/
namespace PowerMonitor.MaskedBits

variable {w : Nat}

/-- A write of the bits in `mask`. -/
structure MaskedWrite (w : Nat) where
  mask : BitVec w
  values : BitVec w
  deriving DecidableEq, Repr

def MaskedWrite.apply (word : BitVec w) (write : MaskedWrite w) : BitVec w :=
  (word &&& ~~~write.mask) ||| (write.values &&& write.mask)

/-- The word after a history of writes. -/
def writeAll (word : BitVec w) (history : List (MaskedWrite w)) : BitVec w :=
  history.foldl MaskedWrite.apply word

/-- What the last write that covers bit `i` gave it, or what it held at first. -/
def lastWritten (initial : Bool) (i : Nat) (history : List (MaskedWrite w)) : Bool :=
  history.foldl (fun bit write => if write.mask.getLsbD i then write.values.getLsbD i else bit)
    initial

private theorem getLsbD_apply (word : BitVec w) (write : MaskedWrite w) (i : Nat) :
    (write.apply word).getLsbD i =
      if write.mask.getLsbD i then write.values.getLsbD i else word.getLsbD i := by
  by_cases inside : i < w
  · simp only [MaskedWrite.apply, BitVec.getLsbD_or, BitVec.getLsbD_and, BitVec.getLsbD_not,
      inside, decide_true, Bool.true_and]
    cases write.mask.getLsbD i <;> simp
  · simp [BitVec.getLsbD_of_ge _ _ (Nat.le_of_not_lt inside)]

/-- **A history of writes.** Every bit holds what was last written to it. -/
theorem getLsbD_writeAll (word : BitVec w) (history : List (MaskedWrite w)) (i : Nat) :
    (writeAll word history).getLsbD i = lastWritten (word.getLsbD i) i history := by
  induction history generalizing word with
  | nil => rfl
  | cons write history ih =>
    rw [writeAll, List.foldl_cons, ← writeAll, ih, getLsbD_apply]
    rfl

/-- A word is zero when none of its bits is set. -/
theorem eq_zero_iff_getLsbD (word : BitVec w) : word = 0 ↔ ∀ i < w, word.getLsbD i = false := by
  constructor
  · rintro rfl i _
    simp
  · intro clear
    apply BitVec.eq_of_getLsbD_eq
    intro i inside
    simpa using clear i inside

end PowerMonitor.MaskedBits
