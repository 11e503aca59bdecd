import Mathlib.Logic.Basic

/-! Bytes of separate objects. An object is a block of bytes counted from its start; an offset
past its end still names a byte of the block, which is not one of the object's. -/
namespace PowerMonitor.ByteMemory

variable {ρ : Type} [DecidableEq ρ] {n m : Nat}

/-- A run of `n` bytes, lowest address first. -/
abbrev Bytes (n : Nat) : Type := Fin n → UInt8

/-- The bytes of every block. -/
abbrev Memory (ρ : Type) : Type := ρ → Nat → UInt8

def load (mem : Memory ρ) (block : ρ) (offset : Nat) : Bytes n := fun i => mem block (offset + i)

def store (mem : Memory ρ) (block : ρ) (offset : Nat) (bytes : Bytes n) : Memory ρ :=
  fun other k =>
    if within : other = block ∧ offset ≤ k ∧ k < offset + n then bytes ⟨k - offset, by omega⟩
    else mem other k

/-- A buffer after `n` of its bytes were overwritten from its start. -/
def overlay (bytes data : Bytes m) (n : Nat) : Bytes m := fun i => if i < n then data i else bytes i

/-- A store leaves every byte outside its range. -/
theorem store_outside (mem : Memory ρ) (bytes : Bytes n)
    (outside : ¬ (other = block ∧ offset ≤ k ∧ k < offset + n)) :
    store mem block offset bytes other k = mem other k := dif_neg outside

theorem store_inside (mem : Memory ρ) (block : ρ) (offset : Nat) (bytes : Bytes n) (i : Fin n) :
    store mem block offset bytes block (offset + i) = bytes i := by
  have within : block = block ∧ offset ≤ offset + i.val ∧ offset + i.val < offset + n := by
    refine ⟨rfl, ?_, ?_⟩ <;> omega
  simp [store, within]

@[simp] theorem load_store_same (mem : Memory ρ) (block : ρ) (offset : Nat) (bytes : Bytes n) :
    load (store mem block offset bytes) block offset = bytes :=
  funext (store_inside mem block offset bytes)

/-- Bytes copied from one memory to the same place of another. -/
theorem store_load (mem mem' : Memory ρ) (block : ρ) (offset n : Nat) (other : ρ) (k : Nat) :
    store mem block offset (load mem' block offset : Bytes n) other k =
      if other = block ∧ offset ≤ k ∧ k < offset + n then mem' other k else mem other k := by
  by_cases within : other = block ∧ offset ≤ k ∧ k < offset + n
  · obtain ⟨rfl, lower, upper⟩ := within
    have index : offset + (k - offset) = k := by omega
    simp [store, load, lower, upper, index]
  · rw [store_outside _ _ within, if_neg within]

/-- The start of what was stored. -/
theorem load_store_start (mem : Memory ρ) (block : ρ) (offset : Nat) (bytes : Bytes m)
    (fits : n ≤ m) (i : Fin n) :
    (load (store mem block offset bytes) block offset : Bytes n) i = bytes (i.castLE fits) :=
  store_inside mem block offset bytes (i.castLE fits)

/-- A store does not change what lies apart from it. -/
theorem load_store_apart (mem : Memory ρ) (bytes : Bytes n)
    (apart : other ≠ block ∨ at' + m ≤ offset ∨ offset + n ≤ at') :
    (load (store mem block offset bytes) other at' : Bytes m) = load mem other at' := by
  funext i
  apply store_outside
  rintro ⟨same, lower, upper⟩
  rcases apart with distinct | below | above
  · exact distinct same
  · omega
  · omega

/-- A store changes nothing exactly when the bytes were there before. -/
theorem store_eq_self_iff (mem : Memory ρ) (block : ρ) (offset : Nat) (bytes : Bytes n) :
    store mem block offset bytes = mem ↔ load mem block offset = bytes := by
  constructor
  · intro same
    rw [← load_store_same mem block offset bytes, same]
  · intro same
    funext other k
    by_cases within : other = block ∧ offset ≤ k ∧ k < offset + n
    · obtain ⟨rfl, lower, upper⟩ := within
      have byte := store_inside mem other offset bytes ⟨k - offset, by omega⟩
      have index : offset + (k - offset) = k := by omega
      simp only [index] at byte
      rw [byte, ← same]
      simp [load, index]
    · exact store_outside mem bytes within

end PowerMonitor.ByteMemory
