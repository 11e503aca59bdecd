import Mathlib.Algebra.Order.Floor.Defs
import Mathlib.Data.Rat.Floor
import PowerMonitor.EventHistory
import PowerMonitor.PowerSensor
import PowerMonitor.Rounding
import PowerMonitor.Telemetry

/-! The `float`s that `readINA` (`rtu/main/sensors.c`) makes of the words it read, and what of
the words can be told from them, on the RTU and on the master. -/
namespace PowerMonitor.SensorFloats
open Binary32 ByteMemory MasterRead ControlLoop DelayedCopy Telemetry

/-- `v_raw`, `i_raw` and `p_raw` for the word that was read. -/
def raw (k : Fin 3) (word : UInt16) : Nat :=
  match k with
  | 0 => (word >>> 1).toNat
  | 1 => word.toNat
  | 2 => word.toNat

/-- `v`, `i` and `p`: `(float)v_raw / 1000.0f`, `(float)i_raw / 30.0f` and
`(float)p_raw * (2.0f/3.0f)`. -/
def float (k : Fin 3) (word : UInt16) : UInt32 :=
  match k with
  | 0 => quotient (ofNat (raw 0 word)) (ofNat 1000)
  | 1 => quotient (ofNat (raw 1 word)) (ofNat 30)
  | 2 => product (ofNat (raw 2 word)) (quotient (ofNat 2) (ofNat 3))

/-- The factor between a raw value and what is published of it. -/
def scale : Fin 3 → ℚ
  | 0 => 1 / 1000
  | 1 => 1 / 30
  | 2 => 2 / 3

/-- The raw value nearest to a published one. -/
def recover (k : Fin 3) (word : UInt32) : ℤ := ⌊(scaled word : ℚ) / 2 ^ 149 / scale k + 1 / 2⌋

example : float 0 0x6400 = 0x414CCCCD := by decide

variable {k : Fin 3} {word : UInt16}

private theorem raw_lt (k : Fin 3) (word : UInt16) : raw k word < 2 ^ 16 := by
  have bound := word.toNat_lt
  have half : (word >>> 1).toNat ≤ word.toNat := by
    simp only [UInt16.toNat_shiftRight, Nat.shiftRight_eq_div_pow]
    exact Nat.div_le_self _ _
  unfold raw
  split
  · omega
  · exact bound
  · exact bound

private theorem scale_bounds (k : Fin 3) : 1 / 1000 ≤ scale k ∧ scale k ≤ 2 / 3 := by
  unfold scale
  split <;> norm_num

/-- What `readINA` would publish without rounding. -/
def exact (k : Fin 3) (word : UInt16) : ℚ := raw k word * scale k

private theorem exact_bounds (k : Fin 3) (word : UInt16) :
    0 ≤ exact k word ∧ exact k word < 2 ^ 16 := by
  obtain ⟨lower, upper⟩ := scale_bounds k
  have bound : (raw k word : ℚ) < 2 ^ 16 := by exact_mod_cast raw_lt k word
  have least : (0 : ℚ) ≤ raw k word := Nat.cast_nonneg _
  unfold exact
  refine ⟨by positivity, ?_⟩
  calc (raw k word : ℚ) * scale k ≤ raw k word * 1 :=
        mul_le_mul_of_nonneg_left (by linarith) least
    _ < 2 ^ 16 := by rwa [mul_one]

/-- The smallest step is still large. -/
private theorem exact_zero_or_large (k : Fin 3) (word : UInt16) :
    exact k word = 0 ∨ 1 / 1000 ≤ exact k word := by
  obtain ⟨lower, _⟩ := scale_bounds k
  unfold exact
  rcases Nat.eq_zero_or_pos (raw k word) with none | some
  · left
    rw [none, Nat.cast_zero, zero_mul]
  · right
    have least : (1 : ℚ) ≤ raw k word := by exact_mod_cast some
    nlinarith

/-- No published value comes near the limits of binary32. -/
theorem in_range {q : ℚ} (small : q < 2 ^ 17) (large : q = 0 ∨ 1 / 1000 ≤ q) : InRange q := by
  refine ⟨small.trans (by norm_num), large.imp_right fun least => ?_⟩
  calc (1 : ℚ) ≤ 1 / 1000 * 2 ^ 126 := by norm_num
    _ ≤ q * 2 ^ 126 := mul_le_mul_of_nonneg_right least (by positivity)

/-- A division by a constant. -/
private theorem value_division {n : Nat} (k : Fin 3) (word : UInt16) (positive : 0 < n)
    (few : n ≤ 1000) (factor : scale k = 1 / n) :
    IsNearest (exact k word * 2 ^ 149) (quotient (ofNat (raw k word)) (ofNat n)) ∧
    ∃ r, value (quotient (ofNat (raw k word)) (ofNat n)) = some (number r) ∧
      |exact k word - r| ≤ exact k word / 2 ^ 22 := by
  obtain ⟨nonneg, small⟩ := exact_bounds k word
  have bound := raw_lt k word
  have ratio : (raw k word : ℚ) / n = exact k word := by
    rw [exact, factor, mul_one_div]
  have range := in_range (small.trans (by norm_num)) (exact_zero_or_large k word)
  rw [← ratio] at range
  obtain ⟨nearest, r, numeric, close⟩ := value_quotient
    (value_ofNat (by omega : raw k word < 2 ^ 24)) (value_ofNat (by omega : n < 2 ^ 24))
    (Nat.cast_nonneg _) (Nat.cast_pos.mpr positive) range
  rw [ratio] at nearest close
  exact ⟨nearest, r, numeric,
    close.trans (div_le_div_of_nonneg_left nonneg (by norm_num) (by norm_num))⟩

/-- The constant `2.0f/3.0f`. -/
private theorem value_two_thirds : ∃ c, value (quotient (ofNat 2) (ofNat 3)) = some (number c) ∧
    |2 / 3 - c| ≤ 2 / 3 / 2 ^ 24 := by
  have range : InRange ((2 : ℕ) / (3 : ℕ) : ℚ) := in_range (by norm_num) (Or.inr (by norm_num))
  have close := (value_quotient (value_ofNat (n := 2) (by norm_num))
    (value_ofNat (n := 3) (by norm_num)) (by norm_num) (by norm_num) range).2
  simpa using close

/-- The multiplication by it. -/
private theorem value_multiplication (word : UInt16) : ∃ r, value (float 2 word) = some (number r) ∧
    |exact 2 word - r| ≤ exact 2 word / 2 ^ 22 := by
  obtain ⟨c, constant, near⟩ := value_two_thirds
  have bound := raw_lt 2 word
  have few : (raw 2 word : ℚ) < 2 ^ 16 := by exact_mod_cast bound
  have nonneg : (0 : ℚ) ≤ raw 2 word := Nat.cast_nonneg _
  obtain ⟨above, below⟩ := abs_le.mp near
  have small : (raw 2 word : ℚ) * c < 2 ^ 17 := by nlinarith
  have large : (raw 2 word : ℚ) * c = 0 ∨ 1 / 1000 ≤ (raw 2 word : ℚ) * c := by
    rcases Nat.eq_zero_or_pos (raw 2 word) with none | some
    · left
      rw [none, Nat.cast_zero, zero_mul]
    · right
      have least : (1 : ℚ) ≤ raw 2 word := by exact_mod_cast some
      nlinarith
  obtain ⟨r, numeric, close⟩ := value_product (value_ofNat (by omega : raw 2 word < 2 ^ 24))
    constant nonneg (by linarith) (in_range small large)
  refine ⟨r, numeric, ?_⟩
  have first : |exact 2 word - raw 2 word * c| ≤ raw 2 word * (2 / 3 / 2 ^ 24) := by
    rw [exact, scale, ← mul_sub, abs_mul, abs_of_nonneg nonneg]
    exact mul_le_mul_of_nonneg_left near nonneg
  have second : (raw 2 word : ℚ) * c / 2 ^ 24 ≤ raw 2 word * (1 / 2 ^ 24) := by
    rw [mul_div_assoc]
    exact mul_le_mul_of_nonneg_left (by linarith) nonneg
  calc |exact 2 word - r|
      ≤ |exact 2 word - raw 2 word * c| + |raw 2 word * c - r| := abs_sub_le _ _ _
    _ ≤ raw 2 word * (2 / 3 / 2 ^ 24) + raw 2 word * (1 / 2 ^ 24) :=
        add_le_add first (close.trans second)
    _ ≤ exact 2 word / 2 ^ 22 := by
        rw [exact, scale]
        linarith

/-- Voltage and current are divided, and so rounded only once. -/
theorem float_division (word : UInt16) (divided : k ≠ 2) :
    IsNearest (exact k word * 2 ^ 149) (float k word) ∧
    ∃ r, value (float k word) = some (number r) ∧ |exact k word - r| ≤ exact k word / 2 ^ 22 := by
  match k with
  | 0 => exact value_division 0 word (by decide) (by decide) (by norm_num [scale])
  | 1 => exact value_division 1 word (by decide) (by decide) (by norm_num [scale])
  | 2 => exact absurd rfl divided

/-- **One word.** What is published of it differs from the exact value by a small part. -/
private theorem float_close (k : Fin 3) (word : UInt16) :
    ∃ r, value (float k word) = some (number r) ∧
    |exact k word - r| ≤ exact k word / 2 ^ 22 := by
  by_cases multiplied : k = 2
  · subst multiplied
    exact value_multiplication word
  · exact (float_division word multiplied).2

/-- The raw value is recovered from what is published of it. -/
private theorem recover_float (k : Fin 3) (word : UInt16) :
    recover k (float k word) = raw k word := by
  obtain ⟨r, numeric, close⟩ := float_close k word
  obtain ⟨lower, _⟩ := scale_bounds k
  have unit : (2 : ℚ) ^ 149 ≠ 0 := by positivity
  have few : (raw k word : ℚ) < 2 ^ 16 := by exact_mod_cast raw_lt k word
  have positive : 0 < scale k := by linarith
  have near : |(raw k word : ℚ) - r / scale k| ≤ raw k word / 2 ^ 22 := by
    have error : (raw k word : ℚ) - r / scale k = (exact k word - r) / scale k := by
      rw [sub_div, exact, mul_div_cancel_right₀ _ positive.ne']
    rw [error, abs_div, abs_of_pos positive, div_le_iff₀ positive, div_mul_eq_mul_div]
    exact close
  rw [recover, scaled_of_value numeric, mul_div_cancel_right₀ _ unit, Int.floor_eq_iff]
  obtain ⟨above, below⟩ := abs_le.mp near
  push_cast
  constructor <;> linarith

/-! ## The registers -/

/-- An input register, as `PowerSensor` has it without rounding. -/
def register (s : PowerSensor.State) : Fin 3 → PowerSensor.Published
  | 0 => s.inputData0
  | 1 => s.inputData1
  | 2 => s.inputData2

/-- The `float` in that register. -/
def registerFloat (k : Fin 3) (m : PowerSensor.Published) : UInt32 :=
  match m.reading with
  | none => ofNat 0
  | some reading => float k reading.word

/-- The value without rounding is that of the word it comes from. -/
def Exact (k : Fin 3) (m : PowerSensor.Published) : Prop :=
  match m.reading with
  | none => m.value = 0
  | some reading => m.value = exact k reading.word

/-- **One iteration** of `readINA`, whatever its transfers do. -/
theorem exact_iteration (s : PowerSensor.State) (it : PowerSensor.Iteration) (k : Fin 3) :
    Exact k (register (PowerSensor.readINA s it) k) := by
  match k with
  | 0 =>
    simp only [Exact, register, PowerSensor.readINA, PowerSensor.busVol, exact, raw, scale]
    push_cast
    ring
  | 1 =>
    simp only [Exact, register, PowerSensor.readINA, PowerSensor.current, exact, raw, scale]
    push_cast
    ring
  | 2 =>
    simp only [Exact, register, PowerSensor.readINA, PowerSensor.power, exact, raw, scale]
    push_cast
    ring

theorem exact_run (iterations : List PowerSensor.Iteration) (pointer : UInt8) (k : Fin 3) :
    Exact k (register (PowerSensor.run iterations { pointer }) k) := by
  have kept : ∀ s it, Exact k (register s k) → Exact k (register (PowerSensor.readINA s it) k) :=
    fun s it _ => exact_iteration s it k
  refine EventHistory.foldl_invariant kept iterations ?_
  match k with
  | 0 => rfl
  | 1 => rfl
  | 2 => rfl

/-- The `float` stands for the published value: it differs from it by a small part, is the
nearest there is unless it was made in two operations, and tells the raw value. -/
structure Represents (k : Fin 3) (m : PowerSensor.Published) (w : UInt32) : Prop where
  close : ∃ r, value w = some (number r) ∧ |m.value - r| ≤ m.value / 2 ^ 22
  nearest : k ≠ 2 → IsNearest (m.value * 2 ^ 149) w
  recovered : ∀ reading, m.reading = some reading → recover k w = raw k reading.word

private theorem represents_initial (zero : m.value = 0) (none : m.reading = none) :
    Represents k m (ofNat 0) where
  close := ⟨0, by simpa using value_ofNat (n := 0) (by norm_num), by norm_num [zero]⟩
  nearest _ := by
    have bits : exponent (ofNat 0) ≠ 255 ∧ sign (ofNat 0) = false ∧ scaled (ofNat 0) = 0 ∧
        (ofNat 0).toNat % 2 = 0 := by decide
    obtain ⟨finite, unsigned, units, even⟩ := bits
    refine ⟨finite, unsigned, fun v _ => ?_, fun _ _ _ _ => even⟩
    rw [zero, units, zero_mul, Int.cast_zero, sub_zero, abs_zero]
    exact abs_nonneg _
  recovered reading some := by
    rw [none] at some
    cases some

/-- In every run of `readINA`, whatever its transfers do, each register holds a `float` that
stands for the value `readINA` would publish without rounding. -/
theorem registers_represent (iterations : List PowerSensor.Iteration) (pointer : UInt8)
    (k : Fin 3) : Represents k (register (PowerSensor.run iterations { pointer }) k)
      (registerFloat k (register (PowerSensor.run iterations { pointer }) k)) := by
  have held := exact_run iterations pointer k
  generalize register (PowerSensor.run iterations { pointer }) k = m at held ⊢
  unfold Exact at held
  unfold registerFloat
  split at held
  · rename_i none
    exact represents_initial held none
  · rename_i reading some
    refine ⟨held ▸ float_close k reading.word,
      fun divided => held ▸ (float_division reading.word divided).1, fun other same => ?_⟩
    obtain rfl := Option.some.inj (some.symm.trans same)
    exact recover_float k reading.word

/-! ## From the sensor to the master -/

/-- A step of the system in which `readINA` publishes a word it read. -/
inductive Step where
  | master (turn : Turn)
  | motor
  | sensor (k : Fin 3) (word : UInt16)

def Step.event : Step → Event
  | .master turn => .master turn
  | .motor => .motor
  | .sensor k word => .sensor k (float k word)

end PowerMonitor.SensorFloats
