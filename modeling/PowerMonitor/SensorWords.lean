import PowerMonitor.Dictionary
import PowerMonitor.EventHistory
import PowerMonitor.PowerSensor
import Mathlib.Tactic.Linarith
import Mathlib.Tactic.Ring

/-! What the INA209's register words mean, and when `readINA` publishes that. The sensor counts
the bus voltage in the upper thirteen bits of its register, above the status flags, and the
current in two's complement; the driver shifts by one bit and takes every word as unsigned. -/
namespace PowerMonitor.SensorWords
open PowerSensor EventHistory
open Dictionary (MbParameterDescriptor)

/-- Bits 15 to 3 of the bus voltage register, in steps of 4 mV, in volts. -/
def busVoltage (word : UInt16) : ℚ := 4 * ((word.toBitVec.extractLsb 15 3).toNat : ℚ) / 1000

/-- The two's complement value of the current register, scaled. -/
def signedCurrent (word : UInt16) : ℚ := (word.toBitVec.toInt : ℚ) / 30

/-- The range a dictionary entry declares. -/
def InRange (entry : MbParameterDescriptor) (value : ℚ) : Prop :=
  (entry.paramOpts.opt1 : ℚ) ≤ value ∧ value ≤ entry.paramOpts.opt2

/-- Every pointer write was acknowledged and every read delivered its bytes. -/
def AllSucceed (it : Iteration) : Prop :=
  ∀ t ∈ [it.voltage, it.current, it.power], t.pointed = true ∧ t.delivered = true

/-- The input registers hold what the sensor's words mean. -/
structure Decoded (it : Iteration) (s : State) : Prop where
  voltage : s.inputData0.value = busVoltage (it.voltage.registers 0x04)
  current : s.inputData1.value = signedCurrent (it.current.registers 0x06)
  power : s.inputData2.value = 2 / 3 * ((it.power.registers 0x05).toNat : ℚ)
  /-- A reverse current is negative and within the range the master declares. -/
  reverse : (it.current.registers 0x06).toBitVec.toInt < 0 →
    s.inputData1.value < 0 ∧ InRange Dictionary.current s.inputData1.value

/-- No status flag reaches the published voltage, and the current flows forward. -/
structure PlainWords (it : Iteration) : Prop where
  bit1 : (it.voltage.registers 0x04).toBitVec.getLsbD 1 = false
  bit2 : (it.voltage.registers 0x04).toBitVec.getLsbD 2 = false
  forward : (it.current.registers 0x06).toBitVec.msb = false

variable {it : Iteration} {s : State}

/-- The driver's voltage is the sensor's and a millivolt for every unit of the two bits below
it. -/
private theorem voltage_of_eq (word : UInt16) :
    voltageOf word = busVoltage word + ((word.toNat / 2 % 4 : Nat) : ℚ) / 1000 := by
  have bound := word.toNat_lt
  have shifted : (word >>> 1).toNat = word.toNat / 2 := by
    rw [UInt16.toNat_shiftRight, Nat.shiftRight_eq_div_pow]
    rfl
  have upper : (word.toBitVec.extractLsb 15 3).toNat = word.toNat / 8 := by
    rw [BitVec.extractLsb_toNat, Nat.shiftRight_eq_div_pow]
    exact Nat.mod_eq_of_lt (by simp only [UInt16.toNat_toBitVec]; omega)
  have parts : ((word.toNat / 2 : Nat) : ℚ) =
      4 * ((word.toNat / 8 : Nat) : ℚ) + ((word.toNat / 2 % 4 : Nat) : ℚ) := by
    exact_mod_cast (by omega : word.toNat / 2 = 4 * (word.toNat / 8) + word.toNat / 2 % 4)
  rw [voltageOf, busVoltage, shifted, upper, parts, add_div]

theorem voltage_of_exact_iff (word : UInt16) :
    voltageOf word = busVoltage word ↔
      word.toBitVec.getLsbD 1 = false ∧ word.toBitVec.getLsbD 2 = false := by
  have low : word.toNat / 2 % 4 = 0 ↔
      word.toBitVec.getLsbD 1 = false ∧ word.toBitVec.getLsbD 2 = false := by
    simp only [BitVec.getLsbD, UInt16.toNat_toBitVec, Nat.testBit_eq_decide_div_mod_eq,
      decide_eq_false_iff_not]
    omega
  rw [← low, voltage_of_eq, add_eq_left, div_eq_zero_iff, Nat.cast_eq_zero]
  norm_num

/-- The driver's current is too large by the whole word range where the sign bit is set. -/
private theorem current_of_eq (word : UInt16) :
    currentOf word = signedCurrent word + if word.toBitVec.msb then 65536 / 30 else 0 := by
  rw [currentOf, signedCurrent, BitVec.toInt_eq_msb_cond, UInt16.toNat_toBitVec]
  split
  · push_cast
    ring
  · rw [add_zero, Int.cast_natCast]

theorem current_of_exact_iff (word : UInt16) :
    currentOf word = signedCurrent word ↔ word.toBitVec.msb = false := by
  rw [current_of_eq, add_eq_left]
  cases word.toBitVec.msb with
  | true => norm_num
  | false => norm_num

/-- A reverse current is a negative value that the master's range for it holds. -/
private theorem signed_current_reverse {word : UInt16} (reverse : word.toBitVec.toInt < 0) :
    signedCurrent word < 0 ∧ InRange Dictionary.current (signedCurrent word) := by
  have least : -32768 ≤ word.toBitVec.toInt := BitVec.le_toInt word.toBitVec
  have negative : (word.toBitVec.toInt : ℚ) < 0 := by exact_mod_cast reverse
  have bounded : (-32768 : ℚ) ≤ word.toBitVec.toInt := by exact_mod_cast least
  unfold signedCurrent InRange
  simp only [Dictionary.current]
  refine ⟨by linarith, ?_, ?_⟩
  · push_cast
    linarith
  · push_cast
    linarith

/-- When all transfers succeed, an iteration publishes its own words. -/
private theorem read_ina_values (succeed : AllSucceed it) :
    (readINA s it).inputData0.value = voltageOf (it.voltage.registers 0x04) ∧
      (readINA s it).inputData1.value = currentOf (it.current.registers 0x06) ∧
      (readINA s it).inputData2.value = powerOf (it.power.registers 0x05) := by
  obtain ⟨voltage, current, power⟩ : _ ∧ _ ∧ _ := by simpa [AllSucceed] using succeed
  refine ⟨?_, ?_, ?_⟩
  · simp only [readINA, busVol, pointReg, voltage.1, ↓reduceIte, read_word_delivered voltage.2,
      voltageOf, Int.cast_natCast]
  · simp only [readINA, PowerSensor.current, pointReg, current.1, ↓reduceIte,
      read_word_delivered current.2, currentOf, Int.cast_natCast]
  · simp only [readINA, PowerSensor.power, pointReg, power.1, ↓reduceIte,
      read_word_delivered power.2, powerOf, Int.cast_natCast]

/-- **One iteration.** It publishes what the words mean exactly when they are plain. -/
theorem read_ina_decoded_iff (succeed : AllSucceed it) :
    Decoded it (readINA s it) ↔ PlainWords it := by
  obtain ⟨voltage, current, power⟩ := read_ina_values (s := s) succeed
  constructor
  · intro decoded
    obtain ⟨bit1, bit2⟩ := (voltage_of_exact_iff _).mp (voltage.symm.trans decoded.voltage)
    exact ⟨bit1, bit2, (current_of_exact_iff _).mp (current.symm.trans decoded.current)⟩
  · intro plain
    have exact := current.trans ((current_of_exact_iff _).mpr plain.forward)
    refine ⟨voltage.trans ((voltage_of_exact_iff _).mpr ⟨plain.bit1, plain.bit2⟩), exact,
      power.trans (mul_comm _ _), ?_⟩
    rw [exact]
    exact signed_current_reverse

/-- Throughout a run whose transfers all succeed, what is published is what the sensor's words
mean exactly when no status flag is set above the lowest bit and no current is reversed. -/
theorem words_decoded_iff (pointer : UInt8) (iterations : List Iteration)
    (succeed : ∀ it ∈ iterations, AllSucceed it) :
    AtEach (fun before it => Decoded it (run (before ++ [it]) { pointer })) iterations ↔
      ∀ it ∈ iterations, PlainWords it := by
  rw [← at_each_iff_mem]
  apply at_each_congr
  intro before it member
  rw [run, List.foldl_append]
  exact read_ina_decoded_iff (succeed it member)

/-- The bus in an iteration without a failed transfer, with the words the sensor holds. -/
def reads (voltage current power : UInt16) : Iteration :=
  { voltage := ⟨true, true, fun _ => voltage, (0, 0)⟩
    current := ⟨true, true, fun _ => current, (0, 0)⟩
    power := ⟨true, true, fun _ => power, (0, 0)⟩ }

private theorem reads_succeed (voltage current power : UInt16) :
    AllSucceed (reads voltage current power) := by
  simp [AllSucceed, reads]

/-- Twelve volts and a forward current, with the overflow flag set. -/
theorem forward_words_decoded :
    AtEach (fun before it => Decoded it (run (before ++ [it]) { pointer := 0x16 }))
      [reads 0x5DC1 0x0BB8 0x07D0] :=
  (words_decoded_iff 0x16 [reads 0x5DC1 0x0BB8 0x07D0] (by simp [reads_succeed])).mpr (by
    simp only [List.mem_singleton, forall_eq]
    exact ⟨by decide, by decide, by decide⟩)

/-- A reverse current of one unit is published as the largest forward current. -/
theorem reverse_current_published_forward :
    ¬ ∀ (pointer : UInt8) (iterations : List Iteration),
      (∀ it ∈ iterations, AllSucceed it) →
        AtEach (fun before it => Decoded it (run (before ++ [it]) { pointer })) iterations := by
  intro decodes
  have decoded : Decoded (reads 0x5DC0 0xFFFF 0x07D0) (readINA { pointer := 0x16 } _) :=
    decodes 0x16 [reads 0x5DC0 0xFFFF 0x07D0] (by simp [reads_succeed]) [] _ [] rfl
  have forward := ((read_ina_decoded_iff (reads_succeed _ _ _)).mp decoded).forward
  exact absurd forward (by decide)

end PowerMonitor.SensorWords
