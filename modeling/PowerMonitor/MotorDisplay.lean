import PowerMonitor.MaskedBits
import PowerMonitor.Motor
import PowerMonitor.PollRun

/-! What the master shows as the motor state against what the RTU does with the same byte. The
master tests the bit that the dictionary names, which is coil 0; `runMotor` tests whether any
of the eight coils of `coils_port0` is set. -/
namespace PowerMonitor.MotorDisplay
open EspIdf Dictionary ByteMemory MaskedBits MasterRead MasterVisit

/-- A write of any of the coils 0 to 15, one or several, by a Modbus client. -/
abbrev CoilWrite : Type := MaskedWrite 16

/-- `coils_port0` and, above it, `coils_port1` as `setup_reg_data` leaves them. -/
def setupCoils : BitVec 16 := 0x0101#16

/-- The coils a history of writes leaves. -/
def coilsAfter (history : List CoilWrite) : BitVec 16 := writeAll setupCoils history

/-- `coils_port0`, the byte of the coils 0 to 7. -/
def coilsPort0 (coils : BitVec 16) : UInt8 := UInt8.ofBitVec (coils.setWidth 8)

/-- A coil is set after the history. -/
def coilSet (history : List CoilWrite) (coil : Nat) : Bool :=
  lastWritten (setupCoils.getLsbD coil) coil history

/-- The position of `CID_MOTOR_STATE` in the dictionary. -/
def motorStateCid : Cid := 5

/-- A successful poll: the RTU answers the eight coils of `coils_port0` as one byte. The other
bytes delivered do not come from it. -/
def motorStateAnswers (port0 : UInt8) (others : FloatBytes) : Answers :=
  ⟨espOk, espOk, fun i => if i = 0 then port0 else others i⟩

/-- `runMotor` before it samples `coils_port0`. -/
def atSample (port0 : UInt8) (duty : UInt32) (hw : Motor.Hardware)
    (completed : List Motor.Iteration) : Motor.State :=
  { regs := ⟨duty, port0⟩, hw, completed }

/-- The iteration goes on to `setSpeedDir`. -/
def Drives (s : Motor.State) : Prop := (Motor.runMotor s).driving = true

/-- The iteration calls `stopMotor`. -/
def Stops (s : Motor.State) : Prop :=
  (Motor.runMotor s).completed = ⟨s.regs.coilsPort0, none, Motor.stopMotor s.hw⟩ :: s.completed

/-- The text the master logs for the motor state tells what the RTU does. -/
structure Agree (m : MasterRead.State) (s : Motor.State) : Prop where
  on : m.shown = some (entryOf motorStateCid, "ON") ↔ Drives s
  off : m.shown = some (entryOf motorStateCid, "OFF") ↔ Stops s

variable {port0 : UInt8} {history : List CoilWrite}

/-- The master shows bit 0 of the byte it polled. -/
theorem motor_state_shown (m : MasterRead.State) (port0 : UInt8) (others : FloatBytes) :
    (m.visit motorStateCid (motorStateAnswers port0 others)).shown =
      some (entryOf motorStateCid, if port0.toNat % 2 = 1 then "ON" else "OFF") := by
  have entry : used m motorStateCid (motorStateAnswers port0 others) =
      some (entryOf motorStateCid) := rfl
  have kind : (entryOf motorStateCid).val.mbParamType = .coil := rfl
  have size : transferSize (entryOf motorStateCid) = 2 := rfl
  have mask : (entryOf motorStateCid).val.paramOpts.opt1.toNat = 1 := rfl
  rw [visit_eq, entry]
  simp only [State.pollEntry, kind, State.readCoil, State.readEntry, State.getParameter,
    motorStateAnswers, State.storeFloat, State.loadU16, if_true]
  rw [load_store_start (n := 2) _ _ _ _ (by decide) 0]
  simp [rwStr, mask, overlay, size]

theorem drives_iff (port0 : UInt8) (duty : UInt32) (hw : Motor.Hardware)
    (completed : List Motor.Iteration) : Drives (atSample port0 duty hw completed) ↔ port0 ≠ 0 := by
  by_cases clear : port0 = 0 <;> simp [Drives, Motor.runMotor, atSample, clear]

theorem stops_iff (port0 : UInt8) (duty : UInt32) (hw : Motor.Hardware)
    (completed : List Motor.Iteration) : Stops (atSample port0 duty hw completed) ↔ port0 = 0 := by
  by_cases clear : port0 = 0 <;> simp [Stops, Motor.runMotor, atSample, clear]

/-- For one byte, the two readings agree when it is zero or odd. -/
private theorem agree_iff (m : MasterRead.State) (port0 : UInt8) (others : FloatBytes)
    (duty : UInt32) (hw : Motor.Hardware) (completed : List Motor.Iteration) :
    Agree (m.visit motorStateCid (motorStateAnswers port0 others))
      (atSample port0 duty hw completed) ↔ port0.toNat % 2 = 1 ∨ port0 = 0 := by
  have shown := motor_state_shown m port0 others
  constructor
  · rintro ⟨on, _⟩
    rw [shown, drives_iff] at on
    by_cases odd : port0.toNat % 2 = 1
    · exact Or.inl odd
    · refine Or.inr ?_
      by_contra set
      have shownOn := on.mpr set
      simp [odd] at shownOn
  · intro agrees
    have parity : port0.toNat % 2 = 1 ↔ port0 ≠ 0 := by
      refine ⟨?_, fun set => agrees.resolve_right set⟩
      rintro odd rfl
      cases odd
    refine ⟨?_, ?_⟩
    · rw [shown, drives_iff, ← parity]
      by_cases odd : port0.toNat % 2 = 1 <;> simp [odd]
    · rw [shown, stops_iff]
      by_cases odd : port0.toNat % 2 = 1
      · simp [odd, parity.mp odd]
      · have clear : port0 = 0 := not_not.mp fun set => odd (parity.mpr set)
        simp [clear]

/-! ## The coils of a history -/

/-- Bit `coil` of `coils_port0` is the coil. -/
private theorem port0_bit (history : List CoilWrite) (coil : Nat) (low : coil < 8) :
    (coilsPort0 (coilsAfter history)).toBitVec.getLsbD coil = coilSet history coil := by
  rw [coilsPort0, coilsAfter, coilSet, ← getLsbD_writeAll]
  simp only [BitVec.getLsbD_setWidth, low, decide_true, Bool.true_and]

private theorem port0_odd_iff (history : List CoilWrite) :
    (coilsPort0 (coilsAfter history)).toNat % 2 = 1 ↔ coilSet history 0 = true := by
  rw [← port0_bit history 0 (by decide), BitVec.getLsbD, Nat.testBit_zero, decide_eq_true_eq]
  rfl

private theorem port0_zero_iff (history : List CoilWrite) :
    coilsPort0 (coilsAfter history) = 0 ↔ ∀ coil < 8, coilSet history coil = false := by
  have word : coilsPort0 (coilsAfter history) = 0 ↔
      (coilsPort0 (coilsAfter history)).toBitVec = 0 := by
    rw [← UInt8.toBitVec_inj]
    rfl
  rw [word, eq_zero_iff_getLsbD]
  exact forall₂_congr fun coil low => by rw [port0_bit history coil low]

/-- After any history of writes to the coils, the motor state the master shows is what
`runMotor` does exactly when coil 0 is set or none of the coils 1 to 7 is. -/
theorem display_agrees_iff (history : List CoilWrite) (m : MasterRead.State)
    (others : FloatBytes) (duty : UInt32) (hw : Motor.Hardware)
    (completed : List Motor.Iteration) :
    Agree (m.visit motorStateCid (motorStateAnswers (coilsPort0 (coilsAfter history)) others))
        (atSample (coilsPort0 (coilsAfter history)) duty hw completed) ↔
      coilSet history 0 = true ∨ ∀ coil, 1 ≤ coil → coil < 8 → coilSet history coil = false := by
  rw [agree_iff, port0_odd_iff, port0_zero_iff]
  by_cases first : coilSet history 0 = true
  · simp [first]
  · have none : (∀ coil < 8, coilSet history coil = false) ↔
        ∀ coil, 1 ≤ coil → coil < 8 → coilSet history coil = false := by
      refine ⟨fun clear coil _ low => clear coil low, fun clear coil low => ?_⟩
      rcases Nat.eq_zero_or_pos coil with rfl | positive
      · simpa using first
      · exact clear coil positive low
    simp only [first, Bool.false_eq_true, false_or]
    exact none

/-- Coil 0 is cleared and coil 1 set: the RTU drives the motor and the master shows it off. -/
theorem coil_1_drives_unseen :
    ¬ ∀ (history : List CoilWrite) (m : MasterRead.State) (others : FloatBytes) (duty : UInt32)
      (hw : Motor.Hardware) (completed : List Motor.Iteration),
      Agree (m.visit motorStateCid (motorStateAnswers (coilsPort0 (coilsAfter history)) others))
        (atSample (coilsPort0 (coilsAfter history)) duty hw completed) := by
  intro agree
  have holds := agree [⟨0x0001#16, 0x0000#16⟩, ⟨0x0002#16, 0x0002#16⟩] { store := fun _ _ => 0 }
    (fun _ => 0) (Binary32.ofNat 0) ⟨0, 0, Binary32.ofNat 0⟩ []
  have byte : coilsPort0 (coilsAfter [⟨0x0001#16, 0x0000#16⟩, ⟨0x0002#16, 0x0002#16⟩]) = 2 := by
    decide
  rw [byte, agree_iff] at holds
  exact absurd holds (by decide)

end PowerMonitor.MotorDisplay
