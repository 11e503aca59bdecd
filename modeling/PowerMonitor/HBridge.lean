import PowerMonitor.Motor

/-! The motor driver write by write (`rtu/main/MD08A.c`). `setSpeedDir` and `stopMotor` set the
duty and the two inputs of the bridge one after the other, and between two of these writes the
motor has what the writes so far left. -/
namespace PowerMonitor.HBridge
open Motor
open Binary32 (ofNat)

/-- `gpio_set_level` of an input, or `mcpwm_set_duty`. -/
inductive Write where
  | in1 (level : Nat)
  | in2 (level : Nat)
  | duty (word : UInt32)
  deriving DecidableEq, Repr

def Write.apply (hw : Hardware) : Write → Hardware
  | .in1 level => { hw with in1 := level }
  | .in2 level => { hw with in2 := level }
  | .duty word => { hw with duty := word }

/-- A call of the driver. -/
inductive Call where
  | setSpeedDir (duty : UInt32) (dir : MotorDir)
  | stopMotor
  deriving DecidableEq, Repr

/-- The writes of a call, in the order of the source. -/
def Call.writes : Call → List Write
  | .setSpeedDir duty .cw => [.duty duty, .in1 1, .in2 0]
  | .setSpeedDir duty .ccw => [.duty duty, .in1 0, .in2 1]
  | .stopMotor => [.in1 0, .in2 0, .duty (ofNat 0)]

/-- The hardware before the first write and after each of them. -/
def instants : List Write → Hardware → List Hardware
  | [], hw => [hw]
  | write :: writes, hw => hw :: instants writes (write.apply hw)

/-- Both inputs of the bridge are high. -/
def BothHigh (hw : Hardware) : Prop := hw.in1 = 1 ∧ hw.in2 = 1

instance : DecidablePred BothHigh := fun _ => inferInstanceAs (Decidable (_ ∧ _))

variable {hw : Hardware} {calls : List Call}

/-- The writes of a call together are the call. -/
theorem set_speed_dir_writes (duty : UInt32) (dir : MotorDir) (hw : Hardware) :
    (Call.setSpeedDir duty dir).writes.foldl Write.apply hw = setSpeedDir duty dir hw := by
  cases dir <;> rfl

theorem stop_motor_writes (hw : Hardware) :
    Call.stopMotor.writes.foldl Write.apply hw = stopMotor hw := rfl

/-- Both inputs are high at some instant of the writes. -/
def Meets (writes : List Write) (hw : Hardware) : Prop :=
  ∃ instant ∈ instants writes hw, BothHigh instant

private theorem meets_cons (write : Write) (writes : List Write) (hw : Hardware) :
    Meets (write :: writes) hw ↔ BothHigh hw ∨ Meets writes (write.apply hw) := by
  simp [Meets, instants]

/-- What the writes of a call do before the calls that follow. -/
private theorem meets_stop (writes : List Write) (apart : ¬ BothHigh hw) :
    Meets (Call.stopMotor.writes ++ writes) hw ↔ Meets writes (stopMotor hw) := by
  simp only [Call.writes, List.cons_append, List.nil_append, meets_cons, apart, false_or]
  simp [Write.apply, BothHigh, stopMotor]

private theorem meets_forward (duty : UInt32) (writes : List Write) (apart : ¬ BothHigh hw) :
    Meets ((Call.setSpeedDir duty .cw).writes ++ writes) hw ↔
      hw.in2 = 1 ∨ Meets writes (setSpeedDir duty .cw hw) := by
  simp only [Call.writes, List.cons_append, List.nil_append, meets_cons, apart, false_or]
  have kept : ¬ BothHigh (Write.apply hw (.duty duty)) := apart
  simp only [kept, false_or]
  simp [Write.apply, BothHigh, setSpeedDir]

private theorem meets_backward (duty : UInt32) (writes : List Write) (apart : ¬ BothHigh hw) :
    Meets ((Call.setSpeedDir duty .ccw).writes ++ writes) hw ↔
      Meets writes (setSpeedDir duty .ccw hw) := by
  simp only [Call.writes, List.cons_append, List.nil_append, meets_cons, apart, false_or]
  have kept : ¬ BothHigh (Write.apply hw (.duty duty)) := apart
  simp only [kept, false_or]
  simp [Write.apply, BothHigh, setSpeedDir]

/-- From any levels but both high, both are high at some instant exactly when the motor is
turned forward at once while the second input is high, or right after it was turned
backward. -/
theorem meets_iff (calls : List Call) (hw : Hardware) (apart : ¬ BothHigh hw) :
    Meets (calls.flatMap Call.writes) hw ↔
      (hw.in2 = 1 ∧ ∃ duty, [.setSpeedDir duty .cw] <+: calls) ∨
        ∃ duty duty', [.setSpeedDir duty .ccw, .setSpeedDir duty' .cw] <:+: calls := by
  induction calls generalizing hw with
  | nil => simp [Meets, instants, apart]
  | cons call calls ih =>
    rw [List.flatMap_cons]
    cases call with
    | stopMotor =>
      rw [meets_stop _ apart, ih (stopMotor hw) (by simp [BothHigh, stopMotor])]
      simp [List.infix_cons_iff, stopMotor]
    | setSpeedDir duty dir =>
      cases dir with
      | cw =>
        rw [meets_forward duty _ apart, ih _ (by simp [BothHigh, setSpeedDir])]
        simp [List.infix_cons_iff, setSpeedDir]
      | ccw =>
        rw [meets_backward duty _ apart, ih _ (by simp [BothHigh, setSpeedDir])]
        simp only [setSpeedDir, true_and, List.infix_cons_iff, List.cons_prefix_cons,
          Call.setSpeedDir.injEq, and_true]
        constructor
        · rintro (⟨next, first⟩ | ⟨first, second, later⟩)
          · exact Or.inr ⟨duty, next, Or.inl ⟨rfl, first⟩⟩
          · exact Or.inr ⟨first, second, Or.inr later⟩
        · rintro (⟨_, next, ⟨_, reversed⟩, _⟩ | ⟨first, second, here | later⟩)
          · cases reversed
          · exact Or.inl ⟨second, here.2⟩
          · exact Or.inr ⟨first, second, later⟩

/-- The hardware as `initMotor` leaves it. -/
def initialHardware : Hardware := ⟨0, 0, ofNat 0⟩

/-- After `initMotor`, in any sequence of calls of the driver, both inputs of the bridge are high
at some instant exactly when the motor is turned forward right after it was turned backward,
without a stop between. -/
theorem both_inputs_high_iff (calls : List Call) :
    Meets (calls.flatMap Call.writes) initialHardware ↔
      ∃ duty duty', [.setSpeedDir duty .ccw, .setSpeedDir duty' .cw] <:+: calls := by
  have meets := meets_iff calls initialHardware (by decide)
  simpa [initialHardware] using meets

end PowerMonitor.HBridge
