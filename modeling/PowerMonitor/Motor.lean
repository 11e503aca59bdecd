import PowerMonitor.Binary32
import Mathlib.Data.List.Induction

/-! The RTU's motor driver (`rtu/main/MD08A.c`): the `runMotor` task against any order of
Modbus writes. The task reads `coils_port0` and then, if it is set, `holding_data1`; a write
may fall between the two. -/
namespace PowerMonitor.Motor
open Binary32

/-- The two registers the task reads. -/
structure Registers where
  /-- The bits of the `float` that `holding_data1` is. -/
  holdingData1 : UInt32
  coilsPort0 : UInt8
  deriving DecidableEq, Repr

/-- The levels of `IN1` and `IN2` and the last duty passed to `mcpwm_set_duty`. -/
structure Hardware where
  in1 : Nat
  in2 : Nat
  duty : UInt32
  deriving DecidableEq, Repr

inductive MotorDir where
  | cw
  | ccw
  deriving DecidableEq, Repr

def setSpeedDir (duty : UInt32) (dir : MotorDir) (hw : Hardware) : Hardware :=
  let hw := { hw with duty }
  match dir with
  | .cw => { hw with in1 := 1, in2 := 0 }
  | .ccw => { hw with in1 := 0, in2 := 1 }

def stopMotor (hw : Hardware) : Hardware :=
  let hw := { hw with in1 := 0, in2 := 0 }
  { hw with duty := ofNat 0 }

/-- The two comparisons of `runMotor`. -/
def limitDuty (duty : UInt32) : UInt32 :=
  let duty := if lt (ofNat 100) duty then ofNat 100 else duty
  if lt duty (ofNat 0) then ofNat 0 else duty

/-- What a completed iteration read, and the hardware it left. -/
structure Iteration where
  /-- The sampled `coils_port0`. -/
  coils : UInt8
  /-- The sampled `holding_data1`, when the iteration read it. -/
  sample : Option UInt32
  hw : Hardware
  deriving DecidableEq, Repr

/-- The RTU between two accesses to its registers. -/
structure State where
  regs : Registers
  hw : Hardware
  /-- The task found `coils_port0` set and is about to read `holding_data1`. -/
  driving : Bool := false
  /-- The `coils_port0` that the latest iteration to begin has sampled. -/
  coils : UInt8 := 0
  /-- The completed iterations, latest first. -/
  completed : List Iteration := []
  deriving DecidableEq, Repr

/-- A write by a Modbus client, or the task going on to its next read. -/
inductive Event where
  | writeDuty (word : UInt32)
  | writeCoils (byte : UInt8)
  | task
  deriving DecidableEq, Repr

/-- `runMotor` up to its next read of a register. -/
def runMotor (s : State) : State :=
  if s.driving then
    let hw := setSpeedDir (limitDuty s.regs.holdingData1) .cw s.hw
    { s with
      hw
      driving := false
      completed := ⟨s.coils, some s.regs.holdingData1, hw⟩ :: s.completed }
  else
    let s := { s with coils := s.regs.coilsPort0 }
    if s.coils ≠ 0 then { s with driving := true }
    else
      let hw := stopMotor s.hw
      { s with hw, completed := ⟨s.coils, none, hw⟩ :: s.completed }

def step (s : State) : Event → State
  | .writeDuty word => { s with regs := { s.regs with holdingData1 := word } }
  | .writeCoils byte => { s with regs := { s.regs with coilsPort0 := byte } }
  | .task => runMotor s

def run (events : List Event) (s : State) : State := events.foldl step s

/-- The duty is a number from 0 to 100. -/
def InRange (duty : UInt32) : Prop :=
  ∃ d : ℚ, value duty = some (number d) ∧ 0 ≤ d ∧ d ≤ 100

/-- The hardware after the iteration is what its samples ask for. -/
structure Follows (it : Iteration) : Prop where
  stopped : it.coils = 0 → it.hw.in1 = 0 ∧ it.hw.in2 = 0 ∧ value it.hw.duty = some (number 0)
  driven : it.coils ≠ 0 → it.hw.in1 = 1 ∧ it.hw.in2 = 0 ∧ ∃ word v, it.sample = some word ∧
    value word = some v ∧ value it.hw.duty = some (max (number 0) (min (number 100) v))
  inRange : InRange it.hw.duty

/-- What a task samples that reads `coils_port0` and, when that is not zero, `holding_data1`
next: a matter of the accesses alone. -/
structure Sampling where
  regs : Registers
  /-- The `coils_port0` of an iteration that has not read `holding_data1` yet. -/
  coils : Option UInt8 := none
  /-- The samples of the completed iterations, latest first. -/
  samples : List (UInt8 × Option UInt32) := []

def Sampling.step (r : Sampling) : Event → Sampling
  | .writeDuty word => { r with regs := { r.regs with holdingData1 := word } }
  | .writeCoils byte => { r with regs := { r.regs with coilsPort0 := byte } }
  | .task =>
    match r.coils with
    | some byte => { r with
        coils := none
        samples := (byte, some r.regs.holdingData1) :: r.samples }
    | none =>
      if r.regs.coilsPort0 = 0 then { r with samples := (0, none) :: r.samples }
      else { r with coils := some r.regs.coilsPort0 }

/-- The samples of the iterations that a history completes. -/
def samplesOf (events : List Event) (regs : Registers) : List (UInt8 × Option UInt32) :=
  (events.foldl Sampling.step { regs }).samples

/-- The completed iterations are those of the history, each follows its samples, and the
hardware is as the latest one left it. -/
structure FollowsRegisters (regs : Registers) (hw : Hardware) (events : List Event) (s : State) :
    Prop where
  samples : s.completed.map (fun it => (it.coils, it.sample)) = samplesOf events regs
  follows : ∀ it ∈ s.completed, Follows it
  latest : s.hw = (s.completed.head?.map (·.hw)).getD hw

/-- Whenever an iteration reads `holding_data1`, the register holds a number. -/
def NumbersSampled (events : List Event) (regs : Registers) : Prop :=
  ∀ sample ∈ samplesOf events regs, ∀ word, sample.2 = some word → isNaN word = false

variable {s : State} {events : List Event} {word : UInt32}

theorem run_snoc (events : List Event) (e : Event) (s : State) :
    run (events ++ [e]) s = step (run events s) e := by
  simp [run]

/-- The comparisons are the library's limits. -/
theorem limit_duty_eq_clamp (duty : UInt32) : limitDuty duty = clamp (ofNat 0) (ofNat 100) duty :=
  rfl

private theorem value_limit_duty (sampled : value word = some v) :
    value (limitDuty word) = some (max (number 0) (min (number 100) v)) := by
  rw [limit_duty_eq_clamp]
  exact value_clamp (value_ofNat (n := 0) (by decide)) (value_ofNat (n := 100) (by decide))
    (by simp) sampled

/-- A number, finite or not, is limited to the range. -/
private theorem in_range_limit_duty (sampled : value word = some v) : InRange (limitDuty word) := by
  obtain ⟨d, same, lower, upper⟩ := number_of_between
    (v := max (number 0) (min (number 100) v)) (le_max_left _ _)
    (max_le (by simp) (min_le_left _ _))
  exact ⟨d, by rw [value_limit_duty sampled, same], lower, upper⟩

/-- A NaN is passed on as it is, and is no number. -/
private theorem not_in_range_limit_duty (nan : isNaN word = true) : ¬ InRange (limitDuty word) := by
  rintro ⟨d, none, _⟩
  rw [limit_duty_eq_clamp, clamp_nan nan, (value_eq_none_iff word).mpr nan] at none
  cases none

/-- An iteration that drives the motor follows its sample exactly when that is a number. -/
private theorem follows_driven_iff (set : coils ≠ 0) (hw : Hardware) :
    Follows ⟨coils, some word, setSpeedDir (limitDuty word) .cw hw⟩ ↔ isNaN word = false := by
  constructor
  · intro follows
    by_contra nan
    exact not_in_range_limit_duty (by simpa using nan) follows.inRange
  · intro number
    obtain ⟨v, sampled⟩ : ∃ v, value word = some v := by
      rw [← Option.isSome_iff_exists, Option.isSome_iff_ne_none, ne_eq, value_eq_none_iff]
      simp [number]
    exact ⟨fun clear => absurd clear set,
      fun _ => ⟨rfl, rfl, word, v, rfl, sampled, value_limit_duty sampled⟩,
      in_range_limit_duty sampled⟩

/-- An iteration that stops the motor always follows. -/
private theorem follows_stopped (hw : Hardware) : Follows ⟨0, none, stopMotor hw⟩ := by
  have zero : value (ofNat 0) = some (number 0) := value_ofNat (by decide)
  exact ⟨fun _ => ⟨rfl, rfl, zero⟩, fun set => absurd rfl set, 0, zero, by simp, by simp⟩

/-- The iteration left the hardware as `runMotor` does for its samples. -/
inductive Made : Iteration → Prop where
  | stopped (hw : Hardware) : Made ⟨0, none, stopMotor hw⟩
  | driven (coils : UInt8) (set : coils ≠ 0) (word : UInt32) (hw : Hardware) :
      Made ⟨coils, some word, setSpeedDir (limitDuty word) .cw hw⟩

theorem follows_iff (made : Made it) :
    Follows it ↔ ∀ word, it.sample = some word → isNaN word = false := by
  cases made with
  | stopped hw => simp [follows_stopped hw]
  | driven coils set word hw => simp [follows_driven_iff set hw]

/-- The task reads what the history says, and does what its samples ask for. -/
structure Tracks (hw : Hardware) (r : Sampling) (s : State) : Prop where
  regs : s.regs = r.regs
  coils : r.coils = if s.driving then some s.coils else none
  set : s.driving = true → s.coils ≠ 0
  samples : s.completed.map (fun it => (it.coils, it.sample)) = r.samples
  made : ∀ it ∈ s.completed, Made it
  latest : s.hw = (s.completed.head?.map (·.hw)).getD hw

/-- The iteration reads `holding_data1` and completes. -/
private theorem run_motor_drives (driving : s.driving = true) :
    runMotor s = { s with
      hw := setSpeedDir (limitDuty s.regs.holdingData1) .cw s.hw
      driving := false
      completed := ⟨s.coils, some s.regs.holdingData1,
        setSpeedDir (limitDuty s.regs.holdingData1) .cw s.hw⟩ :: s.completed } := by
  rw [runMotor, if_pos driving]

/-- The iteration begins and goes on to read `holding_data1`. -/
private theorem run_motor_begins (idle : s.driving = false) (set : s.regs.coilsPort0 ≠ 0) :
    runMotor s = { s with coils := s.regs.coilsPort0, driving := true } := by
  simp [runMotor, idle, set]

/-- The iteration begins and completes at once. -/
private theorem run_motor_stops (idle : s.driving = false) (clear : s.regs.coilsPort0 = 0) :
    runMotor s = { s with
      coils := 0
      hw := stopMotor s.hw
      completed := ⟨0, none, stopMotor s.hw⟩ :: s.completed } := by
  simp [runMotor, idle, clear]

/-- **One step of the task.** -/
private theorem tracks_task (tracks : Tracks hw r s) : Tracks hw (r.step .task) (runMotor s) := by
  obtain ⟨regs, coils, set, samples, made, latest⟩ := tracks
  cases driving : s.driving with
  | true =>
    have begun : r.coils = some s.coils := by rw [coils, if_pos driving]
    rw [run_motor_drives driving, Sampling.step, begun]
    refine ⟨regs, rfl, by simp, by simp [samples, regs], ?_, rfl⟩
    simpa using ⟨Made.driven _ (set driving) _ _, made⟩
  | false =>
    have idle : r.coils = none := by rw [coils, if_neg (by simp [driving])]
    by_cases clear : s.regs.coilsPort0 = 0
    · rw [run_motor_stops driving clear, Sampling.step, idle]
      dsimp only
      rw [← regs, if_pos clear]
      refine ⟨rfl, by simp [driving], by simp [driving], by simp [samples], ?_, rfl⟩
      simpa using ⟨Made.stopped _, made⟩
    · rw [run_motor_begins driving clear, Sampling.step, idle]
      dsimp only
      rw [← regs, if_neg clear]
      exact ⟨rfl, by simp, fun _ => clear, samples, made, latest⟩

/-- **One event.** -/
private theorem tracks_step (tracks : Tracks hw r s) (e : Event) :
    Tracks hw (r.step e) (step s e) := by
  cases e with
  | task => exact tracks_task tracks
  | writeDuty word => exact { tracks with regs := by simp [step, Sampling.step, tracks.regs] }
  | writeCoils byte => exact { tracks with regs := by simp [step, Sampling.step, tracks.regs] }

theorem tracks_run (regs : Registers) (hw : Hardware) (events : List Event) :
    Tracks hw (events.foldl Sampling.step { regs }) (run events { regs, hw }) := by
  induction events using List.reverseRecOn with
  | nil =>
    exact ⟨rfl, rfl, (fun driving => nomatch driving), rfl, (fun it member => nomatch member), rfl⟩
  | append_singleton events e ih =>
    rw [run_snoc, List.foldl_append]
    exact tracks_step ih e

/-- After every completed iteration of any history the hardware follows the sampled
registers, in range, exactly when the task never reads a NaN. -/
theorem output_follows_registers_iff (regs : Registers) (hw : Hardware) (events : List Event) :
    FollowsRegisters regs hw events (run events { regs, hw }) ↔ NumbersSampled events regs := by
  have tracks := tracks_run regs hw events
  have each : (∀ it ∈ (run events { regs, hw }).completed, Follows it) ↔
      NumbersSampled events regs := by
    rw [NumbersSampled, samplesOf, ← tracks.samples, List.forall_mem_map]
    exact forall₂_congr fun it member => follows_iff (tracks.made it member)
  rw [← each]
  exact ⟨fun follows => follows.follows, fun follows => ⟨tracks.samples, follows, tracks.latest⟩⟩

/-- The registers as `setup_reg_data` leaves them. -/
def setupRegs : Registers := ⟨ofNat 0, 0x01⟩

/-- The hardware after `initMotor`, and what `app_main` then sets. -/
def bootHardware : Hardware := setSpeedDir (ofNat 20) .cw ⟨0, 0, ofNat 0⟩

/-- A client stores a NaN and the task runs one iteration: the duty passed is that NaN. -/
theorem nan_duty_is_passed_on :
    ¬ FollowsRegisters setupRegs bootHardware [.writeDuty 0x7FC00000, .task, .task]
        (run [.writeDuty 0x7FC00000, .task, .task]
          { regs := setupRegs, hw := bootHardware }) := by
  intro follows
  have last : (run [.writeDuty 0x7FC00000, .task, .task]
      { regs := setupRegs, hw := bootHardware }).completed =
        [⟨1, some 0x7FC00000, setSpeedDir (limitDuty 0x7FC00000) .cw bootHardware⟩] := by decide
  have driven := follows.follows _ (last ▸ List.mem_cons_self)
  have number := (follows_driven_iff (by decide) bootHardware).mp driven
  exact absurd number (by decide)

end PowerMonitor.Motor
