import PowerMonitor.Progress
import PowerMonitor.Restarts

/-! The motor after a restart of the RTU. `setup_reg_data` leaves it a duty of zero, and the master
does not know; but the next request for the duty cycle that the RTU carries out makes the motor
turn again within eight steps of `runMotor`, and it turns until the next restart. -/
namespace PowerMonitor.Recovery
open ByteMemory MasterRead FailedTransfers RegisterMap ControlLoop HBridge Boot Restarts
open Actuation DelayedCopy
open Binary32 (ofNat)

/-- The words of the duty cycles of the master. -/
def cycles : Set UInt32 := { word | ∃ duty, Possible duty ∧ word = ofNat duty }

/-- The motor turns forward with a duty cycle of the master. -/
structure Turns (hw : Motor.Hardware) : Prop where
  in1 : hw.in1 = 1
  in2 : hw.in2 = 0
  duty : hw.duty ∈ cycles

/-- A write of a call that turns it so. -/
def Drive : Write → Prop
  | .in1 level => level = 1
  | .in2 level => level = 0
  | .duty word => word ∈ cycles

/-- The number of steps of `runMotor` after which the motor turns. The writes left of an earlier
call come first, then the two reads, and then three writes. -/
inductive Needs : ℕ → Boot.State → Prop
  | turns (turns : Turns s.hw) (drive : ∀ write ∈ s.pending, Drive write) : Needs 0 s
  | in2 (left : s.pending = [.in2 0]) (in1 : s.hw.in1 = 1) (duty : s.hw.duty ∈ cycles) : Needs 1 s
  | in1 (left : s.pending = [.in1 1, .in2 0]) (duty : s.hw.duty ∈ cycles) : Needs 2 s
  | duty (left : s.pending = [.duty word, .in1 1, .in2 0]) (member : word ∈ cycles) : Needs 3 s
  | read (left : s.pending = []) (driving : s.driving = true) : Needs 4 s
  | drain (left : s.pending.length = writes) : Needs (5 + writes) s

/-! ## A step of `runMotor` -/

variable {b : Build} {m : Nat} {s : Boot.State} {write : Write} {hw : Motor.Hardware}

private theorem limited_cycle (member : word ∈ cycles) : Motor.limitDuty word ∈ cycles := by
  obtain ⟨duty, possible, rfl⟩ := member
  exact ⟨duty, possible, limit_duty_of_le possible.most⟩

private theorem turns_write (turns : Turns hw) (drive : Drive write) : Turns (write.apply hw) := by
  cases write with
  | in1 level => exact { turns with in1 := drive }
  | in2 level => exact { turns with in2 := drive }
  | duty word => exact { turns with duty := drive }

private theorem drive_call (member : word ∈ cycles) :
    ∀ write ∈ (Call.setSpeedDir word .cw).writes, Drive write := by
  simp [Call.writes, Drive, member]

/-- The registers under which `runMotor` drives the motor. -/
structure Driven (s : Boot.State) : Prop where
  coils : s.store .coil 0 ≠ 0
  register : floatWord (load s.store .holding 4) ∈ cycles

theorem step_write (left : s.pending = write :: pending) :
    s.runMotorStep = { s with hw := write.apply s.hw, pending } := by
  unfold State.runMotorStep
  rw [left]

theorem step_read (left : s.pending = []) (driving : s.driving = true) :
    s.runMotorStep = { s with driving := false, pending := (Call.setSpeedDir
      (Motor.limitDuty (floatWord (load s.store .holding 4))) .cw).writes } := by
  unfold State.runMotorStep
  rw [left]
  simp [driving]

private theorem step_test (left : s.pending = []) (idle : s.driving ≠ true)
    (coils : s.store .coil 0 ≠ 0) :
    s.runMotorStep = { s with driving := true } := by
  unfold State.runMotorStep
  rw [left]
  simp [idle, coils]

private theorem needs_zero_iff : Needs 0 s ↔ Turns s.hw ∧ ∀ write ∈ s.pending, Drive write := by
  constructor
  · intro needs
    generalize zero : 0 = steps at needs
    cases needs with
    | turns turns drive => exact ⟨turns, drive⟩
    | in2 => cases zero
    | in1 => cases zero
    | duty => cases zero
    | read => cases zero
    | drain => omega
  · rintro ⟨turns, drive⟩
    exact .turns turns drive

/-- A motor that turns goes on turning. -/
private theorem needs_zero_motor (driven : Driven s) (needs : Needs 0 s) :
    Needs 0 s.runMotorStep := by
  obtain ⟨turns, drive⟩ := needs_zero_iff.mp needs
  cases left : s.pending with
  | cons write pending =>
    rw [step_write left]
    rw [left] at drive
    exact .turns (turns_write turns (drive write List.mem_cons_self))
      fun later member => drive later (List.mem_cons_of_mem write member)
  | nil =>
    by_cases driving : s.driving = true
    · rw [step_read left driving]
      exact .turns turns (drive_call (limited_cycle driven.register))
    · rw [step_test left driving driven.coils]
      exact .turns turns drive

/-- Any other is one step nearer to it. -/
private theorem needs_succ_motor (driven : Driven s) (needs : Needs (m + 1) s) :
    ∃ m' ≤ m, Needs m' s.runMotorStep := by
  generalize steps : m + 1 = m₁ at needs
  cases needs with
  | turns => cases steps
  | in2 left in1 duty =>
    rw [step_write left]
    exact ⟨0, Nat.zero_le m, .turns ⟨in1, rfl, duty⟩ (by simp)⟩
  | in1 left duty =>
    rw [step_write left]
    exact ⟨1, by omega, .in2 rfl rfl duty⟩
  | duty left member =>
    rw [step_write left]
    exact ⟨2, by omega, .in1 rfl member⟩
  | read left driving =>
    rw [step_read left driving]
    exact ⟨3, by omega, .duty rfl (limited_cycle driven.register)⟩
  | drain length =>
    cases left : s.pending with
    | cons write pending =>
      rw [step_write left]
      rw [left, List.length_cons] at length
      exact ⟨5 + pending.length, by omega, .drain rfl⟩
    | nil =>
      rw [left, List.length_nil] at length
      by_cases driving : s.driving = true
      · rw [step_read left driving]
        exact ⟨3, by omega, .duty rfl (limited_cycle driven.register)⟩
      · rw [step_test left driving driven.coils]
        exact ⟨4, by omega, .read left rfl⟩

/-- Any other step of the RTU leaves the motor as it is, and what `runMotor` is about to do. -/
private theorem needs_same (needs : Needs m s) (hw : s'.hw = s.hw)
    (driving : s'.driving = s.driving) (pending : s'.pending = s.pending) : Needs m s' := by
  cases needs with
  | turns turns drive => exact .turns (hw ▸ turns) (pending ▸ drive)
  | in2 left in1 duty => exact .in2 (pending.trans left) (hw ▸ in1) (hw ▸ duty)
  | in1 left duty => exact .in1 (pending.trans left) (hw ▸ duty)
  | duty left member => exact .duty (pending.trans left) member
  | read left drives => exact .read (pending.trans left) (driving.trans drives)
  | drain length => exact .drain (pending ▸ length)

/-! ## A step of the system -/

variable {sys : Restarts.System} {e : Restarts.Event} {store : Store}
  {schedule : ℕ → Restarts.Event} {k t : ℕ}

/-- The RTU has a duty cycle of the master. -/
structure Ready (b : Build) (sys : Restarts.System) : Prop where
  setUp : SetUp b.layout sys.rtu
  serving : sys.rtu.serving = true
  possible : Possible sys.master.duty
  register : dutyWord (sys.loop b) ∈ cycles

theorem Ready.driven (ready : Ready b sys) : Driven sys.rtu where
  coils := by
    rw [(complete_of_serving ready.setUp ready.serving).coils]
    decide
  register := ready.register

/-- It keeps one until it restarts. -/
private theorem ready_step (sys : Restarts.System) (e : Restarts.Event) (goes : e ≠ .rtuRestarts)
    (ready : Ready b sys) : Ready b (Restarts.step b sys e) := by
  have setUp := Restarts.set_up_step sys e ready.setUp
  have possible := Restarts.possible_step (b := b) sys e ready.possible
  have complete := complete_of_serving ready.setUp ready.serving
  cases e with
  | master turn =>
    rw [step_master fun _ => ready.serving] at setUp possible ⊢
    have own : ∀ duty, Possible duty → ofNat duty ∈ cycles := fun duty cycle => ⟨duty, cycle, rfl⟩
    have register := register_visit turn ready.possible own ready.register
    exact ⟨setUp, ready.serving, possible, register⟩
  | rtu e =>
    have serving := serving_stays complete ready.serving e
    have kept : holdingData1 (Boot.step sys.rtu e).store = holdingData1 sys.rtu.store := by
      funext i
      exact congrFun (holding_kept complete e) _
    refine ⟨setUp, serving, possible, ?_⟩
    exact (congrArg (floatWord · ∈ cycles) kept).mpr ready.register
  | masterRestarts store => exact ⟨setUp, ready.serving, possible, ready.register⟩
  | rtuRestarts => exact absurd rfl goes

/-- `runMotor` goes on. -/
def runsMotor : Restarts.Event → Bool
  | .rtu .motor => true
  | _ => false

private theorem runs_motor_iff : runsMotor e = true ↔ e = .rtu .motor := by
  unfold runsMotor
  split
  · simp
  · rename_i other
    simpa using other

/-- The motor turns after at most so many steps of `runMotor`. -/
def Near (b : Build) (m : ℕ) (sys : Restarts.System) : Prop :=
  Ready b sys ∧ ∃ m' ≤ m, Needs m' sys.rtu

theorem Near.mono (near : Near b m sys) (more : m ≤ m') : Near b m' sys := by
  obtain ⟨ready, steps, close, needs⟩ := near
  exact ⟨ready, steps, Nat.le_trans close more, needs⟩

/-- A step of `runMotor`. -/
private theorem near_motor (near : Near b m sys) :
    Near b (m - 1) (Restarts.step b sys (.rtu .motor)) := by
  obtain ⟨ready, steps, close, needs⟩ := near
  refine ⟨ready_step sys _ (by simp) ready, ?_⟩
  rw [Restarts.step, step_complete (complete_of_serving ready.setUp ready.serving)]
  cases steps with
  | zero => exact ⟨0, Nat.zero_le _, needs_zero_motor ready.driven needs⟩
  | succ steps =>
    obtain ⟨fewer, bound, needs'⟩ := needs_succ_motor ready.driven needs
    exact ⟨fewer, by omega, needs'⟩

/-- A step of any other task. -/
private theorem near_other (goes : e ≠ .rtuRestarts) (other : e ≠ .rtu .motor)
    (near : Near b m sys) :
    Near b m (Restarts.step b sys e) := by
  obtain ⟨ready, steps, close, needs⟩ := near
  refine ⟨ready_step sys e goes ready, steps, close, ?_⟩
  cases e with
  | master turn =>
    rw [step_master fun _ => ready.serving]
    exact needs_same needs rfl rfl rfl
  | rtu e =>
    rw [Restarts.step, step_complete (complete_of_serving ready.setUp ready.serving)]
    cases e with
    | main passes => exact needs
    | motor => exact absurd rfl other
    | sensor k word => exact needs_same needs rfl rfl rfl
  | masterRestarts store => exact needs
  | rtuRestarts => exact absurd rfl goes

/-- **Each step of `runMotor`** brings the motor nearer to turning, and nothing but a restart of the
RTU takes it away from it. -/
private theorem approaches_turning (b : Build) : Progress.Approaches (Restarts.step b)
    (· ≠ .rtuRestarts) (runsMotor · = true) (Near b) where
  kept m sys e goes near := by
    by_cases motor : e = .rtu .motor
    · rw [motor]
      exact (near_motor near).mono (Nat.sub_le m 1)
    · exact near_other goes motor near
  nearer m sys e goes motor near := by
    rw [runs_motor_iff.mp motor]
    exact near_motor near

/-! ## Runs -/

/-- A call of the driver has at most three writes. -/
private theorem pending_short (sys : Restarts.System) (e : Restarts.Event)
    (short : sys.rtu.pending.length ≤ 3) : (Restarts.step b sys e).rtu.pending.length ≤ 3 := by
  cases e with
  | master turn =>
    unfold Restarts.step
    dsimp only
    split <;> exact short
  | rtu e =>
    have stepped := step_stepped sys.rtu e
    unfold Restarts.step
    dsimp only
    generalize Boot.step sys.rtu e = after at stepped ⊢
    cases stepped with
    | idle => exact short
    | @perform next rest split running => cases next <;> exact short
    | abort => exact short
    | motor =>
      unfold State.runMotorStep
      split
      · rename_i left
        rw [left, List.length_cons] at short
        exact Nat.le_of_succ_le short
      · rename_i left
        split
        · exact Nat.le_refl 3
        · split
          · exact short
          · exact Nat.le_refl 3
    | sensor => exact short
  | masterRestarts store => exact short
  | rtuRestarts => exact Nat.zero_le 3

theorem pending_run (b : Build) (store : Store) (schedule : ℕ → Restarts.Event) (t : ℕ) :
    (Restarts.run b store schedule t).rtu.pending.length ≤ 3 :=
  states_invariant (motive := fun sys : Restarts.System => sys.rtu.pending.length ≤ 3) schedule
    pending_short (show [].length ≤ 3 from Nat.zero_le 3) t

/-- A request for the duty cycle that is carried out. -/
private theorem ready_carried_out (sound : Sound b sys)
    (carriesOut : CarriesOut b sys e dutyEntry) :
    Ready b (Restarts.step b sys e) := by
  have after := sound_step sys e sound
  obtain ⟨serving, turn, rfl, sets⟩ := carriesOut
  rw [step_master fun _ => serving] at after ⊢
  exact ⟨after.setUp, serving, after.possible, _, after.possible, duty_word_set sets⟩

/-- **Recovery.** Whatever happened before, also to the RTU, once it has carried out a request for
the duty cycle the motor turns forward with one of the duty cycles of the master after eight
more steps of `runMotor`, and goes on so until the RTU restarts: no lost request, no restart of
the master and no turn of another task keeps it from that. -/
theorem motor_recovers (b : Build) (store : Store) (schedule : ℕ → Restarts.Event) (k t : ℕ)
    (carriesOut : CarriesOut b (Restarts.run b store schedule k) (schedule k) dutyEntry)
    (lasting : ∀ j, k < j → j < t → schedule j ≠ .rtuRestarts) (later : k < t)
    (enough : Nat.count (fun j => runsMotor (schedule j)) (k + 1) + 8 ≤
      Nat.count (fun j => runsMotor (schedule j)) t) :
    Turns (Restarts.run b store schedule t).rtu.hw := by
  have near : Near b 8 (Restarts.run b store schedule (k + 1)) := by
    have short := pending_run b store schedule (k + 1)
    exact ⟨ready_carried_out (sound_run b store schedule k) carriesOut, _, by omega, .drain rfl⟩
  obtain ⟨_, steps, close, needs⟩ := (approaches_turning b).reached near later lasting enough
  obtain rfl := Nat.le_zero.mp close
  exact (needs_zero_iff.mp needs).1

/-- Both firmwares start; the fifth visit of the master requests the duty cycle, and then only the
motor task goes on. -/
def startsUp (k : ℕ) : Restarts.Event :=
  if k < 33 then .rtu (.main true)
  else if k < 38 then .master ⟨EspIdf.espOk, .unanswered timeout⟩
  else .rtu .motor

theorem starts_up_turns : Turns (Restarts.run committedBuild (fun _ _ => 0) startsUp 46).rtu.hw :=
  motor_recovers committedBuild (fun _ _ => 0) startsUp 37 46
    ⟨by decide, _, rfl, _, ⟨rfl, by decide, by decide⟩, rfl, rfl⟩
    (fun j _ _ => by unfold startsUp; split_ifs <;> simp) (by decide) (by decide)

end PowerMonitor.Recovery
