import PowerMonitor.ControlLoop
import PowerMonitor.EventHistory
import PowerMonitor.HBridge

/-! The RTU from power-on until its Modbus stack serves requests: the statements of `app_main`
and of `slave_init` and `setup_reg_data` under it, among those of the two tasks it has started
on the way. A call that fails its check aborts the firmware. -/
namespace PowerMonitor.Boot
open Dictionary ByteMemory MasterRead ModbusStack RegisterMap ControlLoop HBridge
open Binary32 (ofNat)

/-- What `app_main` does next. The calls that touch neither the registers nor the motor are left
out; all that fails in them is that what follows is not reached. -/
inductive MainStep where
  /-- `xTaskCreate(readINA, ..)`. -/
  | startSensor
  | hardware (write : Write)
  /-- `xTaskCreate(runMotor, ..)`. -/
  | startMotor
  /-- `mbc_slave_init_tcp` and `mbc_slave_setup`. -/
  | setUpStack
  | setDescriptor (area : MbRegisterAreaDescriptor)
  | setFloat (area : Area) (offset : Nat) (word : UInt32)
  | setByte (area : Area) (offset : Nat) (byte : UInt8)
  /-- `mbc_slave_start`. -/
  | startStack
  deriving DecidableEq

/-- `setup_reg_data`, but for the discrete inputs, which nothing else writes. -/
def setupRegData (l : Layout) : List MainStep :=
  (List.range 8).map (fun k => .setFloat .holding (l.offsetofHolding k) (ofNat 0)) ++
    [.setByte .coil 0 0x01, .setByte .coil 1 0x01] ++
    (List.range 8).map (fun k => .setFloat .input (l.offsetofInput k) (ofNat 0))

/-- `slave_init`, up to `mbc_slave_start`. -/
def slaveInit (l : Layout) : List MainStep :=
  .setUpStack :: (slaveInitAreas l).map .setDescriptor ++ setupRegData l

/-- `app_main` up to `mbc_slave_start`: `initINA`, `initMotor`, `setSpeedDir(20, CW)`, and then
`slave_init`. -/
def appMain (l : Layout) : List MainStep :=
  [.startSensor, .hardware (.in1 0), .hardware (.in2 0), .startMotor] ++
    (Call.setSpeedDir (ofNat 20) .cw).writes.map .hardware ++ slaveInit l

/-- The RTU while it boots. -/
structure State where
  /-- What `app_main` has done and what it has left to do. -/
  made : List MainStep := []
  todo : List MainStep
  aborted : Bool := false
  /-- The areas the stack knows, and whether it serves requests. -/
  areas : List MbRegisterAreaDescriptor := []
  serving : Bool := false
  /-- The structures, which are zero at power-on. -/
  store : Store := fun _ _ => 0
  hw : Motor.Hardware := initialHardware
  sensorRuns : Bool := false
  motorRuns : Bool := false
  /-- `runMotor` found `coils_port0` set and is about to read `holding_data1`. -/
  driving : Bool := false
  /-- The writes `runMotor` has left in the call it is in. -/
  pending : List Write := []

namespace State

/-- A statement of `app_main`. -/
def perform (s : State) : MainStep → State
  | .startSensor => { s with sensorRuns := true }
  | .hardware write => { s with hw := write.apply s.hw }
  | .startMotor => { s with motorRuns := true }
  | .setUpStack => s
  | .setDescriptor area => { s with areas := s.areas ++ [area] }
  | .setFloat area offset word =>
    { s with store := ByteMemory.store s.store area offset (floatBytes word) }
  | .setByte area offset byte =>
    { s with store := ByteMemory.store (n := 1) s.store area offset fun _ => byte }
  | .startStack => { s with serving := true }

/-- `app_main` goes on by one statement, whose check passes or not. -/
def appMainStep (s : State) (passes : Bool) : State :=
  match s.todo with
  | [] => s
  | next :: rest =>
    if passes then { s.perform next with made := s.made ++ [next], todo := rest }
    else { s with aborted := true }

/-- `runMotor` goes on by one read or one write. -/
def runMotorStep (s : State) : State :=
  match s.pending with
  | write :: pending => { s with hw := write.apply s.hw, pending }
  | [] =>
    if s.driving then
      let duty := Motor.limitDuty (floatWord (load s.store .holding 4))
      { s with driving := false, pending := (Call.setSpeedDir duty .cw).writes }
    else if s.store .coil 0 ≠ 0 then { s with driving := true }
    else { s with pending := Call.stopMotor.writes }

/-- `readINA` publishes one measurement. -/
def readINAStep (s : State) (k : Fin 3) (word : UInt32) : State :=
  { s with store := ByteMemory.store s.store .input (4 * k) (floatBytes word) }

end State

inductive Event where
  | main (passes : Bool)
  | motor
  | sensor (k : Fin 3) (word : UInt32)

def step (s : State) (e : Event) : State :=
  if s.aborted then s
  else
    match e with
    | .main passes => s.appMainStep passes
    | .motor => if s.motorRuns then s.runMotorStep else s
    | .sensor k word => if s.sensorRuns then s.readINAStep k word else s

def powerOn (l : Layout) : State := { todo := appMain l ++ [.startStack] }

def run (l : Layout) (events : List Event) : State :=
  events.foldl step (powerOn l)

/-! ## What the script of `app_main` holds -/

/-- The area a statement registers. -/
def MainStep.area : MainStep → Option MbRegisterAreaDescriptor
  | .setDescriptor area => some area
  | _ => none

/-- The duties the motor may have: zero and 20, with what `runMotor` makes of them. -/
structure Duties (allowed : Set UInt32) : Prop where
  zero : ofNat 0 ∈ allowed
  twenty : ofNat 20 ∈ allowed
  limited : ∀ word ∈ allowed, Motor.limitDuty word ∈ allowed

/-- `app_main` alone gives the motor only its 20, and the registers only a zero. -/
theorem duties_first : Duties {ofNat 0, ofNat 20} where
  zero := Or.inl rfl
  twenty := Or.inr rfl
  limited := by
    have zero : Motor.limitDuty (ofNat 0) = ofNat 0 := by decide
    have twenty : Motor.limitDuty (ofNat 20) = ofNat 20 := by decide
    rintro word (rfl | rfl)
    · exact Or.inl zero
    · exact Or.inr twenty

/-- The write keeps the second input low and the duty among those allowed. -/
def Harmless (allowed : Set UInt32) : Write → Prop
  | .in1 _ => True
  | .in2 level => level = 0
  | .duty word => word ∈ allowed

/-- What the statements of `app_main` write. -/
def Expected (allowed : Set UInt32) : MainStep → Prop
  | .hardware write => Harmless allowed write
  | .setFloat area offset word => area ≠ .coil ∧ offset % 4 = 0 ∧ word = ofNat 0
  | .setByte area offset byte => area = .coil ∧ offset < 2 ∧ byte = 0x01
  | _ => True

variable {l : Layout} {s : State} {write : Write} {allowed : Set UInt32}

private theorem expected_script (duties : Duties allowed) (l : Layout) :
    ∀ next ∈ appMain l ++ [.startStack], Expected allowed next := by
  simp [appMain, slaveInit, setupRegData, slaveInitAreas, Call.writes, Expected, Harmless,
    l.offset_holding_aligned, l.offset_input_aligned, or_imp, forall_and, duties.twenty]

private theorem start_only_last (l : Layout) : MainStep.startStack ∉ appMain l := by
  simp [appMain, slaveInit, setupRegData, Call.writes]

theorem app_main_areas (l : Layout) :
    (appMain l ++ [MainStep.startStack]).filterMap MainStep.area = slaveInitAreas l := rfl

private theorem sets_both_coils (l : Layout) (k : Nat) :
    MainStep.setByte .coil k 0x01 ∈ appMain l ++ [MainStep.startStack] ↔ k < 2 := by
  simp [appMain, slaveInit, setupRegData, Call.writes]
  omega

private theorem starts_both_tasks (l : Layout) : MainStep.startSensor ∈ appMain l ++ [.startStack] ∧
    MainStep.startMotor ∈ appMain l ++ [.startStack] := by
  simp [appMain]

theorem float_bytes_zero (i : Fin 4) : floatBytes (ofNat 0) i = 0 := by
  have zero : ∀ i, floatBytes (ofNat 0) i = 0 := by decide
  exact zero i

/-! ## What a step does -/

inductive Stepped (s : State) : State → Prop
  | idle : Stepped s s
  | perform (split : s.todo = next :: rest) (running : s.aborted = false) :
      Stepped s { s.perform next with made := s.made ++ [next], todo := rest }
  | abort (split : s.todo = next :: rest) : Stepped s { s with aborted := true }
  | motor : Stepped s s.runMotorStep
  | sensor (k : Fin 3) (word : UInt32) : Stepped s (s.readINAStep k word)

theorem step_stepped (s : State) (e : Event) : Stepped s (step s e) := by
  unfold step
  split
  · exact .idle
  rename_i running
  cases e with
  | main passes =>
    dsimp only
    unfold State.appMainStep
    split
    · exact .idle
    · rename_i next rest split'
      cases passes with
      | true => exact .perform split' (by simpa using running)
      | false => exact .abort split'
  | motor =>
    dsimp only
    split
    · exact .motor
    · exact .idle
  | sensor k word =>
    dsimp only
    split
    · exact .sensor k word
    · exact .idle

/-- `runMotor` only changes the motor and where it is itself. -/
private theorem run_motor_keeps (s : State) :
    ∃ hw driving pending, s.runMotorStep = { s with hw, driving, pending } := by
  unfold State.runMotorStep
  split
  · exact ⟨_, s.driving, _, rfl⟩
  · split
    · exact ⟨s.hw, false, _, rfl⟩
    · split
      · exact ⟨s.hw, true, s.pending, rfl⟩
      · exact ⟨s.hw, s.driving, _, rfl⟩

/-- `readINA` only writes the first three input registers. -/
private theorem sensor_outside (k : Fin 3) (word : UInt32) (s : State) {area : Area} {i : Nat}
    (apart : ¬ (area = .input ∧ i < 12)) :
    (s.readINAStep k word).store area i = s.store area i :=
  store_outside _ _ fun inside => apart ⟨inside.1, by omega⟩

/-! ## What has been set up -/

/-- What the statements made so far have left, whatever else happened. -/
structure SetUp (l : Layout) (s : State) : Prop where
  script : s.made ++ s.todo = appMain l ++ [.startStack]
  unfinished : s.aborted = true → s.todo ≠ []
  areas : s.areas = s.made.filterMap MainStep.area
  serving : s.serving = true ↔ .startStack ∈ s.made
  sensor : s.sensorRuns = true ↔ .startSensor ∈ s.made
  motor : s.motorRuns = true ↔ .startMotor ∈ s.made
  coils : ∀ k, s.store .coil k = if .setByte .coil k 0x01 ∈ s.made then 0x01 else 0

/-- The next statement is one of the script. -/
private theorem expected_next (setUp : SetUp l s) (duties : Duties allowed)
    (split : s.todo = next :: rest) : Expected allowed next :=
  expected_script duties l next (by rw [← setUp.script, split]; simp)

/-- Everything but the store is decided by the list of statements made. -/
private theorem set_up_next (setUp : SetUp l s) (split : s.todo = next :: rest)
    (running : s.aborted = false)
    (coils : ∀ k, (s.perform next).store .coil k =
      if .setByte .coil k 0x01 ∈ s.made ++ [next] then 0x01 else 0) :
    SetUp l { s.perform next with made := s.made ++ [next], todo := rest } := by
  have script : (s.made ++ [next]) ++ rest = appMain l ++ [.startStack] := by
    rw [← setUp.script, split]
    simp
  constructor
  case script => exact script
  case unfinished => cases next <;> simp [State.perform, running]
  case areas => cases next <;> simp [State.perform, MainStep.area, setUp.areas]
  case serving => cases next <;> simp [State.perform, setUp.serving]
  case sensor => cases next <;> simp [State.perform, setUp.sensor]
  case motor => cases next <;> simp [State.perform, setUp.motor]
  case coils => exact coils

/-- A statement of `app_main` that passes. -/
theorem set_up_perform (setUp : SetUp l s) (split : s.todo = next :: rest)
    (running : s.aborted = false) :
    SetUp l { s.perform next with made := s.made ++ [next], todo := rest } := by
  refine set_up_next setUp split running fun k => ?_
  have before := setUp.coils k
  have expected := expected_next setUp duties_first split
  cases next with
  | setFloat area offset word =>
    have kept : (s.perform (.setFloat area offset word)).store .coil k = s.store .coil k :=
      store_outside _ _ fun inside => expected.1 inside.1.symm
    rw [kept, before]
    simp
  | setByte area offset byte =>
    obtain ⟨rfl, _, rfl⟩ := expected
    by_cases own : k = offset
    · subst own
      simp [State.perform, ByteMemory.store]
    · have outside : ¬ (Area.coil = .coil ∧ offset ≤ k ∧ k < offset + 1) := by omega
      have kept : (s.perform (.setByte .coil offset 0x01)).store .coil k = s.store .coil k :=
        store_outside s.store (fun _ : Fin 1 => 0x01) outside
      rw [kept, before]
      simp [own]
  | startSensor => simpa [State.perform] using before
  | hardware write => simpa [State.perform] using before
  | startMotor => simpa [State.perform] using before
  | setUpStack => simpa [State.perform] using before
  | setDescriptor area => simpa [State.perform] using before
  | startStack => simpa [State.perform] using before

/-- **One step** of any task. -/
theorem set_up_step (s : State) (e : Event) (setUp : SetUp l s) : SetUp l (step s e) := by
  have stepped := step_stepped s e
  generalize step s e = after at stepped ⊢
  cases stepped with
  | idle => exact setUp
  | perform split running => exact set_up_perform setUp split running
  | abort split => exact { setUp with unfinished := fun _ => by simp [split] }
  | motor =>
    obtain ⟨hw, driving, pending, same⟩ := run_motor_keeps s
    rw [same]
    exact { setUp with }
  | sensor k word =>
    exact { setUp with
      coils := fun i => (sensor_outside k word s (by simp)).trans (setUp.coils i) }

theorem set_up_power_on (l : Layout) : SetUp l (powerOn l) where
  script := rfl
  unfinished := by simp [powerOn]
  areas := rfl
  serving := by simp [powerOn]
  sensor := by simp [powerOn]
  motor := by simp [powerOn]
  coils _ := rfl

/-- The last of a list of statements is made only once all are. -/
private theorem all_before_last {made statements : List α} {last : α}
    (earlier : made <+: statements ++ [last]) (new : last ∉ statements) :
    last ∈ made ↔ made = statements ++ [last] := by
  constructor
  · intro member
    obtain whole | before := List.prefix_concat_iff.mp earlier
    · exact whole
    · exact absurd (before.subset member) new
  · rintro rfl
    simp

theorem serving_iff (setUp : SetUp l s) :
    s.serving = true ↔ s.made = appMain l ++ [.startStack] :=
  setUp.serving.trans (all_before_last ⟨_, setUp.script⟩ (start_only_last l))

/-- Once the stack serves requests, `app_main` has nothing left to do, both tasks run and both
coils are set. -/
structure Complete (l : Layout) (s : State) : Prop where
  todo : s.todo = []
  running : s.aborted = false
  areas : s.areas = slaveInitAreas l
  sensor : s.sensorRuns = true
  motor : s.motorRuns = true
  coils : s.store .coil = setupStore .coil

theorem complete_of_serving (setUp : SetUp l s) (serving : s.serving = true) : Complete l s := by
  have made := (serving_iff setUp).mp serving
  have todo : s.todo = [] := by
    have script := setUp.script
    rw [made] at script
    exact List.append_right_eq_self.mp script
  refine ⟨todo, ?_, ?_, ?_, ?_, funext fun k => ?_⟩
  · by_contra aborted
    exact setUp.unfinished (by simpa using aborted) todo
  · rw [setUp.areas, made, app_main_areas]
  · exact setUp.sensor.mpr (made ▸ (starts_both_tasks l).1)
  · exact setUp.motor.mpr (made ▸ (starts_both_tasks l).2)
  · rw [setUp.coils k, made]
    simp only [sets_both_coils, setupStore, true_and]

/-- Once the stack serves requests only the two tasks go on. -/
theorem step_complete (complete : Complete l s) (e : Event) :
    step s e = match e with
      | .main _ => s
      | .motor => s.runMotorStep
      | .sensor k word => s.readINAStep k word := by
  cases e <;> simp [step, State.appMainStep, complete.running, complete.todo, complete.motor,
    complete.sensor]

theorem serving_stays (complete : Complete l s) (serving : s.serving = true) (e : Event) :
    (step s e).serving = true := by
  rw [step_complete complete]
  cases e with
  | main passes => exact serving
  | motor =>
    obtain ⟨hw, driving, pending, same⟩ := run_motor_keeps s
    dsimp only
    rw [same]
    exact serving
  | sensor k word => exact serving

theorem holding_kept (complete : Complete l s) (e : Event) :
    (step s e).store .holding = s.store .holding := by
  rw [step_complete complete]
  cases e with
  | main passes => rfl
  | motor =>
    obtain ⟨hw, driving, pending, same⟩ := run_motor_keeps s
    dsimp only
    rw [same]
  | sensor k word => exact funext fun i => sensor_outside k word s (by simp)

/-! ## The motor -/

/-- The word `runMotor` would read, the motor, and the writes left keep to the duties allowed. -/
structure Within (allowed : Set UInt32) (s : State) : Prop where
  register : floatWord (load s.store .holding 4) ∈ allowed
  in2 : s.hw.in2 = 0
  duty : s.hw.duty ∈ allowed
  pending : ∀ write ∈ s.pending, Harmless allowed write

private theorem harmless_stop (duties : Duties allowed) :
    ∀ write ∈ Call.stopMotor.writes, Harmless allowed write := by
  simp [Call.writes, Harmless, duties.zero]

private theorem harmless_drive (word : UInt32) (member : word ∈ allowed) :
    ∀ write ∈ (Call.setSpeedDir word .cw).writes, Harmless allowed write := by
  simp [Call.writes, Harmless, member]

/-- A write that is harmless keeps the motor as it may be. -/
theorem harmless_write (in2 : hw.in2 = 0) (duty : hw.duty ∈ allowed)
    (harmless : Harmless allowed write) :
    (write.apply hw).in2 = 0 ∧ (write.apply hw).duty ∈ allowed := by
  cases write with
  | in1 level => exact ⟨in2, duty⟩
  | in2 level => exact ⟨harmless, duty⟩
  | duty word => exact ⟨in2, harmless⟩

/-- A zero stored over `holding_data1`, or beside it. -/
private theorem register_zeroed (area : Area) (aligned : offset % 4 = 0) (store : Store)
    (duties : Duties allowed) (before : floatWord (load store .holding 4) ∈ allowed) :
    floatWord (load (ByteMemory.store store area offset (floatBytes (ofNat 0))) .holding 4) ∈
      allowed := by
  by_cases own : area = .holding ∧ offset = 4
  · obtain ⟨rfl, rfl⟩ := own
    rw [load_store_same, float_word_bytes]
    exact duties.zero
  · have apart : Area.holding ≠ area ∨ 4 + 4 ≤ offset ∨ offset + 4 ≤ 4 := by
      by_cases same : area = .holding
      · have beside : offset ≠ 4 := fun same' => own ⟨same, same'⟩
        omega
      · exact Or.inl (Ne.symm same)
    rw [load_store_apart _ _ apart]
    exact before

/-- A statement of `app_main`. -/
theorem within_perform (duties : Duties allowed) (within : Within allowed s)
    (expected : Expected allowed next) : Within allowed (s.perform next) := by
  cases next with
  | hardware write =>
    obtain ⟨in2, duty⟩ := harmless_write within.in2 within.duty expected
    exact { within with in2, duty }
  | setFloat area offset word =>
    obtain ⟨_, aligned, rfl⟩ := expected
    exact { within with register := register_zeroed area aligned s.store duties within.register }
  | setByte area offset byte =>
    obtain ⟨rfl, _⟩ := expected
    have kept : (load (ByteMemory.store (n := 1) s.store .coil offset fun _ => byte) .holding 4 :
        FloatBytes) = load s.store .holding 4 := load_store_apart _ _ (Or.inl (by decide))
    exact { within with register := kept ▸ within.register }
  | startSensor => exact { within with }
  | startMotor => exact { within with }
  | setUpStack => exact { within with }
  | setDescriptor area => exact { within with }
  | startStack => exact { within with }

private theorem within_motor (duties : Duties allowed) (within : Within allowed s) :
    Within allowed s.runMotorStep := by
  unfold State.runMotorStep
  split
  · rename_i write pending left
    have harmless := within.pending
    rw [left] at harmless
    obtain ⟨in2, duty⟩ :=
      harmless_write within.in2 within.duty (harmless write List.mem_cons_self)
    exact { within with
      in2, duty, pending := fun later member => harmless later (List.mem_cons_of_mem _ member) }
  · split
    · exact { within with pending := harmless_drive _ (duties.limited _ within.register) }
    · split
      · exact { within with }
      · exact { within with pending := harmless_stop duties }

private theorem within_sensor (k : Fin 3) (word : UInt32) (within : Within allowed s) :
    Within allowed (s.readINAStep k word) := by
  have kept : (load (s.readINAStep k word).store .holding 4 : FloatBytes) =
      load s.store .holding 4 := load_store_apart _ _ (Or.inl (by decide))
  exact { within with register := kept ▸ within.register }

/-- **One step** keeps the motor within the duties. -/
theorem within_step (duties : Duties allowed) (e : Event) (setUp : SetUp l s)
    (within : Within allowed s) : Within allowed (step s e) := by
  have stepped := step_stepped s e
  generalize step s e = after at stepped ⊢
  cases stepped with
  | idle => exact within
  | perform split =>
    have performed := within_perform duties within (expected_next setUp duties split)
    exact { performed with }
  | abort => exact { within with }
  | motor => exact within_motor duties within
  | sensor k word => exact within_sensor k word within

theorem within_power_on (duties : Duties allowed) (l : Layout) : Within allowed (powerOn l) where
  register := duties.zero
  in2 := rfl
  duty := duties.zero
  pending := nofun

/-! ## The structures -/

/-- The structures are zero but for the coils and what `readINA` measures. -/
def Zeroed (s : State) : Prop :=
  ∀ area k, area ≠ .coil → ¬ (area = .input ∧ k < 12) → s.store area k = 0

private theorem zeroed_perform (zeroed : Zeroed s) (expected : Expected allowed next) :
    Zeroed (s.perform next) := by
  cases next with
  | setFloat area offset word =>
    obtain ⟨_, _, rfl⟩ := expected
    intro other k here apart
    simp only [State.perform, ByteMemory.store]
    split
    · exact float_bytes_zero _
    · exact zeroed other k here apart
  | setByte area offset byte =>
    obtain ⟨rfl, _⟩ := expected
    intro other k here apart
    have outside : ¬ (other = Area.coil ∧ offset ≤ k ∧ k < offset + 1) :=
      fun inside => here inside.1
    exact (store_outside s.store (fun _ : Fin 1 => byte) outside).trans (zeroed other k here apart)
  | startSensor => exact zeroed
  | hardware write => exact zeroed
  | startMotor => exact zeroed
  | setUpStack => exact zeroed
  | setDescriptor area => exact zeroed
  | startStack => exact zeroed

/-- **One step** of any task leaves them so. -/
theorem zeroed_step (e : Event) (setUp : SetUp l s) (zeroed : Zeroed s) : Zeroed (step s e) := by
  have stepped := step_stepped s e
  generalize step s e = after at stepped ⊢
  cases stepped with
  | idle => exact zeroed
  | perform split => exact zeroed_perform zeroed (expected_next setUp duties_first split)
  | abort => exact zeroed
  | motor =>
    obtain ⟨hw, driving, pending, same⟩ := run_motor_keeps s
    rw [same]
    exact zeroed
  | sensor k word =>
    exact fun area i here apart => (sensor_outside k word s apart).trans (zeroed area i here apart)

/-! ## What it comes to -/

/-- While no request is carried out. -/
def Booting (l : Layout) (s : State) : Prop :=
  SetUp l s ∧ Zeroed s ∧ Within {ofNat 0, ofNat 20} s

theorem booting_step (s : State) (e : Event) (booting : Booting l s) : Booting l (step s e) := by
  obtain ⟨setUp, zeroed, within⟩ := booting
  exact ⟨set_up_step s e setUp, zeroed_step e setUp zeroed,
    within_step duties_first e setUp within⟩

theorem booting_run (l : Layout) (events : List Event) : Booting l (run l events) :=
  EventHistory.foldl_invariant booting_step events
    ⟨set_up_power_on l, fun _ _ _ _ => rfl, within_power_on duties_first l⟩

/-- **Nothing is served before it is set up.** However `app_main` and the two tasks it starts
take turns, and whatever `readINA` measures meanwhile, the stack serves requests exactly when
every statement before has passed; and then it knows all areas, and until the first request the
structures are as `setup_reg_data` leaves them, but for the three measured registers. -/
theorem served_once_set_up (l : Layout) (events : List Event) :
    ((run l events).serving = true ↔ (run l events).made = appMain l ++ [.startStack]) ∧
    ((run l events).serving = true → (run l events).areas = slaveInitAreas l ∧
      ∀ area k, ¬ (area = .input ∧ k < 12) →
        (run l events).store area k = setupStore area k) := by
  obtain ⟨setUp, zeroed, _⟩ := booting_run l events
  refine ⟨serving_iff setUp, fun serving => ?_⟩
  have complete := complete_of_serving setUp serving
  refine ⟨complete.areas, fun area k unmeasured => ?_⟩
  by_cases coil : area = .coil
  · rw [coil, complete.coils]
  · rw [zeroed area k coil unmeasured]
    simp [setupStore, coil]

/-- **The motor while the RTU boots** has its second input low, so it never turns backward and
the bridge never has both inputs high, and a duty of zero or of the 20 that `app_main` sets. The
tasks may cut each other's calls short anywhere. -/
theorem motor_while_booting (l : Layout) (events : List Event) :
    (run l events).hw.in2 = 0 ∧
      ((run l events).hw.duty = ofNat 0 ∨ (run l events).hw.duty = ofNat 20) := by
  obtain ⟨_, _, within⟩ := booting_run l events
  exact ⟨within.in2, within.duty⟩

end PowerMonitor.Boot
