import PowerMonitor.Restarts

/-! The control loop is what the two firmwares do between restarts. `ControlLoop` lets `runMotor`
make all writes of a call at once and starts with an RTU that serves requests; here each write
is a step and the RTU boots first. With the writes left of a call taken as made, every step of
the RTU that serves is a step of the control loop or none. -/
namespace PowerMonitor.LoopRefinement
open Dictionary ByteMemory MasterRead RegisterMap ControlLoop DelayedCopy EventHistory HBridge
open Boot Restarts

variable {b : Build} {s : Restarts.System} {turn : Turn} {store : Store}
  {schedule : ℕ → Restarts.Event} {t : ℕ}

/-- What an event is in the control loop. -/
def loopEvent (s : Restarts.System) : Restarts.Event → Option ControlLoop.Event
  | .master turn => some (.master turn)
  | .rtu .motor => if s.rtu.pending = [] then some .motor else none
  | .rtu (.sensor k word) => some (.sensor k word)
  | _ => none

/-- Neither firmware restarts. -/
def Goes : Restarts.Event → Prop
  | .masterRestarts _ => False
  | .rtuRestarts => False
  | _ => True

/-- The RTU serves requests. -/
structure Serves (b : Build) (s : Restarts.System) : Prop where
  setUp : SetUp b.layout s.rtu
  serving : s.rtu.serving = true

/-! ## One step -/

/-- A visit of the master changes nothing of the RTU but its structures. -/
private theorem visit_changes_store (s : ControlLoop.System) (turn : Turn) :
    (ControlLoop.step s (.master turn)).rtu =
      { s.rtu with store := (ControlLoop.step s (.master turn)).rtu.store } := by
  have rtu := rtu_step s (.master turn)
  generalize (ControlLoop.step s (.master turn)).rtu = after at rtu ⊢
  cases rtu with
  | set turn d sets => rfl
  | keep => rfl

private theorem visit_loop (b : Build) (s : Restarts.System) (turn : Turn) :
    (s.visit b turn).loop b = ControlLoop.step (s.loop b) (.master turn) := by
  have rtu := visit_changes_store (s.loop b) turn
  exact congrArg (fun rtu => { ControlLoop.step (s.loop b) (.master turn) with rtu }) rtu.symm

/-- The first read of an iteration of `runMotor`, or the second. -/
private theorem motor_loop (s : Restarts.System) (idle : s.rtu.pending = []) :
    System.loop b { s with rtu := s.rtu.runMotorStep } = ControlLoop.step (s.loop b) .motor := by
  unfold State.runMotorStep
  rw [idle]
  dsimp only
  by_cases driving : s.rtu.driving = true
  · rw [if_pos driving]
    simp [ControlLoop.step, System.loop, Rtu.runMotor, Rtu.motor, Motor.runMotor, driving, idle,
      set_speed_dir_writes, FailedTransfers.holdingData1]
  · rw [if_neg driving]
    by_cases coils : s.rtu.store .coil 0 = 0
    · simp [ControlLoop.step, System.loop, Rtu.runMotor, Rtu.motor, Motor.runMotor, driving, idle,
        coils, stop_motor_writes]
    · simp [ControlLoop.step, System.loop, Rtu.runMotor, Rtu.motor, Motor.runMotor, driving, idle,
        coils]

/-- A write of a call that was begun. -/
private theorem write_loop (s : Restarts.System) (busy : s.rtu.pending ≠ []) :
    System.loop b { s with rtu := s.rtu.runMotorStep } = s.loop b := by
  obtain ⟨write, pending, left⟩ := List.exists_cons_of_ne_nil busy
  simp [State.runMotorStep, System.loop, left]

private theorem sensor_loop (s : Restarts.System) (k : Fin 3) (word : UInt32) :
    System.loop b { s with rtu := s.rtu.readINAStep k word } =
      ControlLoop.step (s.loop b) (.sensor k word) := rfl

theorem serves_step (s : Restarts.System) (e : Restarts.Event) (goes : Goes e)
    (serves : Serves b s) : Serves b (Restarts.step b s e) := by
  refine ⟨Restarts.set_up_step s e serves.setUp, ?_⟩
  cases e with
  | master turn =>
    rw [step_master fun _ => serves.serving]
    exact serves.serving
  | rtu e =>
    exact serving_stays (complete_of_serving serves.setUp serves.serving) serves.serving e
  | masterRestarts store => exact goes.elim
  | rtuRestarts => exact goes.elim

/-- **Every step** of firmwares that serve is one of the control loop, or none. -/
theorem simulates_loop (b : Build) : Simulates (Restarts.step b) ControlLoop.step (System.loop b)
    loopEvent (Serves b) Goes where
  preserved := serves_step
  matched s e goes serves := by
    have complete := complete_of_serving serves.setUp serves.serving
    cases e with
    | master turn =>
      rw [step_master fun _ => serves.serving]
      exact visit_loop b s turn
    | rtu e =>
      rw [Restarts.step, step_complete complete]
      cases e with
      | main passes => rfl
      | motor =>
        by_cases idle : s.rtu.pending = []
        · simp only [loopEvent, if_pos idle]
          exact motor_loop s idle
        · simp only [loopEvent, if_neg idle]
          exact write_loop s idle
      | sensor k word => exact sensor_loop s k word
    | masterRestarts store => exact goes.elim
    | rtuRestarts => exact goes.elim

/-- From any moment at which the RTU serves requests until the next restart, the two firmwares are
a control loop: whatever happened before, also restarts, the events are a history of it, in which
`runMotor` makes the writes of a call as it decides on them. -/
theorem life_is_loop_history (b : Build) (store : Store) (schedule : ℕ → Restarts.Event) (t : ℕ)
    (serving : (Restarts.run b store schedule t).rtu.serving = true)
    (events : List Restarts.Event) (goes : ∀ e ∈ events, Goes e) :
    System.loop b (events.foldl (Restarts.step b) (Restarts.run b store schedule t)) =
      (seen (Restarts.step b) loopEvent (Restarts.run b store schedule t) events).foldl
        ControlLoop.step (System.loop b (Restarts.run b store schedule t)) :=
  (simulates_loop b).run events goes ⟨(sound_run b store schedule t).setUp, serving⟩

/-- Every check of the boot passes. -/
def boots : ℕ → Restarts.Event := fun _ => .rtu (.main true)

/-- The RTU serves after its 33 statements. -/
private theorem booted_serves :
    (Restarts.run committedBuild (fun _ _ => 0) boots 33).rtu.serving = true := by
  decide

/-- The motor task then begins to drive. -/
theorem booted_drives :
    System.loop committedBuild ([.rtu .motor, .rtu .motor, .rtu .motor].foldl
        (Restarts.step committedBuild) (Restarts.run committedBuild (fun _ _ => 0) boots 33)) =
      (seen (Restarts.step committedBuild) loopEvent
        (Restarts.run committedBuild (fun _ _ => 0) boots 33)
        [.rtu .motor, .rtu .motor, .rtu .motor]).foldl ControlLoop.step
        (System.loop committedBuild (Restarts.run committedBuild (fun _ _ => 0) boots 33)) :=
  life_is_loop_history committedBuild (fun _ _ => 0) boots 33 booted_serves
    [.rtu .motor, .rtu .motor, .rtu .motor] (by simp [Goes])

/-! ## The first life -/

/-- The system after these events from power-on. -/
def fromPowerOn (b : Build) (store : Store) (events : List Restarts.Event) : Restarts.System :=
  events.foldl (Restarts.step b) (start b store)

/-- What happens from power-on, as long as neither firmware restarts: until the RTU serves
requests, the event with which it begins to, and from then on. -/
structure FirstLife (b : Build) (store : Store) where
  before : List Restarts.Event
  first : Restarts.Event
  after : List Restarts.Event
  goes : ∀ e ∈ before ++ first :: after, Goes e
  waits : (fromPowerOn b store before).rtu.serving = false
  serves : (fromPowerOn b store (before ++ [first])).rtu.serving = true

/-- A visit that the RTU does not notice. -/
def lostVisit : Restarts.Event → Option ControlLoop.Event
  | .master turn => if turn.fate.served then none else some (.master turn)
  | _ => none

/-- The measurement that a register holds. -/
def measurement (rtu : Boot.State) (k : Fin 3) : ControlLoop.Event :=
  .sensor k (floatWord (load rtu.store .input (4 * k)))

/-- What leads the control loop to an RTU that has booted: its three measurements, and the first
read of an iteration of `runMotor` that has made no other. -/
def bootHistory (rtu : Boot.State) : List ControlLoop.Event :=
  (List.finRange 3).map (measurement rtu) ++ if rtu.driving then [.motor] else []

namespace FirstLife

variable (life : FirstLife b store)

def events : List Restarts.Event := life.before ++ life.first :: life.after

/-- The system when the RTU begins to serve requests. -/
def booted : Restarts.System := fromPowerOn b store (life.before ++ [life.first])

/-- The control loop starts with the master's structures at power-on and with the motor as the boot
leaves it, when the writes left of a call are made. -/
def launch : Launch where
  store := store
  build := b
  hw := life.booted.rtu.pending.foldl Write.apply life.booted.rtu.hw

/-- Its history: the visits during the boot, what the boot leaves, and the events since. -/
def history : List ControlLoop.Event :=
  (life.before ++ [life.first]).filterMap lostVisit ++ bootHistory life.booted.rtu ++
    seen (Restarts.step b) loopEvent life.booted life.after

/-- A schedule of the control loop that begins with it. -/
def loopSchedule (k : ℕ) : ControlLoop.Event := life.history.getD k .motor

end FirstLife

/-- The control loop with these structures and this RTU, where the master has not begun. -/
def launched (store : Store) (rtu : Rtu) : ControlLoop.System := { master := { store }, rtu }

/-- While the RTU boots, the master only has visits that the RTU does not notice, and has them in
the control loop too. -/
structure Waits (b : Build) (store : Store) (events : List Restarts.Event) : Prop where
  setUp : SetUp b.layout (fromPowerOn b store events).rtu
  zeroed : Zeroed (fromPowerOn b store events).rtu
  visits : ∀ rtu, (events.filterMap lostVisit).foldl ControlLoop.step (launched store rtu) =
    { master := (fromPowerOn b store events).master
      cid := (fromPowerOn b store events).cid
      rtu }

/-- A lost request brings no bytes and changes nothing. -/
private theorem answers_lost (lost : turn.fate.served = false) (s : ControlLoop.System) :
    s.answers turn = ⟨turn.info, turn.fate.code, fun _ => 0⟩ ∧ s.carryOut turn = s.rtu := by
  obtain ⟨info, fate⟩ := turn
  cases fate with
  | answered others => cases lost
  | unanswered failure => cases lost
  | lost failure =>
    refine ⟨rfl, ?_⟩
    unfold ControlLoop.System.carryOut
    split <;> simp [Fate.served]

/-- The visit does not depend on the RTU. -/
private theorem visit_reached (lost : turn.fate.served = false) (rtu : Rtu) (s : Restarts.System) :
    ControlLoop.step { master := s.master, cid := s.cid, rtu } (.master turn) =
      { master := (s.visit b turn).master, cid := (s.visit b turn).cid, rtu } := by
  unfold Restarts.System.visit
  dsimp only
  by_cases stops : s.master.err = EspIdf.espErrNotFound
  · rw [step_stopped turn stops, step_stopped (s := s.loop b) turn stops]
    rfl
  · rw [step_visit turn stops, step_visit (s := s.loop b) turn stops]
    simp only [answers_lost lost]
    rfl

/-- Three measurements make any first three input registers. -/
private theorem measured_input (rtu : Rtu) (store : Store)
    (same : ∀ area k, ¬ (area = .input ∧ k < 12) → store area k = rtu.store area k) :
    ((rtu.readINA 0 (floatWord (load store .input 0))).readINA 1
      (floatWord (load store .input 4))).readINA 2 (floatWord (load store .input 8)) =
      { rtu with store } := by
  simp only [Rtu.readINA, float_bytes_word]
  congr 1
  funext area k
  simp only [Fin.val_zero, Fin.val_one, Fin.val_two, Nat.mul_zero, Nat.mul_one, Nat.reduceMul,
    store_load]
  by_cases here : area = .input ∧ k < 12
  · obtain ⟨rfl, below⟩ := here
    simp only [eq_self, true_and]
    split_ifs <;> first | rfl | omega
  · rw [same area k here]
    split_ifs <;> rfl

private theorem from_power_on_snoc (events : List Restarts.Event) (e : Restarts.Event) :
    fromPowerOn b store (events ++ [e]) = Restarts.step b (fromPowerOn b store events) e := by
  rw [fromPowerOn, List.foldl_append]
  rfl

/-- **One event** while the RTU does not serve changes its structures as a boot does, and the
master as the control loop does. -/
private theorem waits_step (s : Restarts.System) (e : Restarts.Event) (goes : Goes e)
    (setUp : SetUp b.layout s.rtu) (zeroed : Zeroed s.rtu) (idle : s.rtu.serving = false)
    (rtu : Rtu) :
    Zeroed (Restarts.step b s e).rtu ∧
      (lostVisit e).toList.foldl ControlLoop.step { master := s.master, cid := s.cid, rtu } =
        { master := (Restarts.step b s e).master, cid := (Restarts.step b s e).cid, rtu } := by
  cases e with
  | master turn =>
    cases served : turn.fate.served with
    | true =>
      have stays : Restarts.step b s (.master turn) = s := if_pos ⟨served, idle⟩
      have none : lostVisit (.master turn) = none := if_pos served
      rw [stays, none]
      exact ⟨zeroed, rfl⟩
    | false =>
      have visits : Restarts.step b s (.master turn) = s.visit b turn :=
        step_master fun reached => nomatch served.symm.trans reached
      have lost : lostVisit (.master turn) = some (.master turn) := if_neg (by simp [served])
      rw [visits, lost, visit_lost b s served]
      exact ⟨zeroed, visit_reached served rtu s⟩
  | rtu e => exact ⟨zeroed_step e setUp zeroed, rfl⟩
  | masterRestarts store => exact goes.elim
  | rtuRestarts => exact goes.elim

private theorem waits_snoc (events : List Restarts.Event) (e : Restarts.Event) (goes : Goes e)
    (idle : (fromPowerOn b store events).rtu.serving = false) (waits : Waits b store events) :
    Waits b store (events ++ [e]) := by
  have step := waits_step _ e goes waits.setUp waits.zeroed idle
  constructor
  case setUp => exact from_power_on_snoc events e ▸ Restarts.set_up_step _ e waits.setUp
  case zeroed =>
    exact from_power_on_snoc events e ▸ (step ⟨setupStore, b, initialHardware, false⟩).1
  case visits =>
    intro rtu
    have last : [e].filterMap lostVisit = (lostVisit e).toList := by
      cases lost : lostVisit e <;> simp [lost]
    rw [List.filterMap_append, List.foldl_append, waits.visits rtu, last, (step rtu).2,
      from_power_on_snoc]

/-- All events before the RTU serves. -/
theorem waits_from_power_on (events : List Restarts.Event) (goes : ∀ e ∈ events, Goes e)
    (idle : (fromPowerOn b store events).rtu.serving = false) : Waits b store events := by
  induction events using List.reverseRecOn with
  | nil => exact ⟨set_up_power_on b.layout, fun _ _ _ _ => rfl, fun _ => rfl⟩
  | append_singleton events e ih =>
    have here : Goes e := goes e (by simp)
    have earlier : ∀ e ∈ events, Goes e := fun e member => goes e (by simp [member])
    have setUp : SetUp b.layout (fromPowerOn b store events).rtu :=
      foldl_invariant Restarts.set_up_step events (set_up_power_on b.layout)
    -- An RTU that serves goes on to.
    have before : (fromPowerOn b store events).rtu.serving = false := by
      by_contra serving
      have serves := serves_step _ e here ⟨setUp, by simpa using serving⟩
      rw [from_power_on_snoc, serves.serving] at idle
      cases idle
    exact waits_snoc events e here before (ih earlier before)

/-- The control loop comes to what the boot leaves: with this motor, after measurements of what
the registers hold, and where `runMotor` is between its two reads, after the first. -/
theorem boot_history (booted : Restarts.System) (zeroed : Zeroed booted.rtu)
    (complete : Complete b.layout booted.rtu) (launch : Launch) (build : launch.build = b)
    (hw : launch.hw = booted.rtu.pending.foldl Write.apply booted.rtu.hw) :
    (bootHistory booted.rtu).foldl ControlLoop.step
        { master := booted.master, cid := booted.cid, rtu := launch.start.rtu } =
      booted.loop b := by
  have same : ∀ area k, ¬ (area = .input ∧ k < 12) →
      booted.rtu.store area k = launch.start.rtu.store area k := by
    intro area k unmeasured
    by_cases coil : area = .coil
    · rw [coil, complete.coils]
      rfl
    · rw [zeroed area k coil unmeasured]
      simp [Launch.start, setupStore, coil]
  have measures : ((List.finRange 3).map (measurement booted.rtu)).foldl ControlLoop.step
        { master := booted.master, cid := booted.cid, rtu := launch.start.rtu } =
      { master := booted.master, cid := booted.cid,
        rtu := { launch.start.rtu with store := booted.rtu.store } } :=
    congrArg (ControlLoop.System.mk booted.master booted.cid)
      (measured_input launch.start.rtu booted.rtu.store same)
  rw [bootHistory, List.foldl_append, measures]
  cases driving : booted.rtu.driving with
  | false => simp [System.loop, Launch.start, driving, build, hw]
  | true =>
    simp [System.loop, Launch.start, ControlLoop.step, Rtu.runMotor, Rtu.motor, Motor.runMotor,
      driving, build, hw, complete.coils, setupStore]

/-- The history of a life leads the control loop to the same state. -/
theorem life_history (life : FirstLife b store) :
    System.loop b (fromPowerOn b store life.events) =
      life.history.foldl ControlLoop.step life.launch.start := by
  have goes := life.goes
  have earlier : ∀ e ∈ life.before, Goes e := fun e member => goes e (by simp [member])
  have first : Goes life.first := goes life.first (by simp)
  have later : ∀ e ∈ life.after, Goes e := fun e member => goes e (by simp [member])
  have waits := waits_from_power_on life.before earlier life.waits
  have booted := waits_snoc life.before life.first first life.waits waits
  have complete : Complete b.layout life.booted.rtu :=
    complete_of_serving booted.setUp life.serves
  have whole : fromPowerOn b store life.events =
      life.after.foldl (Restarts.step b) life.booted := by
    simp [FirstLife.events, FirstLife.booted, fromPowerOn]
  have runs : System.loop b (life.after.foldl (Restarts.step b) life.booted) =
      (seen (Restarts.step b) loopEvent life.booted life.after).foldl ControlLoop.step
        (life.booted.loop b) :=
    (simulates_loop b).run life.after later ⟨booted.setUp, life.serves⟩
  have visits : ((life.before ++ [life.first]).filterMap lostVisit).foldl ControlLoop.step
      life.launch.start = ⟨life.booted.master, life.booted.cid, life.launch.start.rtu⟩ :=
    booted.visits life.launch.start.rtu
  have boots := boot_history life.booted booted.zeroed complete life.launch rfl rfl
  rw [whole, runs, FirstLife.history, List.foldl_append, List.foldl_append, visits, boots]

/-- **The first life.** As long as neither firmware restarts, from the moment at which the RTU
serves requests the system is where the control loop comes to that starts with the master's
structures and with the motor as the boot leaves it, and has the history of that life: what holds
in every run of it holds of the firmwares from power-on, with the writes left of a call taken as
made. -/
theorem first_life_is_run (b : Build) (store : Store) (schedule : ℕ → Restarts.Event) (t : ℕ)
    (goes : ∀ k < t, Goes (schedule k))
    (serving : (Restarts.run b store schedule t).rtu.serving = true) :
    ∃ life : FirstLife b store, life.events = (List.range t).map schedule ∧
      System.loop b (Restarts.run b store schedule t) =
        ControlLoop.run life.launch life.loopSchedule life.history.length := by
  have events : ∀ e ∈ (List.range t).map schedule, Goes e := by
    intro e member
    obtain ⟨k, within, rfl⟩ := List.mem_map.mp member
    exact goes k (List.mem_range.mp within)
  have whole : Restarts.run b store schedule t =
      fromPowerOn b store ((List.range t).map schedule) := states_eq_foldl schedule t
  rw [whole] at serving
  obtain ⟨before, first, after, split, waits, serves⟩ := exists_first
    (Restarts.step b) (fun s => s.rtu.serving = true) _ (by simp [start, powerOn]) serving
  have idle : (fromPowerOn b store before).rtu.serving = false := eq_false_of_ne_true waits
  let life : FirstLife b store := ⟨before, first, after, split ▸ events, idle, serves⟩
  refine ⟨life, split.symm, ?_⟩
  rw [whole, split]
  exact (life_history life).trans (states_getD life.history .motor).symm

/-- The master loses its first request, the RTU boots, and the motor task drives. -/
def firstSteps (k : ℕ) : Restarts.Event :=
  if k = 0 then .master ⟨EspIdf.espOk, .lost timeout⟩
  else if k < 34 then .rtu (.main true)
  else .rtu .motor

theorem first_steps_are_run : ∃ life : FirstLife committedBuild (fun _ _ => 0),
    life.events = (List.range 37).map firstSteps ∧
      System.loop committedBuild (Restarts.run committedBuild (fun _ _ => 0) firstSteps 37) =
        ControlLoop.run life.launch life.loopSchedule life.history.length :=
  first_life_is_run committedBuild (fun _ _ => 0) firstSteps 37
    (fun k _ => by unfold firstSteps; split_ifs <;> trivial) (by decide)

end PowerMonitor.LoopRefinement
