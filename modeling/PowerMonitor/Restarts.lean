import PowerMonitor.Actuation
import PowerMonitor.Boot

/-! The two firmwares with restarts. The RTU is here what it is while it boots, and goes on as
that: `app_main` statement by statement, and the motor driver write by write. Either firmware
may restart at any moment, the RTU also between two writes of one call: a failed
`ESP_ERROR_CHECK` restarts it, and so does a loss of power. -/
namespace PowerMonitor.Restarts
open Dictionary ByteMemory MasterRead MasterVisit FailedTransfers RegisterMap ControlLoop
open DelayedCopy HBridge Boot Actuation
open Binary32 (ofNat)

/-- The state of both firmwares. -/
structure System where
  master : MasterRead.State
  cid : Cid := 0
  rtu : Boot.State

namespace System

/-- The system as the control loop has it, where `runMotor` makes the writes of a call at once. -/
def loop (b : Build) (s : System) : ControlLoop.System where
  master := s.master
  cid := s.cid
  rtu := {
    store := s.rtu.store
    build := b
    hw := s.rtu.pending.foldl Write.apply s.rtu.hw
    driving := s.rtu.driving }

/-- A visit of the master. -/
def visit (b : Build) (s : System) (turn : Turn) : System :=
  let after := ControlLoop.step (s.loop b) (.master turn)
  { master := after.master, cid := after.cid, rtu := { s.rtu with store := after.rtu.store } }

end System

inductive Event where
  | master (turn : Turn)
  | rtu (e : Boot.Event)
  /-- The master's structures may hold anything then. -/
  | masterRestarts (store : Store)
  /-- The motor's pins are then as at power-on. -/
  | rtuRestarts

/-- No request reaches an RTU whose stack does not serve yet. -/
def step (b : Build) (s : System) : Event → System
  | .master turn =>
    if turn.fate.served = true ∧ s.rtu.serving = false then s else s.visit b turn
  | .rtu e => { s with rtu := Boot.step s.rtu e }
  | .masterRestarts store => { s with master := { store }, cid := 0 }
  | .rtuRestarts => { s with rtu := powerOn b.layout }

def start (b : Build) (store : Store) : System where
  master := { store }
  rtu := powerOn b.layout

/-- The system after `t` steps. -/
def run (b : Build) (store : Store) (schedule : ℕ → Event) (t : ℕ) : System :=
  states (step b) (start b store) schedule t

variable {b : Build} {s : System} {e : Event} {turn : Turn} {d : Entry}
  {store : Store} {schedule : ℕ → Event} {t : ℕ}

/-! ## What a step does -/

/-- The RTU carries out a request to set the entry. -/
def CarriesOut (b : Build) (s : System) (e : Event) (d : Entry) : Prop :=
  s.rtu.serving = true ∧ ∃ turn, e = .master turn ∧ Sets (s.loop b) (.master turn) d

/-- The master gets an answer for the entry. -/
def Answered (b : Build) (s : System) (e : Event) (d : Entry) : Prop :=
  s.rtu.serving = true ∧ ∃ turn, e = .master turn ∧ Gets (s.loop b) (.master turn) d

theorem step_master (reaches : turn.fate.served = true → s.rtu.serving = true) :
    step b s (.master turn) = s.visit b turn := by
  refine if_neg ?_
  rintro ⟨served, idle⟩
  rw [reaches served] at idle
  cases idle

/-- A request that can reach the RTU is carried out. -/
private theorem sets_carried_out (reaches : ¬ (turn.fate.served = true ∧ s.rtu.serving = false))
    (sets : Sets (s.loop b) (.master turn) d) : CarriesOut b s (.master turn) d := by
  refine ⟨?_, turn, rfl, sets⟩
  obtain ⟨_, ⟨same, _⟩, _, served⟩ := sets
  obtain rfl := ControlLoop.Event.master.inj same
  by_contra idle
  exact reaches ⟨served, by simpa using idle⟩

private theorem run_restart (restarts : schedule t = .rtuRestarts) :
    (run b store schedule (t + 1)).rtu = powerOn b.layout := by
  simp [run, states, step, restarts]

/-- A visit whose request does not reach the RTU leaves it as it is. -/
theorem visit_lost (b : Build) (s : System) (lost : turn.fate.served = false) :
    (s.visit b turn).rtu = s.rtu := by
  have rtu := rtu_step (s.loop b) (.master turn)
  unfold System.visit
  dsimp only
  generalize (ControlLoop.step (s.loop b) (.master turn)).rtu = after at rtu ⊢
  cases rtu with
  | set turn d sets =>
    obtain ⟨_, ⟨same, _⟩, _, served⟩ := sets
    obtain rfl := ControlLoop.Event.master.inj same
    exact nomatch lost.symm.trans served
  | keep => rfl

/-- A visit leaves the RTU's coils as they are. -/
private theorem visit_coils (b : Build) (s : System) (turn : Turn) :
    (s.visit b turn).rtu.store .coil = s.rtu.store .coil :=
  coils_kept (s.loop b) (.master turn)

theorem set_up_step (s : System) (e : Event) (setUp : SetUp b.layout s.rtu) :
    SetUp b.layout (step b s e).rtu := by
  cases e with
  | master turn =>
    unfold step
    dsimp only
    split
    · exact setUp
    · exact { setUp with
        coils := fun k => (congrFun (visit_coils b s turn) k).trans (setUp.coils k) }
  | rtu e => exact Boot.set_up_step s.rtu e setUp
  | masterRestarts store => exact setUp
  | rtuRestarts => exact set_up_power_on b.layout

theorem possible_step (s : System) (e : Event) (possible : Possible s.master.duty) :
    Possible (step b s e).master.duty := by
  cases e with
  | master turn =>
    unfold step
    dsimp only
    split
    · exact possible
    · exact Actuation.possible_step (s.loop b) (.master turn) possible
  | rtu e => exact possible
  | masterRestarts store => exact possible_first
  | rtuRestarts => exact possible

/-! ## The motor -/

/-- The words of the duty cycles of the master, and zero. -/
def duties : Set UInt32 := { word | ∃ duty, (duty = 0 ∨ Possible duty) ∧ word = ofNat duty }

theorem duties_loop : Duties duties where
  zero := ⟨0, Or.inl rfl, rfl⟩
  twenty := ⟨20, Or.inr possible_first, rfl⟩
  limited := by
    rintro word ⟨duty, possible, rfl⟩
    refine ⟨duty, possible, limit_duty_of_le ?_⟩
    rcases possible with rfl | possible
    · exact Nat.zero_le 40
    · exact possible.most

/-- A visit that does not set the duty cycle. -/
private theorem within_visit_kept {allowed : Set UInt32}
    (none : ¬ Sets (s.loop b) (.master turn) dutyEntry) (within : Within allowed s.rtu) :
    Within allowed (s.visit b turn).rtu := by
  have kept : dutyWord (ControlLoop.step (s.loop b) (.master turn)) = dutyWord (s.loop b) :=
    duty_word_kept none
  have register : dutyWord (ControlLoop.step (s.loop b) (.master turn)) ∈ allowed := by
    rw [kept]
    exact within.register
  exact { within with register }

/-- A visit sets the register to a duty cycle of the master, or leaves it. -/
theorem register_visit {allowed : Set UInt32} (turn : Turn) (possible : Possible s.master.duty)
    (cycles : ∀ duty, Possible duty → ofNat duty ∈ allowed)
    (before : dutyWord (s.loop b) ∈ allowed) :
    dutyWord (ControlLoop.step (s.loop b) (.master turn)) ∈ allowed := by
  by_cases sets : Sets (s.loop b) (.master turn) dutyEntry
  · rw [duty_word_set sets]
    exact cycles _ (Actuation.possible_step (s.loop b) (.master turn) possible)
  · rw [duty_word_kept sets]
    exact before

/-- A visit writes no other duty to the register. -/
theorem within_visit (possible : Possible s.master.duty) (within : Within duties s.rtu) :
    Within duties (s.visit b turn).rtu := by
  have cycles : ∀ duty, Possible duty → ofNat duty ∈ duties :=
    fun duty cycle => ⟨duty, Or.inr cycle, rfl⟩
  exact { within with register := register_visit turn possible cycles within.register }

/-- What holds of every state. -/
structure Sound (b : Build) (s : System) : Prop where
  setUp : SetUp b.layout s.rtu
  possible : Possible s.master.duty
  within : Within duties s.rtu

theorem sound_step (s : System) (e : Event) (sound : Sound b s) : Sound b (step b s e) := by
  refine ⟨set_up_step s e sound.setUp, possible_step s e sound.possible, ?_⟩
  cases e with
  | master turn =>
    unfold step
    dsimp only
    split
    · exact sound.within
    · exact within_visit sound.possible sound.within
  | rtu e => exact within_step duties_loop e sound.setUp sound.within
  | masterRestarts store => exact sound.within
  | rtuRestarts => exact within_power_on duties_loop b.layout

theorem sound_run (b : Build) (store : Store) (schedule : ℕ → Event) (t : ℕ) :
    Sound b (run b store schedule t) :=
  states_invariant schedule sound_step
    ⟨set_up_power_on b.layout, possible_first, within_power_on duties_loop b.layout⟩ t

/-- What every state says about the motor, and what the next step shows of it. -/
structure Supervised (b : Build) (s : System) (e : Event) : Prop where
  forward : s.rtu.hw.in2 = 0
  duty : ∃ duty, (duty = 0 ∨ Possible duty) ∧ s.rtu.hw.duty = ofNat duty
  shown : ∀ d : Entry, d.val.mbParamType = .coil → Answered b s e d →
    (step b s e).master.shown = some (d, "ON")

private theorem answered_shown (setUp : SetUp b.layout s.rtu) (coil : d.val.mbParamType = .coil)
    (answered : Answered b s e d) : (step b s e).master.shown = some (d, "ON") := by
  obtain ⟨serving, turn, rfl, gets⟩ := answered
  have complete := complete_of_serving setUp serving
  rw [step_master fun _ => serving]
  exact shown_on gets coil complete.coils

/-- However often and whenever the two firmwares restart, and whatever the order of the steps and
the losses of the connection, the motor never turns backward, the inputs of its bridge are never
both high, its duty is zero or one of those the master counts through, and every motor state or
alarm the master gets is on. -/
theorem supervised_across_restarts (b : Build) (store : Store) (schedule : ℕ → Event) (t : ℕ) :
    Supervised b (run b store schedule t) (schedule t) := by
  have sound := sound_run b store schedule t
  exact ⟨sound.within.in2, sound.within.duty, fun d coil answered =>
    answered_shown sound.setUp coil answered⟩

/-! ## The registers -/

/-- The bytes of an entry in the RTU. -/
def field (s : System) (d : Entry) : FloatBytes := load s.rtu.store d.data.1 d.data.2

/-- Until the stack serves requests the structures are as `setup_reg_data` will leave them. -/
structure Forgetful (b : Build) (s : System) : Prop where
  setUp : SetUp b.layout s.rtu
  zeroed : s.rtu.serving = false → Zeroed s.rtu

private theorem zeroed_field (holding : d.val.mbParamType = .holding) (zeroed : Zeroed s.rtu) :
    field s d = fun _ => 0 := by
  funext i
  rw [field, holding_area holding]
  exact zeroed .holding _ (by decide) (by simp)

private theorem forgetful_step (s : System) (e : Event) (forgetful : Forgetful b s) :
    Forgetful b (step b s e) := by
  refine ⟨set_up_step s e forgetful.setUp, fun idle => ?_⟩
  cases e with
  | master turn =>
    unfold step at idle ⊢
    dsimp only at idle ⊢
    split
    · rename_i unreachable
      exact forgetful.zeroed unreachable.2
    · rename_i reaches
      rw [if_neg reaches] at idle
      have waiting : s.rtu.serving = false := idle
      have lost : turn.fate.served = false := by
        by_contra served
        exact reaches ⟨by simpa using served, waiting⟩
      rw [visit_lost b s lost]
      exact forgetful.zeroed waiting
  | rtu e =>
    by_cases serving : s.rtu.serving = true
    · have stays := serving_stays (complete_of_serving forgetful.setUp serving) serving e
      exact nomatch idle.symm.trans stays
    · exact zeroed_step e forgetful.setUp (forgetful.zeroed (by simpa using serving))
  | masterRestarts store => exact forgetful.zeroed idle
  | rtuRestarts => exact fun _ _ _ _ => rfl

theorem forgetful_run (b : Build) (store : Store) (schedule : ℕ → Event) (t : ℕ) :
    Forgetful b (run b store schedule t) :=
  states_invariant schedule forgetful_step ⟨set_up_power_on b.layout, fun _ _ _ _ _ => rfl⟩ t

/-- A request that is carried out leaves the master's bytes. -/
private theorem field_carried_out (carriesOut : CarriesOut b s e d) :
    field (step b s e) d = writtenBytes s.master d := by
  obtain ⟨serving, turn, rfl, sets⟩ := carriesOut
  rw [step_master fun _ => serving]
  exact field_set sets

/-- Nothing but such a request and a restart changes them. -/
private theorem field_stays (forgetful : Forgetful b s) (holding : d.val.mbParamType = .holding)
    (none : ¬ CarriesOut b s e d) (goes : e ≠ .rtuRestarts) :
    field (step b s e) d = field s d := by
  cases e with
  | master turn =>
    unfold step
    dsimp only
    split
    · rfl
    · rename_i reaches
      exact field_kept holding fun sets => none (sets_carried_out reaches sets)
  | rtu e =>
    by_cases serving : s.rtu.serving = true
    · have kept := holding_kept (complete_of_serving forgetful.setUp serving) e
      funext i
      simp only [field, load, step, holding_area holding]
      exact congrFun kept _
    · have zeroed := forgetful.zeroed (by simpa using serving)
      rw [zeroed_field holding zeroed]
      exact zeroed_field holding (zeroed_step e forgetful.setUp zeroed)
  | masterRestarts store => rfl
  | rtuRestarts => exact absurd rfl goes

/-- What the master writes is never zero. -/
private theorem written_bytes_nonzero (possible : Possible s.master.duty)
    (holding : d.val.mbParamType = .holding) : writtenBytes s.master d ≠ fun _ => 0 := by
  rcases holding_cases holding with rfl | rfl
  · have threshold : writtenBytes s.master thresholdEntry = threshold := rfl
    rw [threshold]
    decide
  · have next := possible_next possible
    intro zero
    have none : floatBytes (ofNat 0) = fun _ => 0 := funext float_bytes_zero
    have word : ofNat (nextDuty s.master.duty) = ofNat 0 :=
      float_bytes_injective (zero.trans none.symm)
    have same := Binary32.ofNat_injective (by have := next.most; omega) (by decide) word
    have := next.least
    omega

/-- The RTU has carried out a request to set the entry since it last started. -/
def Taken (b : Build) (store : Store) (schedule : ℕ → Event) (t : ℕ) (d : Entry) : Prop :=
  ∃ k < t, CarriesOut b (run b store schedule k) (schedule k) d ∧
    ∀ j, k < j → j < t → schedule j ≠ .rtuRestarts

private theorem taken_now (carriesOut : CarriesOut b (run b store schedule t) (schedule t) d) :
    Taken b store schedule (t + 1) d :=
  ⟨t, Nat.lt_succ_self t, carriesOut, fun j after before => by omega⟩

private theorem not_taken_restart (restarts : schedule t = .rtuRestarts) :
    ¬ Taken b store schedule (t + 1) d := by
  rintro ⟨k, before, carriesOut, none⟩
  rcases Nat.lt_succ_iff_lt_or_eq.mp before with earlier | rfl
  · exact none t earlier (Nat.lt_succ_self t) restarts
  · obtain ⟨_, _, master, _⟩ := carriesOut
    exact nomatch restarts.symm.trans master

private theorem taken_keeps (none : ¬ CarriesOut b (run b store schedule t) (schedule t) d)
    (goes : schedule t ≠ .rtuRestarts) :
    Taken b store schedule (t + 1) d ↔ Taken b store schedule t d := by
  constructor
  · rintro ⟨k, before, carriesOut, still⟩
    rcases Nat.lt_succ_iff_lt_or_eq.mp before with earlier | rfl
    · exact ⟨k, earlier, carriesOut, fun j after later => still j after (Nat.lt_succ_of_lt later)⟩
    · exact absurd carriesOut none
  · rintro ⟨k, before, carriesOut, still⟩
    refine ⟨k, Nat.lt_succ_of_lt before, carriesOut, fun j after later => ?_⟩
    rcases Nat.lt_succ_iff_lt_or_eq.mp later with earlier | rfl
    · exact still j after earlier
    · exact goes

/-- The field is zero until a request is carried out, and again from each restart. -/
theorem field_zero_iff (holding : d.val.mbParamType = .holding) (t : ℕ) :
    field (run b store schedule t) d = (fun _ => 0) ↔ ¬ Taken b store schedule t d := by
  induction t with
  | zero =>
    have none : ¬ Taken b store schedule 0 d := fun ⟨k, before, _⟩ => Nat.not_lt_zero k before
    exact iff_of_true (zeroed_field holding fun _ _ _ _ => rfl) none
  | succ t ih =>
    have sound := sound_run b store schedule t
    have forgetful := forgetful_run b store schedule t
    by_cases carriesOut : CarriesOut b (run b store schedule t) (schedule t) d
    · have now : field (run b store schedule (t + 1)) d = _ := field_carried_out carriesOut
      rw [now]
      exact iff_of_false (written_bytes_nonzero sound.possible holding)
        (not_not.mpr (taken_now carriesOut))
    by_cases restarts : schedule t = .rtuRestarts
    · refine iff_of_true (zeroed_field holding ?_) (not_taken_restart restarts)
      rw [run_restart restarts]
      exact fun _ _ _ _ => rfl
    · have still : field (run b store schedule (t + 1)) d = field (run b store schedule t) d :=
        field_stays forgetful holding carriesOut restarts
      rw [still, taken_keeps carriesOut restarts]
      exact ih

/-- It holds what the latest request carried out since then wrote. -/
theorem field_latest (holding : d.val.mbParamType = .holding)
    (carriesOut : CarriesOut b (run b store schedule k) (schedule k) d) (before : k < t)
    (none : ∀ j, k < j → j < t →
      ¬ CarriesOut b (run b store schedule j) (schedule j) d ∧ schedule j ≠ .rtuRestarts) :
    field (run b store schedule t) d = writtenBytes (run b store schedule k).master d := by
  induction t, before using Nat.le_induction with
  | base => exact field_carried_out carriesOut
  | succ t later ih =>
    obtain ⟨other, goes⟩ := none t later (Nat.lt_succ_self t)
    have still : field (run b store schedule (t + 1)) d = field (run b store schedule t) d :=
      field_stays (forgetful_run b store schedule t) holding other goes
    rw [still]
    exact ih fun j after earlier => none j after (Nat.lt_succ_of_lt earlier)

/-- A step that carries out no request for the duty cycle keeps the motor to the duties that
`app_main` and a zero in the register give. -/
private theorem first_duties_step (setUp : SetUp b.layout s.rtu)
    (none : ¬ CarriesOut b s e dutyEntry)
    (within : Within {ofNat 0, ofNat 20} s.rtu) :
    Within {ofNat 0, ofNat 20} (step b s e).rtu := by
  cases e with
  | master turn =>
    unfold step
    dsimp only
    split
    · exact within
    · rename_i reaches
      exact within_visit_kept (fun sets => none (sets_carried_out reaches sets)) within
  | rtu e => exact within_step duties_first e setUp within
  | masterRestarts store => exact within
  | rtuRestarts => exact within_power_on duties_first b.layout

theorem motor_until_taken (t : ℕ) (none : ¬ Taken b store schedule t dutyEntry) :
    Within {ofNat 0, ofNat 20} (run b store schedule t).rtu := by
  induction t with
  | zero => exact within_power_on duties_first b.layout
  | succ t ih =>
    have other : ¬ CarriesOut b (run b store schedule t) (schedule t) dutyEntry :=
      fun carriesOut => none (taken_now carriesOut)
    by_cases restarts : schedule t = .rtuRestarts
    · rw [run_restart restarts]
      exact within_power_on duties_first b.layout
    · rw [taken_keeps other restarts] at none
      exact first_duties_step (sound_run b store schedule t).setUp other (ih none)

/-- What a state says about the requests carried out since the RTU last started. -/
structure Forgets (b : Build) (store : Store) (schedule : ℕ → Event) (t : ℕ) : Prop where
  zero : ∀ d : Entry, d.val.mbParamType = .holding →
    (field (run b store schedule t) d = (fun _ => 0) ↔ ¬ Taken b store schedule t d)
  latest : ∀ d : Entry, d.val.mbParamType = .holding → ∀ k < t,
    CarriesOut b (run b store schedule k) (schedule k) d →
    (∀ j, k < j → j < t →
      ¬ CarriesOut b (run b store schedule j) (schedule j) d ∧ schedule j ≠ .rtuRestarts) →
    field (run b store schedule t) d = writtenBytes (run b store schedule k).master d
  motor : ¬ Taken b store schedule t dutyEntry →
    (run b store schedule t).rtu.hw.duty = ofNat 0 ∨
      (run b store schedule t).rtu.hw.duty = ofNat 20

/-- A restart of the RTU forgets all that the master has set. In every run a holding register is
zero exactly while no request for it was carried out since the last restart, and else what the
latest one wrote; and until the first request for the duty cycle the motor has the duty zero or
20, whatever duty it had before. -/
theorem restart_forgets (b : Build) (store : Store) (schedule : ℕ → Event) (t : ℕ) :
    Forgets b store schedule t where
  zero _ holding := field_zero_iff holding t
  latest _ holding _ before carriesOut none := field_latest holding carriesOut before none
  motor none := (motor_until_taken t none).duty

end PowerMonitor.Restarts
