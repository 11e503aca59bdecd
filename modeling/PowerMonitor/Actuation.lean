import PowerMonitor.ControlLoop

/-! From the master's duty cycle to the motor. The RTU's `holding_data1` is a copy of the duty
cycle of the master, refreshed by every request that reaches the RTU, and the duty of the motor
is a copy of `holding_data1`, refreshed by `runMotor`. -/
namespace PowerMonitor.Actuation
open EspIdf Dictionary ByteMemory MasterRead MasterVisit FailedTransfers ControlLoop DelayedCopy
open Binary32 (ofNat)

variable {s : System} {e : Event} {turn turn' : Turn} {d other : Entry}
  {m : MasterRead.State} {cid : Cid} {a : Answers}

/-! ## The holding registers of the RTU -/

/-- A step requests one entry. -/
theorem requests_unique (first : Requests s e turn d) (second : Requests s e turn' other) :
    turn = turn' ∧ d = other := by
  obtain ⟨rfl, _, requested⟩ := first
  obtain ⟨same, _, requested'⟩ := second
  obtain rfl := Event.master.inj same
  exact ⟨rfl, Option.some.inj (requested.symm.trans requested')⟩

private theorem sets_unique (first : Sets s e d) (second : Sets s e other) : d = other := by
  obtain ⟨_, requests, _⟩ := first
  obtain ⟨_, requests', _⟩ := second
  exact (requests_unique requests requests').2

theorem holding_area (holding : d.val.mbParamType = .holding) : d.data.1 = .holding := by
  rcases holding_cases holding with rfl | rfl <;> rfl

/-- A request that is carried out leaves the master's bytes in the entry's registers. -/
theorem field_set (sets : Sets s e d) :
    load (step s e).rtu.store d.data.1 d.data.2 = writtenBytes s.master d := by
  have rtu := rtu_step s e
  generalize (step s e).rtu = after at rtu ⊢
  cases rtu with
  | set turn other sets' =>
    obtain rfl := sets_unique sets sets'
    exact load_store_same _ _ _ _
  | keep turn none => exact absurd sets (none d)
  | motor => obtain ⟨_, ⟨same, _⟩, _⟩ := sets; cases same
  | sensor k word => obtain ⟨_, ⟨same, _⟩, _⟩ := sets; cases same

/-- No other step changes them. -/
theorem field_kept (holding : d.val.mbParamType = .holding) (none : ¬ Sets s e d) :
    (load (step s e).rtu.store d.data.1 d.data.2 : FloatBytes) =
      load s.rtu.store d.data.1 d.data.2 := by
  have rtu := rtu_step s e
  generalize (step s e).rtu = after at rtu ⊢
  cases rtu with
  | set turn other sets =>
    apply load_store_apart
    exact holding_apart holding fun same => none (same ▸ sets)
  | keep => rfl
  | motor => rfl
  | sensor k word =>
    apply load_store_apart
    rw [holding_area holding]
    exact Or.inl (by decide)

/-- The coils are never written. -/
theorem coils_kept (s : System) (e : Event) :
    (step s e).rtu.store .coil = s.rtu.store .coil := by
  have rtu := rtu_step s e
  generalize (step s e).rtu = after at rtu ⊢
  cases rtu with
  | set turn d sets =>
    obtain ⟨_, _, holding, _⟩ := sets
    funext k
    apply store_outside
    rintro ⟨coil, _⟩
    rw [holding_area holding] at coil
    cases coil
  | keep => rfl
  | motor => rfl
  | sensor field word =>
    funext k
    simp [Rtu.readINA, ByteMemory.store]

/-! ## The duty cycle of the master -/

/-- Every request for the duty cycle is for the next one. -/
theorem duty_requested (requests : Requests s e turn dutyEntry) :
    (step s e).master.duty = nextDuty s.master.duty := by
  have master := master_step s e
  obtain ⟨rfl, goes, requested⟩ := requests
  generalize (step s (.master turn)).master = after at master ⊢
  cases master with
  | request _ d _ requests did =>
    obtain ⟨_, rfl⟩ := requests_unique ⟨rfl, goes, requested⟩ requests
    exact did.duty
  | unused _ _ none => exact nomatch none.symm.trans requested
  | stopped _ stops => exact absurd stops goes

theorem duty_kept (none : ∀ turn, ¬ Requests s e turn dutyEntry) :
    (step s e).master.duty = s.master.duty := by
  have master := master_step s e
  generalize (step s e).master = after at master ⊢
  cases master with
  | request turn d m requests did =>
    have distinct : ¬ (d.val.mbParamType = .holding ∧ d.val.cid = cidDutyCycle) := by
      intro written
      obtain rfl := (duty_entry_iff d).mp written
      exact none turn requests
    rw [did.duty, if_neg distinct]
    rfl
  | unused => rfl
  | stopped => rfl
  | motor => rfl
  | sensor => rfl

/-- The duty cycles the task may have. -/
structure Possible (duty : Nat) : Prop where
  least : 20 ≤ duty
  most : duty ≤ 40
  even : duty % 2 = 0

theorem possible_first : Possible 20 := ⟨by decide, by decide, by decide⟩

theorem possible_next (possible : Possible duty) : Possible (nextDuty duty) := by
  obtain ⟨least, most, even⟩ := possible
  unfold nextDuty
  dsimp only
  split <;> constructor <;> omega

theorem possible_step (s : System) (e : Event) (possible : Possible s.master.duty) :
    Possible (step s e).master.duty := by
  by_cases requested : ∃ turn, Requests s e turn dutyEntry
  · obtain ⟨turn, requests⟩ := requested
    rw [duty_requested requests]
    exact possible_next possible
  · rw [duty_kept (not_exists.mp requested)]
    exact possible

/-- A duty cycle is within the limits of `runMotor`, or is the zero of `setup_reg_data`. -/
theorem limit_duty_of_le (most : duty ≤ 40) : Motor.limitDuty (ofNat duty) = ofNat duty := by
  have every : ∀ d : Fin 41, Motor.limitDuty (ofNat d) = ofNat d := by decide
  exact every ⟨duty, by omega⟩

/-! ## The motor -/

/-- The word in `holding_data1` of the RTU. -/
def dutyWord (s : System) : UInt32 := floatWord (holdingData1 s.rtu.store)

/-- The motor turning forward with the duty of the register. -/
def drivenWith (word : UInt32) : Motor.Hardware := ⟨1, 0, Motor.limitDuty word⟩

private theorem drives_hardware (drives : Drives s e) :
    (step s e).rtu.hw = drivenWith (dutyWord (step s e)) := by
  obtain ⟨rfl, driving⟩ := drives
  simp [step, Rtu.runMotor, Motor.runMotor, Rtu.motor, driving, dutyWord, drivenWith,
    Motor.setSpeedDir]

/-- While the first coils are not all clear, nothing else changes the motor. -/
private theorem hardware_kept (coils : s.rtu.store .coil 0 ≠ 0) (none : ¬ Drives s e) :
    (step s e).rtu.hw = s.rtu.hw := by
  have rtu := rtu_step s e
  generalize (step s e).rtu = after at rtu ⊢
  cases rtu with
  | set => rfl
  | keep => rfl
  | motor =>
    have idle : s.rtu.driving = false := by simpa [Drives] using none
    simp [Rtu.runMotor, Motor.runMotor, Rtu.motor, idle, coils]
  | sensor => rfl

/-- A request that is carried out brings the register up to date. -/
theorem duty_word_set (sets : Sets s e dutyEntry) :
    dutyWord (step s e) = ofNat (step s e).master.duty := by
  obtain ⟨turn, requests, served⟩ := sets
  have written : holdingData1 (step s e).rtu.store = floatBytes (ofNat (nextDuty s.master.duty)) :=
    field_set ⟨turn, requests, served⟩
  rw [dutyWord, written, float_word_bytes, duty_requested requests]

theorem duty_word_kept (none : ¬ Sets s e dutyEntry) : dutyWord (step s e) = dutyWord s :=
  congrArg floatWord (field_kept rfl none)

/-! ## The coils at the master -/

/-- A coil entry is of one byte, and its log tests bit 0. -/
theorem coil_entry (coil : d.val.mbParamType = .coil) : d.data.1 = .coil ∧ d.data.2 < 2 ∧
    transferSize d = 2 ∧ Rtu.answerSize d = 1 ∧ d.val.paramOpts.opt1.toNat = 1 := by
  have every : ∀ cid : Cid, (entryOf cid).val.mbParamType = .coil →
      (entryOf cid).data.1 = .coil ∧ (entryOf cid).data.2 < 2 ∧ transferSize (entryOf cid) = 2 ∧
        Rtu.answerSize (entryOf cid) = 1 ∧ (entryOf cid).val.paramOpts.opt1.toNat = 1 := by decide
  obtain ⟨cid, rfl⟩ := entry_of_cid d
  exact every cid coil

/-- A successful poll of a coil entry shows bit 0 of what was received. -/
theorem coil_shown (entry : used m cid a = some d) (coil : d.val.mbParamType = .coil)
    (ok : a.transfer = espOk) : (m.visit cid a).shown =
      some (d, if (a.received 0).toNat % 2 = 1 then "ON" else "OFF") := by
  obtain ⟨_, _, size, _, mask⟩ := coil_entry coil
  rw [visit_eq, entry]
  simp only [State.pollEntry, coil, State.readCoil, State.readEntry, State.getParameter, ok,
    State.storeFloat, State.loadU16, if_true]
  rw [load_store_start (n := 2) _ _ _ _ (by decide) 0]
  simp [rwStr, mask, overlay, size]

theorem shown_on (gets : Gets s e d) (coil : d.val.mbParamType = .coil)
    (set : s.rtu.store .coil = setupStore .coil) : (step s e).master.shown = some (d, "ON") := by
  obtain ⟨turn, others, ⟨rfl, goes, requested⟩, _, answered⟩ := gets
  obtain ⟨area, inside, _, size, _⟩ := coil_entry coil
  have received : (s.answers turn).received = s.rtu.getEntry d others := by
    simp [System.answers, System.received, answered, requested]
  have byte : (s.answers turn).received 0 = 1 := by
    rw [received, get_entry_eq, area]
    simp only [overlay, size, load, set, setupStore]
    simp [inside]
  rw [step_visit turn goes]
  dsimp only
  rw [coil_shown (show used s.master s.cid (s.answers turn) = some d from requested) coil
    (by simp [System.answers, answered, Fate.code]), byte]
  rfl

/-! ## Runs -/

theorem coils_run (launch : Launch) (schedule : ℕ → Event) (t : ℕ) :
    (run launch schedule t).rtu.store .coil = setupStore .coil :=
  states_invariant (motive := fun s : System => s.rtu.store .coil = setupStore .coil) schedule
    (fun s e kept => (coils_kept s e).trans kept) rfl t

private theorem coils_set (launch : Launch) (schedule : ℕ → Event) (t : ℕ) :
    (run launch schedule t).rtu.store .coil 0 ≠ 0 := by
  rw [coils_run]
  decide

theorem possible_run (launch : Launch) (schedule : ℕ → Event) (t : ℕ) :
    Possible (run launch schedule t).master.duty :=
  states_invariant (motive := fun s : System => Possible s.master.duty) schedule possible_step
    possible_first t

/-- The register is a copy of the master's duty cycle. -/
private theorem register_refreshed (launch : Launch) (schedule : ℕ → Event) :
    Refreshed (fun t => Sets (run launch schedule t) (schedule t) dutyEntry)
      (fun t => ofNat (run launch schedule t).master.duty)
      (fun t => dutyWord (run launch schedule t)) where
  taken _ sets := duty_word_set sets
  kept _ none := duty_word_kept none

/-- The motor is a copy of the register. -/
theorem motor_refreshed (launch : Launch) (schedule : ℕ → Event) :
    Refreshed (fun t => Drives (run launch schedule t) (schedule t))
      (fun t => drivenWith (dutyWord (run launch schedule t)))
      (fun t => (run launch schedule t).rtu.hw) where
  taken _ drives := drives_hardware drives
  kept t none := hardware_kept (coils_set launch schedule t) none

/-- Whatever the order of the steps and whatever the connection loses, the motor's duty is
always one the master had before, and in the order in which it had them; before the first one,
it is what the motor started with or zero. A request that reaches the RTU shows from the next
time on that `runMotor` reads the register. -/
theorem motor_trails_requests (launch : Launch) (schedule : ℕ → Event) : ∃ sampled,
    Trails {launch.hw.duty, ofNat 0} sampled
      (fun t => ofNat (run launch schedule t).master.duty)
      (fun t => (run launch schedule t).rtu.hw.duty) ∧
    ∀ k m t, Sets (run launch schedule k) (schedule k) dutyEntry →
      Drives (run launch schedule m) (schedule m) → k ≤ m → m < t → k < sampled t := by
  classical
  have register := trails_of_refreshed (register_refreshed launch schedule)
  have motor := (trails_of_refreshed (motor_refreshed launch schedule)).map Motor.Hardware.duty
  have limited : Motor.limitDuty ∘ (fun t => ofNat (run launch schedule t).master.duty) =
      fun t => ofNat (run launch schedule t).master.duty :=
    funext fun t => limit_duty_of_le (possible_run launch schedule t).most
  have both := (register.map Motor.limitDuty).trans motor
  rw [limited] at both
  refine ⟨_, both.weaken ?_, fun k m t sets drives between later =>
    latest_through sets drives between later⟩
  rintro duty (⟨word, rfl, rfl⟩ | ⟨hw, rfl, rfl⟩)
  · have zero : Motor.limitDuty (floatWord (holdingData1 setupStore)) = ofNat 0 := by decide
    exact Or.inr zero
  · exact Or.inl rfl

/-- The register always holds a duty cycle the master can have, or its first zero. -/
private theorem duty_word_run (launch : Launch) (schedule : ℕ → Event) (t : ℕ) :
    ∃ duty, (duty = 0 ∨ Possible duty) ∧ dutyWord (run launch schedule t) = ofNat duty := by
  classical
  refine (trails_of_refreshed (register_refreshed launch schedule)).invariant
    (motive := fun word => ∃ duty, (duty = 0 ∨ Possible duty) ∧ word = ofNat duty) ?_ ?_ t
  · rintro word rfl
    have zero : floatWord (holdingData1 setupStore) = ofNat 0 := by decide
    exact ⟨0, Or.inl rfl, zero⟩
  · exact fun k => ⟨_, Or.inr (possible_run launch schedule k), rfl⟩

/-- The motor is driven forward with a small duty. -/
def Driven (hw : Motor.Hardware) : Prop :=
  hw.in1 = 1 ∧ hw.in2 = 0 ∧ ∃ duty, (duty = 0 ∨ Possible duty) ∧ hw.duty = ofNat duty

/-- What every state of a run says about the motor, and what the next step shows of it. -/
structure Supervised (launch : Launch) (schedule : ℕ → Event) (t : ℕ) : Prop where
  untouched : (∀ k < t, ¬ Drives (run launch schedule k) (schedule k)) →
    (run launch schedule t).rtu.hw = launch.hw
  driven : ∀ k < t, Drives (run launch schedule k) (schedule k) →
    Driven (run launch schedule t).rtu.hw
  shown : ∀ d : Entry, d.val.mbParamType = .coil →
    Gets (run launch schedule t) (schedule t) d →
    (run launch schedule (t + 1)).master.shown = some (d, "ON")

private theorem driven_of_drives (launch : Launch) (schedule : ℕ → Event) (t : ℕ)
    (drives : Drives (run launch schedule t) (schedule t)) :
    Driven (run launch schedule (t + 1)).rtu.hw := by
  obtain ⟨duty, possible, word⟩ := duty_word_run launch schedule (t + 1)
  have most : duty ≤ 40 := by
    rcases possible with rfl | possible
    · exact Nat.zero_le 40
    · exact possible.most
  have hw : (run launch schedule (t + 1)).rtu.hw =
      drivenWith (dutyWord (run launch schedule (t + 1))) := drives_hardware drives
  rw [hw, word, drivenWith, limit_duty_of_le most]
  exact ⟨rfl, rfl, duty, possible, rfl⟩

/-- Whatever the order of the steps and whatever the connection loses, once `runMotor` has read
the register the motor is never stopped nor reversed and gets a duty of at most 40, and every
motor state or alarm the master polls is on. -/
theorem motor_supervised (launch : Launch) (schedule : ℕ → Event) (t : ℕ) :
    Supervised launch schedule t := by
  have still (k : ℕ) (none : ¬ Drives (run launch schedule k) (schedule k)) :
      (run launch schedule (k + 1)).rtu.hw = (run launch schedule k).rtu.hw :=
    hardware_kept (coils_set launch schedule k) none
  refine ⟨?_, ?_, fun d coil gets => shown_on gets coil (coils_run launch schedule t)⟩
  · induction t with
    | zero => exact fun _ => rfl
    | succ t ih =>
      intro none
      rw [still t (none t (Nat.lt_succ_self t))]
      exact ih fun k earlier => none k (Nat.lt_succ_of_lt earlier)
  · induction t with
    | zero => exact fun k earlier => absurd earlier (Nat.not_lt_zero k)
    | succ t ih =>
      intro k earlier drives
      by_cases now : Drives (run launch schedule t) (schedule t)
      · exact driven_of_drives launch schedule t now
      · have before : k < t := by
          refine Nat.lt_of_le_of_ne (Nat.le_of_lt_succ earlier) ?_
          rintro rfl
          exact now drives
        rw [still t now]
        exact ih k before drives

end PowerMonitor.Actuation
