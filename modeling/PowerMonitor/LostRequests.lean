import PowerMonitor.Actuation

/-! What lost requests leave behind. The master stores a holding entry whether or not the RTU
takes it, so the two copies of it part; and a master that has stopped leaves the motor
running. -/
namespace PowerMonitor.LostRequests
open EspIdf Dictionary ByteMemory MasterRead MasterVisit FailedTransfers ControlLoop DelayedCopy
open Actuation
open Binary32 (ofNat)

variable {s : System} {e : Event} {turn : Turn} {d : Entry}
variable {launch : Launch} {schedule : ℕ → Event} {k t : ℕ}

/-- The number of requests for the duty cycle so far. -/
def dutyRequests (s : System) : Nat := s.master.asked.count dutyEntry

/-- The task runs through the eleven duty cycles from 20 to 40. -/
def dutyAfter (requests : Nat) : Nat := 20 + 2 * (requests % 11)

private theorem next_duty_after (requests : Nat) :
    nextDuty (dutyAfter requests) = dutyAfter (requests + 1) := by
  unfold nextDuty dutyAfter
  dsimp only
  split <;> omega

private theorem asked_requested (requests : Requests s e turn d) :
    (step s e).master.asked = d :: s.master.asked := by
  have master := master_step s e
  obtain ⟨rfl, goes, requested⟩ := requests
  generalize (step s (.master turn)).master = after at master ⊢
  cases master with
  | request _ other _ requests did =>
    obtain ⟨_, rfl⟩ := requests_unique ⟨rfl, goes, requested⟩ requests
    exact did.asked
  | unused _ _ none => exact nomatch none.symm.trans requested
  | stopped _ stops => exact absurd stops goes

private theorem asked_kept (none : ∀ turn d, ¬ Requests s e turn d) :
    (step s e).master.asked = s.master.asked := by
  have master := master_step s e
  generalize (step s e).master = after at master ⊢
  cases master with
  | request turn d m requests => exact absurd requests (none turn d)
  | unused => rfl
  | stopped => rfl
  | motor => rfl
  | sensor => rfl

/-- The duty cycle tells the number of requests for it, up to multiples of eleven. -/
private theorem duty_after_step (s : System) (e : Event)
    (before : s.master.duty = dutyAfter (dutyRequests s)) :
    (step s e).master.duty = dutyAfter (dutyRequests (step s e)) := by
  by_cases requested : ∃ turn d, Requests s e turn d
  · obtain ⟨turn, d, requests⟩ := requested
    rw [dutyRequests, asked_requested requests]
    by_cases duty : d = dutyEntry
    · subst duty
      rw [duty_requested requests, before, next_duty_after, List.count_cons_self]
      rfl
    · have others : ∀ turn', ¬ Requests s e turn' dutyEntry :=
        fun turn' requests' => duty (requests_unique requests requests').2
      rw [duty_kept others, before, List.count_cons_of_ne duty]
      rfl
  · have none : ∀ turn d, ¬ Requests s e turn d :=
      fun turn d requests => requested ⟨turn, d, requests⟩
    rw [dutyRequests, asked_kept none, duty_kept fun turn => none turn dutyEntry]
    exact before

private theorem follows_step (s : System) (e : Event)
    (before : FollowsRequests launch.store s.master) :
    FollowsRequests launch.store (step s e).master := by
  cases e with
  | motor => exact before
  | sensor k word => exact before
  | master turn =>
    by_cases stopped : s.master.err = espErrNotFound
    · rw [step_stopped turn stopped]
      exact before
    · rw [step_visit turn stopped]
      exact follows_visit _ _ before

theorem duty_after_run (launch : Launch) (schedule : ℕ → Event) (t : ℕ) :
    (run launch schedule t).master.duty = dutyAfter (dutyRequests (run launch schedule t)) :=
  states_invariant (motive := fun s : System => s.master.duty = dutyAfter (dutyRequests s)) schedule
    duty_after_step rfl t

theorem follows_run (launch : Launch) (schedule : ℕ → Event) (t : ℕ) :
    FollowsRequests launch.store (run launch schedule t).master :=
  states_invariant (motive := fun s : System => FollowsRequests launch.store s.master) schedule
    follows_step (follows_start launch.store) t

/-! ## The two copies -/

/-- A request that is carried out leaves the master with the same bytes. -/
private theorem master_field_set (sets : Sets s e d) :
    load (step s e).master.store d.data.1 d.data.2 = writtenBytes s.master d := by
  obtain ⟨turn, ⟨rfl, goes, requested⟩, holding, _⟩ := sets
  rw [step_visit turn goes]
  exact holding_stored (show used s.master s.cid (s.answers turn) = some d from requested) holding

/-- The field of the RTU is a copy of the field of the master. -/
private theorem field_refreshed (launch : Launch) (schedule : ℕ → Event)
    (holding : d.val.mbParamType = .holding) :
    Refreshed (fun t => Sets (run launch schedule t) (schedule t) d)
      (fun t => (load (run launch schedule t).master.store d.data.1 d.data.2 : FloatBytes))
      (fun t => load (run launch schedule t).rtu.store d.data.1 d.data.2) where
  taken _ sets := (field_set sets).trans (master_field_set sets).symm
  kept _ none := field_kept holding none

private theorem asked_set (sets : Sets s e d) : d ∈ (step s e).master.asked := by
  obtain ⟨turn, requests, _⟩ := sets
  rw [asked_requested requests]
  exact List.mem_cons_self

private theorem requests_mono_step (s : System) (e : Event) :
    dutyRequests s ≤ dutyRequests (step s e) := by
  by_cases requested : ∃ turn d, Requests s e turn d
  · obtain ⟨turn, d, requests⟩ := requested
    rw [dutyRequests, dutyRequests, asked_requested requests]
    exact List.count_le_count_cons
  · have none : ∀ turn d, ¬ Requests s e turn d :=
      fun turn d requests => requested ⟨turn, d, requests⟩
    rw [dutyRequests, dutyRequests, asked_kept none]

theorem requests_mono (launch : Launch) (schedule : ℕ → Event) :
    Monotone fun t => dutyRequests (run launch schedule t) :=
  monotone_nat_of_le_succ fun t => requests_mono_step _ (schedule t)

/-- Two duty cycles are equal when the numbers of requests differ by a multiple of eleven. -/
theorem duty_after_eq_iff (order : n ≤ m) : dutyAfter m = dutyAfter n ↔ 11 ∣ m - n := by
  unfold dutyAfter
  omega

private theorem master_duty (launch : Launch) (schedule : ℕ → Event) (t : ℕ)
    (asked : dutyEntry ∈ (run launch schedule t).master.asked) :
    holdingData1 (run launch schedule t).master.store =
      floatBytes (ofNat (dutyAfter (dutyRequests (run launch schedule t)))) := by
  rw [(follows_run launch schedule t).duty, if_pos asked, duty_after_run]

private theorem duty_bytes_eq_iff (order : n ≤ m) :
    floatBytes (ofNat (dutyAfter m)) = floatBytes (ofNat (dutyAfter n)) ↔ 11 ∣ m - n := by
  rw [← duty_after_eq_iff order]
  refine ⟨fun same => ?_, fun same => by rw [same]⟩
  have small (r : Nat) : dutyAfter r < 2 ^ 24 := by
    unfold dutyAfter
    omega
  exact Binary32.ofNat_injective (small m) (small n) (float_bytes_injective same)

private theorem setup_duty : holdingData1 setupStore = floatBytes (ofNat 0) := by decide

/-- The power threshold never changes, so one request that is carried out is enough. -/
private theorem threshold_copies (launch : Launch) (schedule : ℕ → Event) (t : ℕ)
    (asked : thresholdEntry ∈ (run launch schedule t).master.asked) :
    holdingData0 (run launch schedule t).master.store =
        holdingData0 (run launch schedule t).rtu.store ↔
      ∃ k < t, Sets (run launch schedule k) (schedule k) thresholdEntry := by
  have kept : holdingData0 (run launch schedule t).master.store = threshold := by
    rw [(follows_run launch schedule t).power, if_pos asked]
  rw [kept]
  rcases (field_refreshed (d := thresholdEntry) launch schedule rfl).last t with
    ⟨none, first⟩ | ⟨k, before, sets, _, copied⟩
  · have zero : holdingData0 (run launch schedule t).rtu.store = holdingData0 setupStore := first
    rw [zero]
    refine iff_of_false (by decide) ?_
    rintro ⟨k, before, sets⟩
    exact none k before sets
  · refine iff_of_true ?_ ⟨k, before, sets⟩
    have taken : holdingData0 (run launch schedule t).rtu.store =
        holdingData0 (run launch schedule (k + 1)).master.store := copied
    have asked' : thresholdEntry ∈ (run launch schedule (k + 1)).master.asked := asked_set sets
    rw [taken, (follows_run launch schedule (k + 1)).power, if_pos asked']

/-- The duty cycle changes with every request, carried out or not. -/
private theorem duty_copies (launch : Launch) (schedule : ℕ → Event) (t : ℕ)
    (asked : dutyEntry ∈ (run launch schedule t).master.asked) :
    holdingData1 (run launch schedule t).master.store =
        holdingData1 (run launch schedule t).rtu.store ↔
      ∃ k < t, Sets (run launch schedule k) (schedule k) dutyEntry ∧
        (∀ j, k < j → j < t → ¬ Sets (run launch schedule j) (schedule j) dutyEntry) ∧
        11 ∣ dutyRequests (run launch schedule t) - dutyRequests (run launch schedule (k + 1)) := by
  rw [master_duty launch schedule t asked]
  rcases (field_refreshed (d := dutyEntry) launch schedule rfl).last t with
    ⟨none, first⟩ | ⟨k, before, sets, lost, copied⟩
  · have zero : holdingData1 (run launch schedule t).rtu.store = floatBytes (ofNat 0) :=
      first.trans setup_duty
    rw [zero]
    refine iff_of_false (fun same => ?_) ?_
    · have equal := Binary32.ofNat_injective (by unfold dutyAfter; omega) (by decide)
        (float_bytes_injective same)
      unfold dutyAfter at equal
      omega
    · rintro ⟨k, before, sets, _⟩
      exact none k before sets
  · have taken : holdingData1 (run launch schedule t).rtu.store =
        holdingData1 (run launch schedule (k + 1)).master.store := copied
    rw [taken, master_duty launch schedule (k + 1) (asked_set sets),
      duty_bytes_eq_iff (requests_mono launch schedule before)]
    refine ⟨fun period => ⟨k, before, sets, lost, period⟩, ?_⟩
    rintro ⟨k', before', sets', lost', period⟩
    rcases Nat.lt_trichotomy k k' with earlier | rfl | later
    · exact absurd sets' (lost k' earlier before')
    · exact period
    · exact absurd sets (lost' k later before)

/-- In every state of a run, the master's copy of the power threshold is the RTU's exactly when
some request for it was carried out, and its copy of the duty cycle is the RTU's exactly when
the number of requests lost since the last one carried out is a multiple of eleven. -/
theorem copies_agree_iff (launch : Launch) (schedule : ℕ → Event) (t : ℕ) :
    (thresholdEntry ∈ (run launch schedule t).master.asked →
      (holdingData0 (run launch schedule t).master.store =
          holdingData0 (run launch schedule t).rtu.store ↔
        ∃ k < t, Sets (run launch schedule k) (schedule k) thresholdEntry)) ∧
    (dutyEntry ∈ (run launch schedule t).master.asked →
      (holdingData1 (run launch schedule t).master.store =
          holdingData1 (run launch schedule t).rtu.store ↔
        ∃ k < t, Sets (run launch schedule k) (schedule k) dutyEntry ∧
          (∀ j, k < j → j < t → ¬ Sets (run launch schedule j) (schedule j) dutyEntry) ∧
          11 ∣ dutyRequests (run launch schedule t) -
            dutyRequests (run launch schedule (k + 1)))) :=
  ⟨threshold_copies launch schedule t, duty_copies launch schedule t⟩

/-! ## A master that has stopped -/

/-- A step of the system with a stopped master. -/
private theorem stopped_step (s : System) (e : Event) (stops : s.master.err = espErrNotFound) :
    (step s e).master = s.master := by
  cases e with
  | motor => rfl
  | sensor k word => rfl
  | master turn => rw [step_stopped turn stops]

private theorem stopped_duty_word (s : System) (e : Event) (stops : s.master.err = espErrNotFound) :
    dutyWord (step s e) = dutyWord s := by
  apply duty_word_kept
  rintro ⟨turn, ⟨_, goes, _⟩, _⟩
  exact goes stops

/-- Once a visit has left `ESP_ERR_NOT_FOUND`, the master makes no other; the RTU notices
nothing and drives its motor on with what the register then held. -/
theorem stopped_master_leaves_motor_running (launch : Launch) (schedule : ℕ → Event) (k t : ℕ)
    (stops : (run launch schedule k).master.err = espErrNotFound) (later : k ≤ t) :
    (run launch schedule t).master = (run launch schedule k).master ∧
      ∀ m, k ≤ m → m < t → Drives (run launch schedule m) (schedule m) →
        (run launch schedule t).rtu.hw = drivenWith (dutyWord (run launch schedule k)) := by
  classical
  have stays (s : System) (e : Event) (stopped : s.master.err = espErrNotFound) :
      (step s e).master.err = espErrNotFound := by rw [stopped_step s e stopped, stopped]
  have word (t : ℕ) (later : k ≤ t) :
      dutyWord (run launch schedule t) = dutyWord (run launch schedule k) :=
    states_stable schedule stays stopped_duty_word stops later
  refine ⟨states_stable schedule stays stopped_step stops later, fun m after before drives => ?_⟩
  apply (trails_of_refreshed (motor_refreshed launch schedule)).settled
  · exact fun t later => congrArg drivenWith (word t later)
  · exact Nat.lt_of_le_of_lt after (latest_fresh drives before)

/-- The fifth visit of the master requests the duty cycle, and the RTU carries that out; then the
dictionary refuses the next characteristic, and only the motor task goes on. -/
def refusedLater (k : ℕ) : Event :=
  if k < 5 then .master ⟨espOk, .unanswered timeout⟩
  else if k = 5 then .master ⟨espErrNotFound, .lost timeout⟩
  else .motor

/-- The RTU of the repository's build, with the 20 of `app_main` on its motor. -/
def committedLaunch : Launch := ⟨fun _ _ => 0, RegisterMap.committedBuild, ⟨1, 0, ofNat 20⟩⟩

/-- The motor is then driven on with the 22 of that request. -/
theorem refused_later_runs_on :
    dutyWord (run committedLaunch refusedLater 6) = ofNat 22 ∧
      (run committedLaunch refusedLater 9).rtu.hw =
        drivenWith (dutyWord (run committedLaunch refusedLater 6)) :=
  ⟨by decide, (stopped_master_leaves_motor_running committedLaunch refusedLater 6 9 rfl
    (by decide)).2 7 (by decide) (by decide) ⟨rfl, by decide⟩⟩

end PowerMonitor.LostRequests
