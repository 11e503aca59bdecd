import PowerMonitor.PollRun

/-! What a failed transaction of `master_read` leaves in the parameter structures. A read is
stored after it succeeded, but a holding entry is stored before the slave is asked to take
it. -/
namespace PowerMonitor.FailedTransfers
open EspIdf Dictionary ByteMemory MasterRead MasterVisit PollRun

/-- A visit whose request fails leaves every structure as it was. -/
def Untouched (v : Visit) : Prop :=
  v.after.requested.isSome → v.answers.transfer ≠ espOk → v.after.store = v.before.store

/-- Every holding field has the bytes the slave last acknowledged for it, or its initial ones
when it acknowledged none. -/
def InStep (initial : Store) (s : State) : Prop :=
  ∀ d : Entry, d.val.mbParamType = .holding →
    load s.store d.data.1 d.data.2 =
      (s.acknowledged d).getD (load initial d.data.1 d.data.2)

/-- When the visit's request to set a holding entry fails, the entry's field already had the
bytes the slave was asked to take. -/
def HarmlessFailure (v : Visit) : Prop :=
  ∀ d, used v.before v.cid v.answers = some d → d.val.mbParamType = .holding →
    v.answers.transfer ≠ espOk →
    load v.before.store d.data.1 d.data.2 = writtenBytes v.before d

variable {v : Visit} {s : State} {cid : Cid} {a : Answers} {d other : Entry} {initial : Store}

/-- Every entry is the one of its characteristic. -/
theorem entry_of_cid (d : Entry) : ∃ cid, d = entryOf cid := by
  obtain ⟨i, bound, same⟩ := List.getElem_of_mem d.property
  exact ⟨⟨i, bound⟩, Subtype.ext same.symm⟩

/-- A store for one entry leaves the field of any other holding entry. -/
theorem holding_apart (holding : other.val.mbParamType = .holding) (distinct : other ≠ d) :
    other.data.1 ≠ d.data.1 ∨ other.data.2 + 4 ≤ d.data.2 ∨ d.data.2 + 4 ≤ other.data.2 := by
  have every : ∀ c c' : Cid, (entryOf c).val.mbParamType = .holding → c ≠ c' →
      (entryOf c).data.1 ≠ (entryOf c').data.1 ∨
        (entryOf c).data.2 + 4 ≤ (entryOf c').data.2 ∨
        (entryOf c').data.2 + 4 ≤ (entryOf c).data.2 := by decide
  obtain ⟨c, rfl⟩ := entry_of_cid other
  obtain ⟨c', rfl⟩ := entry_of_cid d
  exact every c c' holding fun same => distinct (congrArg entryOf same)

/-- **One visit.** A failed request leaves the structures exactly when what it stored was
there before. -/
private theorem untouched_iff (ran : v.after = v.before.visit v.cid v.answers) :
    Untouched v ↔ HarmlessFailure v := by
  unfold Untouched HarmlessFailure
  rw [ran, visit_requested]
  cases entry : used v.before v.cid v.answers with
  | none => simp
  | some d =>
    rw [(visit_store entry).1]
    simp only [Option.isSome_some, forall_const, Option.some.injEq, forall_eq']
    by_cases holding : d.val.mbParamType = .holding
    · simp [storedBytes, holding, store_eq_self_iff]
    · by_cases ok : v.answers.transfer = espOk <;> simp [storedBytes, holding, ok]

private theorem acknowledged_visit (entry : used s cid a = some d) (other : Entry) :
    (s.visit cid a).acknowledged other =
      if other = d ∧ d.val.mbParamType = .holding ∧ a.transfer = espOk then
        some (writtenBytes s d)
      else s.acknowledged other := (visit_did entry).acknowledged other

/-- A visit that does no harm keeps the holding fields in step with the slave. -/
theorem in_step_visit (harmless : HarmlessFailure ⟨cid, a, s, s.visit cid a⟩)
    (before : InStep initial s) : InStep initial (s.visit cid a) := by
  intro other holding
  cases entry : used s cid a with
  | none =>
    rw [visit_unused entry]
    exact before other holding
  | some d =>
    rw [(visit_store entry).1, acknowledged_visit entry]
    by_cases same : other = d
    · subst same
      simp only [storedBytes, holding, ↓reduceIte, load_store_same, true_and]
      split
      · rfl
      · rename_i failed
        rw [← before other holding]
        exact (harmless other entry holding failed).symm
    · rw [if_neg (fun both => same both.1), ← before other holding]
      split
      · rfl
      · exact load_store_apart _ _ (holding_apart holding same)

/-! ## Which failures are harmless -/

/-- The entries of the two characteristics the task writes. -/
def thresholdEntry : Entry := entryOf 3
def dutyEntry : Entry := entryOf 4

theorem holding_cases (holding : d.val.mbParamType = .holding) :
    d = thresholdEntry ∨ d = dutyEntry := by
  have every : ∀ c : Cid, (entryOf c).val.mbParamType = .holding → c = 3 ∨ c = 4 := by decide
  obtain ⟨c, rfl⟩ := entry_of_cid d
  exact (every c holding).imp (congrArg entryOf) (congrArg entryOf)

private theorem written_threshold (s : State) : writtenBytes s thresholdEntry = threshold := rfl

private theorem written_duty (s : State) :
    writtenBytes s dutyEntry = floatBytes (Binary32.ofNat (nextDuty s.duty)) := rfl

/-- `holding_reg_params.holding_data0` and `holding_data1`. -/
def holdingData0 (store : Store) : FloatBytes := load store .holding 0
def holdingData1 (store : Store) : FloatBytes := load store .holding 4

theorem duty_entry_iff (d : Entry) :
    d.val.mbParamType = .holding ∧ d.val.cid = cidDutyCycle ↔ d = dutyEntry := by
  have every : ∀ c : Cid, (entryOf c).val.mbParamType = .holding ∧
      (entryOf c).val.cid = cidDutyCycle → c = 4 := by decide
  constructor
  · intro written
    obtain ⟨c, rfl⟩ := entry_of_cid d
    exact congrArg entryOf (every c written)
  · rintro rfl
    exact ⟨rfl, rfl⟩

/-- The bytes of the holding fields, in terms of the requests so far: the fields follow the
task's own variables, whatever the slave answered. -/
structure FollowsRequests (initial : Store) (s : State) : Prop where
  power : holdingData0 s.store =
    if thresholdEntry ∈ s.asked then threshold else holdingData0 initial
  duty : holdingData1 s.store =
    if dutyEntry ∈ s.asked then floatBytes (Binary32.ofNat s.duty) else holdingData1 initial
  first : dutyEntry ∉ s.asked → s.duty = 20
  range : s.duty ≤ 40

theorem follows_start (initial : Store) : FollowsRequests initial { store := initial } where
  power := rfl
  duty := rfl
  first := fun _ => rfl
  range := by simp

private theorem next_duty_le (duty : Nat) : nextDuty duty ≤ 40 := by
  unfold nextDuty
  dsimp only
  split <;> omega

/-- A duty cycle is never followed by the same one. -/
theorem next_duty_ne (range : duty ≤ 40) :
    floatBytes (Binary32.ofNat duty) ≠ floatBytes (Binary32.ofNat (nextDuty duty)) := by
  intro same
  have next := next_duty_le duty
  have equal := Binary32.ofNat_injective (by omega) (by omega) (float_bytes_injective same)
  unfold nextDuty at equal
  dsimp only at equal
  split at equal <;> omega

/-- A visit keeps the field of a holding entry it does not use. -/
theorem holding_kept (entry : used s cid a = some d) (holding : other.val.mbParamType = .holding)
    (distinct : other ≠ d) :
    (load (s.visit cid a).store other.data.1 other.data.2 : FloatBytes) =
      load s.store other.data.1 other.data.2 := by
  rw [(visit_store entry).1]
  split
  · rfl
  · exact load_store_apart _ _ (holding_apart holding distinct)

/-- A visit that uses a holding entry stores the bytes it asks the slave to take. -/
theorem holding_stored (entry : used s cid a = some d) (holding : d.val.mbParamType = .holding) :
    load (s.visit cid a).store d.data.1 d.data.2 = writtenBytes s d := by
  rw [(visit_store entry).1]
  simp [storedBytes, holding]

theorem follows_visit (cid : Cid) (a : Answers) (before : FollowsRequests initial s) :
    FollowsRequests initial (s.visit cid a) := by
  cases entry : used s cid a with
  | none =>
    rw [visit_unused entry]
    exact ⟨before.power, before.duty, before.first, before.range⟩
  | some d =>
    have asked : (s.visit cid a).asked = d :: s.asked := (visit_did entry).asked
    have duty : (s.visit cid a).duty = if d = dutyEntry then nextDuty s.duty else s.duty := by
      rw [(visit_did entry).duty]
      simp only [duty_entry_iff]
      rfl
    refine ⟨?_, ?_, fun unasked => ?_, ?_⟩
    · rw [asked]
      by_cases same : d = thresholdEntry
      · subst same
        rw [if_pos List.mem_cons_self]
        exact holding_stored entry rfl
      · have kept : holdingData0 (s.visit cid a).store = holdingData0 s.store :=
          holding_kept entry rfl (Ne.symm same)
        rw [kept, before.power]
        simp [Ne.symm same]
    · rw [asked, duty]
      by_cases same : d = dutyEntry
      · subst same
        rw [if_pos List.mem_cons_self, if_pos rfl]
        exact holding_stored entry rfl
      · have kept : holdingData1 (s.visit cid a).store = holdingData1 s.store :=
          holding_kept entry rfl (Ne.symm same)
        rw [kept, before.duty]
        simp [same, Ne.symm same]
    · rw [asked, List.mem_cons, not_or] at unasked
      rw [duty, if_neg (Ne.symm unasked.1)]
      exact before.first unasked.2
    · rw [duty]
      split
      · exact next_duty_le s.duty
      · exact before.range

/-- The requests to set a holding entry that may fail: for the power threshold those after
the first one, and a first request for what the field held at the start. -/
structure FailsHarmlessly (initial : Store) (v : Visit) : Prop where
  power : used v.before v.cid v.answers = some thresholdEntry → v.answers.transfer ≠ espOk →
    thresholdEntry ∈ v.before.asked ∨ holdingData0 initial = threshold
  duty : used v.before v.cid v.answers = some dutyEntry → v.answers.transfer ≠ espOk →
    dutyEntry ∉ v.before.asked ∧ holdingData1 initial = floatBytes (Binary32.ofNat 22)

/-- A failing request asked for the bytes already stored exactly when it may fail. -/
theorem harmless_iff (follows : FollowsRequests initial v.before) :
    HarmlessFailure v ↔ FailsHarmlessly initial v := by
  have power : load v.before.store thresholdEntry.data.1 thresholdEntry.data.2 =
        writtenBytes v.before thresholdEntry ↔
      thresholdEntry ∈ v.before.asked ∨ holdingData0 initial = threshold := by
    rw [written_threshold, show load v.before.store thresholdEntry.data.1 thresholdEntry.data.2 =
      holdingData0 v.before.store from rfl, follows.power]
    by_cases asked : thresholdEntry ∈ v.before.asked <;> simp [asked]
  have duty : load v.before.store dutyEntry.data.1 dutyEntry.data.2 =
        writtenBytes v.before dutyEntry ↔
      dutyEntry ∉ v.before.asked ∧ holdingData1 initial = floatBytes (Binary32.ofNat 22) := by
    rw [written_duty, show load v.before.store dutyEntry.data.1 dutyEntry.data.2 =
      holdingData1 v.before.store from rfl, follows.duty]
    by_cases asked : dutyEntry ∈ v.before.asked
    · simp [asked, next_duty_ne follows.range]
    · simp only [asked, ↓reduceIte, not_false_eq_true, true_and, follows.first asked]
      rfl
  constructor
  · intro harmless
    exact ⟨fun uses failed => power.mp (harmless _ uses rfl failed),
      fun uses failed => duty.mp (harmless _ uses rfl failed)⟩
  · intro fails d uses holding failed
    rcases holding_cases holding with rfl | rfl
    · exact power.mpr (fails.power uses failed)
    · exact duty.mpr (fails.duty uses failed)

/-- Throughout a run failed requests leave the structures as they were, and `holding_data0`
and `holding_data1` are what the slave last acknowledged, exactly when no request for the
duty cycle fails, nor the first one for the power threshold, except a first request for what
the field held at the start. -/
theorem failed_transfers_iff (answers : Nat → Cid → Answers) (store : Store) :
    (∀ pass, ∀ v ∈ visits answers store pass, Untouched v ∧ InStep store v.after) ↔
      ∀ pass, ∀ v ∈ visits answers store pass, FailsHarmlessly store v := by
  have follows : ∀ pass, ∀ v ∈ visits answers store pass, FollowsRequests store v.before := by
    intro pass v member
    refine (visits_invariant (FollowsRequests store) (follows_start store) ?_ pass v member).1
    intro pass v member before
    rw [(visit_of_mem member).2]
    exact follows_visit _ _ before
  constructor
  · intro kept pass v member
    rw [← harmless_iff (follows pass v member), ← untouched_iff (visit_of_mem member).2]
    exact (kept pass v member).1
  · intro fails
    have harmless : ∀ pass, ∀ v ∈ visits answers store pass, HarmlessFailure v :=
      fun pass v member => (harmless_iff (follows pass v member)).mpr (fails pass v member)
    intro pass v member
    refine ⟨(untouched_iff (visit_of_mem member).2).mpr (harmless pass v member), ?_⟩
    refine (visits_invariant (InStep store) (fun d _ => rfl) ?_ pass v member).2
    intro pass v member before
    have ran := (visit_of_mem member).2
    have safe := harmless pass v member
    obtain ⟨cid, answers, s, after⟩ := v
    dsimp only at ran before ⊢
    subst ran
    exact in_step_visit safe before

/-- Every request succeeds but the one that sets the duty cycle in the first pass. -/
def dutyCycleTimeout : Nat → Cid → Answers := fun pass cid =>
  ⟨espOk, if pass = 0 ∧ cid = 4 then espErrTimeout else espOk, fun _ => 0⟩

/-- The master then holds a duty cycle of 22 that the slave never took. -/
theorem duty_cycle_timeout_is_stored :
    ¬ ∀ pass, ∀ v ∈ visits dutyCycleTimeout (fun _ _ => 0) pass,
      Untouched v ∧ InStep (fun _ _ => 0) v.after := by
  intro kept
  -- The first pass at characteristic 4: byte 6 of the holding registers goes from 0 to 0xB0.
  have seen : (4, true, espErrTimeout, 0x00, 0xB0) ∈
      (visits dutyCycleTimeout (fun _ _ => 0) 0).map fun v =>
        (v.cid, v.after.requested.isSome, v.answers.transfer, v.before.store .holding 6,
          v.after.store .holding 6) := by decide
  obtain ⟨v, member, same⟩ := List.mem_map.mp seen
  simp only [Prod.mk.injEq] at same
  obtain ⟨_, requested, code, before, after⟩ := same
  have untouched := (kept 0 v member).1 requested (by rw [code]; simp [espErrTimeout, espOk])
  rw [untouched, before] at after
  exact absurd after (by decide)

end PowerMonitor.FailedTransfers
