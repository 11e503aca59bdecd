import PowerMonitor.Actuation
import PowerMonitor.EventHistory

/-! The loop is not closed: what the power sensor measures reaches the master, but nothing the
master asks for and nothing the motor does depends on it. -/
namespace PowerMonitor.MeasurementIndependence
open EspIdf Dictionary ByteMemory MasterRead MasterVisit FailedTransfers ControlLoop EventHistory
open Actuation

/-- Two systems that differ in measurements at most: in the input registers, in the master's
copies of them, and in what its buffer keeps of them. -/
structure Alike (s s' : System) : Prop where
  cid : s.cid = s'.cid
  err : s.master.err = s'.master.err
  duty : s.master.duty = s'.master.duty
  descriptor : s.master.paramDescriptor = s'.master.paramDescriptor
  asked : s.master.asked = s'.master.asked
  shown : s.master.shown = s'.master.shown
  acknowledged : s.master.acknowledged = s'.master.acknowledged
  kept : s.master.store .holding = s'.master.store .holding
  holding : s.rtu.store .holding = s'.rtu.store .holding
  coils : s.rtu.store .coil = s'.rtu.store .coil
  build : s.rtu.build = s'.rtu.build
  hw : s.rtu.hw = s'.rtu.hw
  driving : s.rtu.driving = s'.rtu.driving

variable {s s' : System} {turn : Turn} {d : Entry} {m : MasterRead.State} {cid : Cid} {a : Answers}

/-- Only a successful poll of a coil entry shows anything. -/
private theorem nothing_shown (entry : used m cid a = some d)
    (other : d.val.mbParamType = .coil → a.transfer ≠ espOk) : (m.visit cid a).shown = none := by
  rw [visit_eq, entry]
  rcases entry_kinds d with input | coil | ⟨holding, written⟩
  · by_cases ok : a.transfer = espOk <;>
      simp [State.pollEntry, input, State.readEntry, State.getParameter, State.storeFloat,
        branchState, ok]
  · simp [State.pollEntry, coil, State.readCoil, State.readEntry, State.getParameter, other coil,
      branchState]
  · have apart : cidDutyCycle ≠ cidPowerThreshold := by decide
    rcases written with threshold | duty
    · simp [State.pollEntry, holding, State.writeEntry, State.setParameter, State.storeFloat,
        branchState, threshold, apart.symm]
    · simp [State.pollEntry, holding, State.writeEntry, State.setParameter, State.storeFloat,
        branchState, duty, apart]

private theorem alike_sensor (k : Fin 3) (word : UInt32) (alike : Alike s s') :
    Alike (step s (.sensor k word)) s' := by
  have others (area : Area) (other : area ≠ .input) :
      (step s (.sensor k word)).rtu.store area = s.rtu.store area := by
    funext i
    simp [step, Rtu.readINA, ByteMemory.store, other]
  exact { alike with
    holding := (others .holding (by decide)).trans alike.holding
    coils := (others .coil (by decide)).trans alike.coils }

private theorem alike_motor (alike : Alike s s') : Alike (step s .motor) (step s' .motor) := by
  have seen : s.rtu.motor = s'.rtu.motor := by
    simp only [Rtu.motor, holdingData1, alike.hw, alike.driving, alike.coils]
    have bytes : (load s.rtu.store .holding 4 : FloatBytes) = load s'.rtu.store .holding 4 := by
      unfold load
      rw [alike.holding]
    rw [bytes]
  exact { alike with
    hw := by simp only [step, Rtu.runMotor, seen]
    driving := by simp only [step, Rtu.runMotor, seen] }

/-- A store does to a block what the block held decides. -/
private theorem store_congr {mem mem' : Store} (block : Area) (offset : Nat) (bytes : FloatBytes)
    (other : Area) (same : mem other = mem' other) :
    ByteMemory.store mem block offset bytes other =
      ByteMemory.store mem' block offset bytes other := by
  funext k
  simp only [ByteMemory.store, same]

private theorem requests_congr (turn : Turn) (alike : Alike s s') :
    s.requests turn = s'.requests turn := by
  simp only [System.requests, used, alike.cid, alike.descriptor]

private theorem written_congr (d : Entry) (alike : Alike s s') :
    writtenBytes s.master d = writtenBytes s'.master d := by
  simp only [writtenBytes, alike.duty]

/-- The RTU's answer for a coil entry starts with the same byte. -/
private theorem coil_answer_congr (others : FloatBytes) (coil : d.val.mbParamType = .coil)
    (alike : Alike s s') : s.rtu.getEntry d others 0 = s'.rtu.getEntry d others 0 := by
  have area := (coil_entry coil).1
  simp only [get_entry_eq, overlay, load, area, alike.coils]

private theorem carry_out_congr (turn : Turn) (alike : Alike s s') (area : Area)
    (same : s.rtu.store area = s'.rtu.store area) :
    (s.carryOut turn).store area = (s'.carryOut turn).store area := by
  unfold System.carryOut
  rw [← requests_congr turn alike]
  cases s.requests turn with
  | none => exact same
  | some d =>
    dsimp only
    split
    · rw [set_entry_eq, set_entry_eq, written_congr d alike]
      exact store_congr _ _ _ area same
    · exact same

/-- A request leaves the rest of the RTU. -/
private theorem carry_out_rest (s : System) (turn : Turn) : (s.carryOut turn).hw = s.rtu.hw ∧
    (s.carryOut turn).driving = s.rtu.driving ∧
    (s.carryOut turn).build = s.rtu.build := by
  unfold System.carryOut
  cases s.requests turn with
  | none => exact ⟨rfl, rfl, rfl⟩
  | some d =>
    dsimp only
    split
    · rw [set_entry_eq]
      exact ⟨rfl, rfl, rfl⟩
    · exact ⟨rfl, rfl, rfl⟩

/-- What a visit shows is what it would show with other measurements. -/
private theorem shown_congr (requested : s.requests turn = some d) (alike : Alike s s') :
    (s.master.visit s.cid (s.answers turn)).shown =
      (s'.master.visit s'.cid (s'.answers turn)).shown := by
  have requested' : s'.requests turn = some d := (requests_congr turn alike).symm.trans requested
  have entry : used s.master s.cid (s.answers turn) = some d := requested
  have entry' : used s'.master s'.cid (s'.answers turn) = some d := requested'
  by_cases polled : d.val.mbParamType = .coil ∧ turn.fate.code = espOk
  · obtain ⟨coil, ok⟩ := polled
    have received : (s.answers turn).received 0 = (s'.answers turn).received 0 := by
      unfold System.answers System.received
      rw [requested, requested']
      cases turn.fate with
      | answered others => exact coil_answer_congr others coil alike
      | unanswered failure => rfl
      | lost failure => rfl
    rw [coil_shown entry coil ok, coil_shown entry' coil ok, received]
  · have none : d.val.mbParamType = .coil → turn.fate.code ≠ espOk :=
      fun coil ok => polled ⟨coil, ok⟩
    rw [nothing_shown entry none, nothing_shown entry' none]

/-- The holding block after a branch of the loop. -/
private theorem did_holding {b : MasterRead.State} (did : Did b m d a) : m.store .holding =
    if d.val.mbParamType = .holding then
      ByteMemory.store b.store d.data.1 d.data.2 (writtenBytes b d) .holding
    else b.store .holding := by
  rw [did.store]
  by_cases holding : d.val.mbParamType = .holding
  · simp [storedBytes, holding]
  · rw [if_neg holding]
    have apart : d.data.1 ≠ .holding := by
      have every : ∀ cid : Cid, (entryOf cid).val.mbParamType ≠ .holding →
          (entryOf cid).data.1 ≠ .holding := by decide
      obtain ⟨cid, rfl⟩ := entry_of_cid d
      exact every cid holding
    split
    · rfl
    · funext k
      exact store_outside _ _ fun inside => apart inside.1.symm

theorem alike_visit (turn : Turn) (goes : s.master.err ≠ espErrNotFound) (alike : Alike s s') :
    Alike (step s (.master turn)) (step s' (.master turn)) := by
  have goes' : s'.master.err ≠ espErrNotFound := by rw [← alike.err]; exact goes
  obtain ⟨hw, driving, build⟩ := carry_out_rest s turn
  obtain ⟨hw', driving', build'⟩ := carry_out_rest s' turn
  have cid : s.cid + 1 = s'.cid + 1 := by rw [alike.cid]
  have descriptor : (branchState s.master s.cid (s.answers turn)).paramDescriptor =
      (branchState s'.master s'.cid (s'.answers turn)).paramDescriptor := by
    unfold branchState
    rw [alike.cid, alike.descriptor]
    rfl
  rw [step_visit turn goes, step_visit turn goes']
  cases requested : s.requests turn with
  | none =>
    have requested' := (requests_congr turn alike).symm.trans requested
    rw [visit_unused (show used s.master s.cid (s.answers turn) = none from requested),
      visit_unused (show used s'.master s'.cid (s'.answers turn) = none from requested')]
    exact {
      cid
      err := rfl
      duty := alike.duty
      descriptor := descriptor
      asked := alike.asked
      shown := rfl
      acknowledged := alike.acknowledged
      kept := alike.kept
      holding := carry_out_congr turn alike .holding alike.holding
      coils := carry_out_congr turn alike .coil alike.coils
      build := by rw [build, build', alike.build]
      hw := by rw [hw, hw', alike.hw]
      driving := by rw [driving, driving', alike.driving] }
  | some d =>
    have requested' := (requests_congr turn alike).symm.trans requested
    have did := visit_did (show used s.master s.cid (s.answers turn) = some d from requested)
    have did' := visit_did (show used s'.master s'.cid (s'.answers turn) = some d from requested')
    have written : writtenBytes (branchState s.master s.cid (s.answers turn)) d =
        writtenBytes (branchState s'.master s'.cid (s'.answers turn)) d := written_congr d alike
    exact {
      cid
      err := did.err.trans did'.err.symm
      duty := by
        rw [did.duty, did'.duty]
        simp only [branchState, alike.duty]
      descriptor := did.descriptor.trans (descriptor.trans did'.descriptor.symm)
      asked := by
        rw [did.asked, did'.asked]
        exact congrArg (d :: ·) alike.asked
      shown := shown_congr requested alike
      acknowledged := by
        funext other
        rw [did.acknowledged, did'.acknowledged, written]
        exact if_congr Iff.rfl rfl (congrFun alike.acknowledged other)
      kept := by
        rw [did_holding did, did_holding did', written]
        exact if_congr Iff.rfl (store_congr _ _ _ .holding alike.kept) alike.kept
      holding := carry_out_congr turn alike .holding alike.holding
      coils := carry_out_congr turn alike .coil alike.coils
      build := by rw [build, build', alike.build]
      hw := by rw [hw, hw', alike.hw]
      driving := by rw [driving, driving', alike.driving] }

/-- **One step** of the master or of the motor. -/
theorem alike_step (e : Event) (other : ∀ k word, e ≠ .sensor k word) (alike : Alike s s') :
    Alike (step s e) (step s' e) := by
  cases e with
  | master turn =>
    by_cases stopped : s.master.err = espErrNotFound
    · have stopped' : s'.master.err = espErrNotFound := by rw [← alike.err]; exact stopped
      rw [step_stopped turn stopped, step_stopped turn stopped']
      exact alike
    · exact alike_visit turn stopped alike
  | motor => exact alike_motor alike
  | sensor k word => exact absurd rfl (other k word)

/-- The step is not a measurement. -/
def notSensor : Event → Bool
  | .sensor _ _ => false
  | _ => true

/-- In any history, whatever `readINA` measures and whenever it does, the motor, the holding
registers, the coils, the requests of the master and what it shows of the motor are what they
are in the same history without any measurement. -/
theorem measurements_change_nothing (launch : Launch) (events : List Event) :
    Alike (events.foldl step launch.start) ((events.filter notSensor).foldl step launch.start) := by
  apply foldl_filter (r := Alike)
  · intro s s' e seen alike
    apply alike_step e _ alike
    rintro k word rfl
    cases seen
  · intro s s' e hidden alike
    cases e with
    | master turn => cases hidden
    | motor => cases hidden
    | sensor k word => exact alike_sensor k word alike
  · exact ⟨rfl, rfl, rfl, rfl, rfl, rfl, rfl, rfl, rfl, rfl, rfl, rfl, rfl⟩

end PowerMonitor.MeasurementIndependence
