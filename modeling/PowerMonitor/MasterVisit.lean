import PowerMonitor.MasterRead

/-! What one visit of `master_read` does, field by field: the entry it requests, the code it
leaves, the bytes it stores and what the slave acknowledged. The results about runs are built
on these lemmas and do not unfold the body of the loop again. -/
namespace PowerMonitor.MasterVisit
open EspIdf Dictionary ByteMemory MasterRead

variable {s : State} {d : Entry} {cid : Cid} {a : Answers}

/-- The entry a visit uses: the one delivered in it, or else the one left from before. -/
def used (s : State) (cid : Cid) (a : Answers) : Option Entry :=
  if a.info = espErrNotFound then none
  else if a.info = espOk then some (entryOf cid)
  else s.paramDescriptor

/-- The bytes a holding entry is set to in a visit. -/
def writtenBytes (s : State) (d : Entry) : FloatBytes :=
  if d.val.cid = cidPowerThreshold then threshold
  else floatBytes (Binary32.ofNat (nextDuty s.duty))

/-- The bytes a visit stores for the entry it uses. -/
def storedBytes (s : State) (d : Entry) (a : Answers) : Option FloatBytes :=
  if d.val.mbParamType = .holding then some (writtenBytes s d)
  else if a.transfer = espOk then some (overlay s.value a.received (transferSize d))
  else none

/-- The state in which a visit that uses an entry enters its branch. -/
def branchState (s : State) (cid : Cid) (a : Answers) : State :=
  { s with
    requested := none
    stored := []
    shown := none
    err := a.info
    paramDescriptor := if a.info = espOk then some (entryOf cid) else s.paramDescriptor }

/-- An entry is read, or it is one of the two the task writes. -/
theorem entry_kinds (d : Entry) :
    d.val.mbParamType = .input ∨ d.val.mbParamType = .coil ∨
      d.val.mbParamType = .holding ∧
        (d.val.cid = cidPowerThreshold ∨ d.val.cid = cidDutyCycle) := by
  have every : ∀ d ∈ deviceParameters, d.mbParamType = .input ∨ d.mbParamType = .coil ∨
      d.mbParamType = .holding ∧ (d.cid = cidPowerThreshold ∨ d.cid = cidDutyCycle) := by decide
  exact every d.val d.property

/-- The branch a visit takes. -/
theorem visit_eq (s : State) (cid : Cid) (a : Answers) :
    s.visit cid a =
      match used s cid a with
      | none => branchState s cid a
      | some d => (branchState s cid a).pollEntry d a := by
  unfold State.visit used branchState
  by_cases missing : a.info = espErrNotFound
  · simp [missing]
  by_cases found : a.info = espOk
  · rw [found]
    rfl
  · cases s.paramDescriptor with
    | none => simp [missing, found]
    | some d => simp [missing, found]

/-- What the branch of an entry does to the state it is entered in. -/
structure Did (s s' : State) (d : Entry) (a : Answers) : Prop where
  err : s'.err = a.transfer
  requested : s'.requested = some d
  asked : s'.asked = d :: s.asked
  duty : s'.duty =
    if d.val.mbParamType = .holding ∧ d.val.cid = cidDutyCycle then nextDuty s.duty else s.duty
  descriptor : s'.paramDescriptor = s.paramDescriptor
  store : s'.store = match storedBytes s d a with
    | none => s.store
    | some bytes => ByteMemory.store s.store d.data.1 d.data.2 bytes
  stored : s'.stored = match storedBytes s d a with
    | none => s.stored
    | some _ => d.data :: s.stored
  acknowledged : ∀ other, s'.acknowledged other =
    if other = d ∧ d.val.mbParamType = .holding ∧ a.transfer = espOk then some (writtenBytes s d)
    else s.acknowledged other

theorem did_read (s : State) (a : Answers) (kind : d.val.mbParamType ≠ .holding) :
    Did s (s.readEntry d a) d a := by
  by_cases ok : a.transfer = espOk <;>
    constructor <;> simp [State.readEntry, State.getParameter, State.storeFloat, storedBytes,
      kind, ok]

theorem did_coil (s : State) (a : Answers) (kind : d.val.mbParamType ≠ .holding) :
    Did s (s.readCoil d a) d a := by
  have read := did_read s a kind
  unfold State.readCoil
  dsimp only
  split
  · exact ⟨read.err, read.requested, read.asked, read.duty, read.descriptor, read.store,
      read.stored, read.acknowledged⟩
  · exact read

theorem did_write (s : State) (a : Answers) (kind : d.val.mbParamType = .holding)
    (written : d.val.cid = cidPowerThreshold ∨ d.val.cid = cidDutyCycle) :
    Did s (s.writeEntry d a) d a := by
  have apart : cidDutyCycle ≠ cidPowerThreshold := by decide
  rcases written with threshold | duty
  · constructor <;> simp [State.writeEntry, State.setParameter, State.storeFloat, storedBytes,
      writtenBytes, kind, threshold, apart.symm]
  · constructor <;> simp [State.writeEntry, State.setParameter, State.storeFloat, storedBytes,
      writtenBytes, kind, duty, apart]

/-- A visit without an entry only calls `mbc_master_get_cid_info`. -/
theorem visit_unused (none : used s cid a = none) : s.visit cid a = branchState s cid a := by
  rw [visit_eq, none]

/-- A visit with an entry goes through its branch. -/
theorem visit_did (entry : used s cid a = some d) :
    Did (branchState s cid a) (s.visit cid a) d a := by
  rw [visit_eq, entry]
  unfold State.pollEntry
  rcases entry_kinds d with input | coil | ⟨holding, written⟩
  · simp only [input]
    exact did_read _ a (by simp [input])
  · simp only [coil]
    exact did_coil _ a (by simp [coil])
  · simp only [holding]
    exact did_write _ a holding written

/-- Every visit that uses an entry requests it, and no other does. -/
theorem visit_requested (s : State) (cid : Cid) (a : Answers) :
    (s.visit cid a).requested = used s cid a := by
  cases entry : used s cid a with
  | none => rw [visit_unused entry]; rfl
  | some d => exact (visit_did entry).requested

/-- The code a visit leaves is that of its last call. -/
theorem visit_err (s : State) (cid : Cid) (a : Answers) :
    (s.visit cid a).err = if (used s cid a).isSome then a.transfer else a.info := by
  cases entry : used s cid a with
  | none => rw [visit_unused entry]; rfl
  | some d => exact (visit_did entry).err

/-- `param_descriptor` keeps the last entry delivered. -/
theorem visit_descriptor (s : State) (cid : Cid) (a : Answers) :
    (s.visit cid a).paramDescriptor =
      if a.info = espOk then some (entryOf cid) else s.paramDescriptor := by
  cases entry : used s cid a with
  | none => rw [visit_unused entry]; rfl
  | some d => exact (visit_did entry).descriptor

/-- The stores of a visit: at most one, of four bytes at the entry's field. -/
theorem visit_store (entry : used s cid a = some d) :
    (s.visit cid a).store = (match storedBytes s d a with
      | none => s.store
      | some bytes => ByteMemory.store s.store d.data.1 d.data.2 bytes) ∧
    (s.visit cid a).stored = (match storedBytes s d a with
      | none => []
      | some _ => [d.data]) := ⟨(visit_did entry).store, (visit_did entry).stored⟩

end PowerMonitor.MasterVisit
