import PowerMonitor.FailedTransfers

/-! The bytes a visit of `master_read` may change: those of the field of its own
characteristic. A `float` store fits the fields of input and holding entries; a coil field is
one byte of a structure of three. A visit whose characteristic is not delivered stores for the
entry left from an earlier visit. -/
namespace PowerMonitor.StorageFrame
open EspIdf Dictionary ByteMemory MasterRead MasterVisit PollRun FailedTransfers

/-- The size of the field of an entry: one byte of coils, or the `float` of an input or
holding entry. -/
def fieldSize (d : Entry) : Nat := if d.val.mbParamType = .coil then 1 else 4

/-- The byte lies in the field of the entry. -/
def InField (d : Entry) (area : Area) (k : Nat) : Prop :=
  area = d.data.1 ∧ d.data.2 ≤ k ∧ k < d.data.2 + fieldSize d

/-- What the visit of a characteristic may do to the structures. -/
structure Framed (v : Visit) : Prop where
  inside : ∀ at' ∈ v.after.stored, at'.1 = (entryOf v.cid).data.1 ∧
    ∃ size, at'.1.size = some size ∧ at'.2 + 4 ≤ size
  own : ∀ area k, v.after.store area k ≠ v.before.store area k → InField (entryOf v.cid) area k
  others : ∀ other : Cid, other ≠ v.cid → ∀ area k, InField (entryOf other) area k →
    v.after.store area k = v.before.store area k

/-- The visit stores for the entry of its own characteristic, which is no coil entry, or nothing,
or what the field of the left entry holds: the same received bytes, or the power threshold,
which is left where the duty cycle is not delivered. -/
structure KeepsFrame (v : Visit) : Prop where
  coil : ∀ d, used v.before v.cid v.answers = some d → d.val.mbParamType = .coil →
    v.answers.transfer ≠ espOk
  input : ∀ d, used v.before v.cid v.answers = some d → d ≠ entryOf v.cid →
    d.val.mbParamType = .input → v.answers.transfer = espOk →
    (entryOf v.cid).val.mbParamType = .input ∧
      load v.before.store d.data.1 d.data.2 = v.answers.received
  holding : ∀ d, used v.before v.cid v.answers = some d → d ≠ entryOf v.cid →
    d.val.mbParamType = .holding → d = thresholdEntry ∧ v.cid = 4

variable {v : Visit} {s : State} {a : Answers} {cid other : Cid} {d : Entry}
  {initial store : Store}

/-- The fields of the entries lie apart. -/
private theorem fields_apart (distinct : other ≠ cid) (first : InField (entryOf other) area k) :
    ¬ InField (entryOf cid) area k := by
  have apart : ∀ c c' : Cid, c' ≠ c → (entryOf c').data.1 = (entryOf c).data.1 →
      (entryOf c').data.2 + fieldSize (entryOf c') ≤ (entryOf c).data.2 ∨
      (entryOf c).data.2 + fieldSize (entryOf c) ≤ (entryOf c').data.2 := by decide
  rintro ⟨rfl, lower, upper⟩
  obtain ⟨same, lower', upper'⟩ := first
  rcases apart cid other distinct same.symm with below | above <;> omega

/-- A field of four bytes lies in its structure; four bytes from a coil field do not. -/
private theorem field_fits (cid : Cid) : ∃ size, (entryOf cid).data.1.size = some size ∧
    if (entryOf cid).val.mbParamType = .coil then size < (entryOf cid).data.2 + 4
    else (entryOf cid).data.2 + 4 ≤ size := by
  have every : ∀ cid : Cid, (entryOf cid).data.1.size.any fun size =>
      if (entryOf cid).val.mbParamType = .coil then size < (entryOf cid).data.2 + 4
      else (entryOf cid).data.2 + 4 ≤ size := by decide
  obtain ⟨size, known, fits⟩ := (Option.any_eq_true _ _).mp (every cid)
  exact ⟨size, known, by simpa using fits⟩

/-- Changes that stay in the field of a characteristic leave the fields of the others. -/
private theorem framed_of_own (inside : ∀ at' ∈ v.after.stored, at'.1 = (entryOf v.cid).data.1 ∧
      ∃ size, at'.1.size = some size ∧ at'.2 + 4 ≤ size)
    (own : ∀ area k, v.after.store area k ≠ v.before.store area k →
      InField (entryOf v.cid) area k) : Framed v := by
  refine ⟨inside, own, fun other distinct area k field => ?_⟩
  by_contra change
  exact fields_apart distinct field (own area k change)

/-- A visit that stores nothing is framed. -/
private theorem framed_of_idle (stores : v.after.store = v.before.store)
    (stored : v.after.stored = []) : Framed v := by
  apply framed_of_own
  · simp [stored]
  · intro area k change
    exact absurd (by rw [stores]) change

/-- A store of four bytes in a field of four bytes is framed. -/
private theorem framed_of_store (float : fieldSize (entryOf v.cid) = 4)
    (fits : ∃ size, (entryOf v.cid).data.1.size = some size ∧ (entryOf v.cid).data.2 + 4 ≤ size)
    (bytes : FloatBytes)
    (stores : v.after.store = ByteMemory.store v.before.store (entryOf v.cid).data.1
      (entryOf v.cid).data.2 bytes)
    (stored : v.after.stored = [(entryOf v.cid).data]) : Framed v := by
  apply framed_of_own
  · simpa [stored] using fits
  · intro area k change
    by_contra outside
    rw [InField, float] at outside
    rw [stores] at change
    exact change (store_outside _ _ outside)

/-- The bytes are stored for the entry of the characteristic, or are there already and lie in
the same structure. -/
def StoresInFrame (v : Visit) (d : Entry) (bytes : FloatBytes) : Prop :=
  d.val.mbParamType ≠ .coil ∧
    (d = entryOf v.cid ∨ d.data.1 = (entryOf v.cid).data.1 ∧
      load v.before.store d.data.1 d.data.2 = bytes)

/-- A framed store for another entry changes nothing, for the two fields lie apart. -/
private theorem unchanged_of_framed (framed : Framed v) (float : fieldSize d = 4)
    (other : d ≠ entryOf v.cid) (bytes : FloatBytes)
    (stores : v.after.store = ByteMemory.store v.before.store d.data.1 d.data.2 bytes) :
    load v.before.store d.data.1 d.data.2 = bytes := by
  rw [← store_eq_self_iff, ← stores]
  obtain ⟨cid, rfl⟩ := entry_of_cid d
  funext area k
  by_contra change
  have own := framed.own area k change
  have inside : InField (entryOf cid) area k := by
    by_contra outside
    rw [InField, float] at outside
    rw [stores] at change
    exact change (store_outside _ _ outside)
  exact fields_apart (fun same => other (congrArg entryOf same)) inside own

/-- **One visit** that stores for an entry. -/
theorem framed_store_iff (ran : v.after = v.before.visit v.cid v.answers)
    (entry : used v.before v.cid v.answers = some d)
    (bytes : storedBytes v.before d v.answers = some bytes') :
    Framed v ↔ StoresInFrame v d bytes' := by
  obtain ⟨stores, stored⟩ := visit_store entry
  rw [← ran, bytes] at stores stored
  dsimp only at stores stored
  obtain ⟨cid, same⟩ := entry_of_cid d
  obtain ⟨size, known, fits⟩ := field_fits cid
  rw [← same] at known fits
  constructor
  · intro framed
    obtain ⟨area, size', known', wide⟩ := framed.inside d.data (by rw [stored]; simp)
    rw [known, Option.some.injEq] at known'
    have float : d.val.mbParamType ≠ .coil := by
      intro coil
      rw [if_pos coil] at fits
      omega
    refine ⟨float, ?_⟩
    by_cases own : d = entryOf v.cid
    · exact Or.inl own
    · exact Or.inr ⟨area, unchanged_of_framed framed (if_neg float) own bytes' stores⟩
  · rintro ⟨float, place⟩
    rw [if_neg float] at fits
    rcases place with rfl | ⟨area, there⟩
    · exact framed_of_store (if_neg float) ⟨size, known, fits⟩ bytes' stores stored
    · rw [(store_eq_self_iff _ _ _ _).mpr there] at stores
      apply framed_of_own
      · simpa [stored, area] using ⟨size, area ▸ known, fits⟩
      · exact fun _ _ change => absurd (by rw [stores]) change

/-- Any other visit stores nothing. -/
private theorem framed_of_unstored (ran : v.after = v.before.visit v.cid v.answers)
    (none : ∀ d, used v.before v.cid v.answers = some d →
      storedBytes v.before d v.answers = none) : Framed v := by
  cases entry : used v.before v.cid v.answers with
  | none =>
    rw [visit_unused entry] at ran
    exact framed_of_idle (by rw [ran]; rfl) (by rw [ran]; rfl)
  | some d =>
    obtain ⟨stores, stored⟩ := visit_store entry
    rw [← ran, none d entry] at stores stored
    exact framed_of_idle stores stored

/-! ## The entry left from an earlier visit -/

/-- The entry left was requested before. -/
def LeftAsked (s : State) : Prop := ∀ d, s.paramDescriptor = some d → d ∈ s.asked

private theorem left_asked_visit (cid : Cid) (a : Answers) (before : LeftAsked s) :
    LeftAsked (s.visit cid a) := by
  intro d left
  rw [visit_descriptor] at left
  by_cases found : a.info = espOk
  · have entry : used s cid a = some (entryOf cid) := by
      simp [used, found, espOk, espErrNotFound]
    rw [if_pos found, Option.some.injEq] at left
    rw [(visit_did entry).asked, ← left]
    exact List.mem_cons_self
  · rw [if_neg found] at left
    cases entry : used s cid a with
    | none =>
      rw [visit_unused entry]
      exact before d left
    | some other =>
      rw [(visit_did entry).asked]
      exact List.mem_cons_of_mem _ (before d left)

/-- An entry that is not the one of the characteristic was left. -/
private theorem used_left (entry : used s cid a = some d) (other : d ≠ entryOf cid) :
    s.paramDescriptor = some d := by
  unfold used at entry
  split at entry
  · cases entry
  · split at entry
    · exact absurd (Option.some.inj entry).symm other
    · exact entry

/-- What the visits before leave behind. -/
structure Leaves (initial : Store) (s : State) : Prop where
  follows : FollowsRequests initial s
  left : LeftAsked s

private theorem leaves_visit (cid : Cid) (a : Answers) (before : Leaves initial s) :
    Leaves initial (s.visit cid a) :=
  ⟨follows_visit cid a before.follows, left_asked_visit cid a before.left⟩

/-- The power threshold left over is in its field already. -/
private theorem threshold_there (leaves : Leaves initial v.before)
    (left : v.before.paramDescriptor = some thresholdEntry) :
    load v.before.store thresholdEntry.data.1 thresholdEntry.data.2 =
      writtenBytes v.before thresholdEntry := by
  have there := leaves.follows.power
  rwa [if_pos (leaves.left _ left)] at there

/-- The duty cycle left over is not: every request for it asks for another one. -/
private theorem duty_not_there (leaves : Leaves initial v.before)
    (left : v.before.paramDescriptor = some dutyEntry) :
    load v.before.store dutyEntry.data.1 dutyEntry.data.2 ≠ writtenBytes v.before dutyEntry := by
  have there := leaves.follows.duty
  rw [if_pos (leaves.left _ left)] at there
  intro same
  exact next_duty_ne leaves.follows.range (there.symm.trans same)

/-- A `float` get fills the whole of `value`. -/
private theorem float_received (s : State) (a : Answers) (input : d.val.mbParamType = .input) :
    overlay s.value a.received (transferSize d) = a.received := by
  have every : ∀ d ∈ deviceParameters, d.mbParamType = .input → d.paramType = .float := by decide
  have size : transferSize d = 4 := by
    unfold transferSize
    rw [every d.val d.property input]
  funext i
  simp [overlay, size]

/-- The only other field in the structure of the power threshold is the duty cycle's. -/
private theorem threshold_place (cid : Cid) (other : thresholdEntry ≠ entryOf cid) :
    thresholdEntry.data.1 = (entryOf cid).data.1 ↔ cid = 4 := by
  have every : ∀ cid : Cid, thresholdEntry ≠ entryOf cid →
      (thresholdEntry.data.1 = (entryOf cid).data.1 ↔ cid = 4) := by decide
  exact every cid other

private theorem input_place (cid : Cid) (input : d.val.mbParamType = .input) :
    d.data.1 = (entryOf cid).data.1 ↔ (entryOf cid).val.mbParamType = .input := by
  have every : ∀ c cid : Cid, (entryOf c).val.mbParamType = .input →
      ((entryOf c).data.1 = (entryOf cid).data.1 ↔
        (entryOf cid).val.mbParamType = .input) := by decide
  obtain ⟨c, rfl⟩ := entry_of_cid d
  exact every c cid input

/-! ## Runs -/

/-- A visit that uses an input entry. -/
private theorem framed_input_iff (ran : v.after = v.before.visit v.cid v.answers)
    (entry : used v.before v.cid v.answers = some d) (input : d.val.mbParamType = .input) :
    Framed v ↔ (d ≠ entryOf v.cid → v.answers.transfer = espOk →
      (entryOf v.cid).val.mbParamType = .input ∧
        load v.before.store d.data.1 d.data.2 = v.answers.received) := by
  by_cases ok : v.answers.transfer = espOk
  · have bytes : storedBytes v.before d v.answers = some v.answers.received := by
      simp [storedBytes, input, ok, float_received v.before v.answers input]
    rw [framed_store_iff ran entry bytes, StoresInFrame, input_place v.cid input]
    simp only [input, ok, ne_eq, reduceCtorEq, not_false_eq_true, true_and, forall_const]
    tauto
  · refine iff_of_true (framed_of_unstored ran fun other same => ?_)
      (fun _ succeeds => absurd succeeds ok)
    obtain rfl := Option.some.inj (entry.symm.trans same)
    simp [storedBytes, input, ok]

/-- A visit that uses a coil entry. -/
private theorem framed_coil_iff (ran : v.after = v.before.visit v.cid v.answers)
    (entry : used v.before v.cid v.answers = some d) (coil : d.val.mbParamType = .coil) :
    Framed v ↔ v.answers.transfer ≠ espOk := by
  by_cases ok : v.answers.transfer = espOk
  · have bytes : storedBytes v.before d v.answers = some
        (overlay v.before.value v.answers.received (transferSize d)) := by
      simp [storedBytes, coil, ok]
    rw [framed_store_iff ran entry bytes]
    exact iff_of_false (fun inside => inside.1 coil) (fun failed => failed ok)
  · refine iff_of_true (framed_of_unstored ran fun other same => ?_) ok
    obtain rfl := Option.some.inj (entry.symm.trans same)
    simp [storedBytes, coil, ok]

/-- A visit that uses a holding entry. -/
private theorem framed_holding_iff (leaves : Leaves initial v.before)
    (ran : v.after = v.before.visit v.cid v.answers)
    (entry : used v.before v.cid v.answers = some d) (holding : d.val.mbParamType = .holding) :
    Framed v ↔ (d ≠ entryOf v.cid → d = thresholdEntry ∧ v.cid = 4) := by
  have bytes : storedBytes v.before d v.answers = some (writtenBytes v.before d) := by
    simp [storedBytes, holding]
  rw [framed_store_iff ran entry bytes, StoresInFrame]
  have float : d.val.mbParamType ≠ .coil := by simp [holding]
  by_cases own : d = entryOf v.cid
  · simp [own, own ▸ float]
  have left := used_left entry own
  rcases holding_cases holding with rfl | rfl
  · simp [float, own, threshold_place v.cid own, threshold_there leaves left]
  · have distinct : dutyEntry ≠ thresholdEntry := by decide
    simp [own, distinct, duty_not_there leaves left]

/-- **One visit** of a run stays in its field exactly under the condition. -/
theorem framed_iff (leaves : Leaves initial v.before)
    (ran : v.after = v.before.visit v.cid v.answers) : Framed v ↔ KeepsFrame v := by
  constructor
  · intro framed
    exact ⟨fun d entry coil => (framed_coil_iff ran entry coil).mp framed,
      fun d entry other input => (framed_input_iff ran entry input).mp framed other,
      fun d entry other holding => (framed_holding_iff leaves ran entry holding).mp framed other⟩
  · intro keeps
    cases entry : used v.before v.cid v.answers with
    | none =>
      refine framed_of_unstored ran fun d same => ?_
      rw [entry] at same
      cases same
    | some d =>
      rcases entry_kinds d with input | coil | ⟨holding, _⟩
      · exact (framed_input_iff ran entry input).mpr
          fun other => keeps.input d entry other input
      · exact (framed_coil_iff ran entry coil).mpr (keeps.coil d entry coil)
      · exact (framed_holding_iff leaves ran entry holding).mpr
          fun other => keeps.holding d entry other holding

/-- Every visit of a run changes only the field of its characteristic, and stores only in its
structure, exactly when no visit stores for a coil entry and those that store for an entry
left from an earlier visit find what they store in its field. -/
theorem storage_framed_iff (answers : Nat → Cid → Answers) (store : Store) :
    (∀ pass, ∀ v ∈ visits answers store pass, Framed v) ↔
      ∀ pass, ∀ v ∈ visits answers store pass, KeepsFrame v := by
  have leaves : ∀ pass, ∀ v ∈ visits answers store pass, Leaves store v.before := by
    intro pass v member
    have start : Leaves store { store } := ⟨follows_start store, fun d left => nomatch left⟩
    refine (visits_invariant (Leaves store) start ?_ pass v member).1
    intro pass v member before
    rw [(visit_of_mem member).2]
    exact leaves_visit _ _ before
  constructor
  · intro framed pass v member
    exact (framed_iff (leaves pass v member) (visit_of_mem member).2).mp (framed pass v member)
  · intro keeps pass v member
    exact (framed_iff (leaves pass v member) (visit_of_mem member).2).mpr (keeps pass v member)

/-- Every call succeeds and the slave answers with all bits set. -/
def ones : Nat → Cid → Answers := fun _ _ => ⟨espOk, espOk, fun _ => 0xFF⟩

/-- The store for the motor state then overwrites the motor alarm. -/
theorem motor_state_store_is_not_framed :
    ¬ ∀ pass, ∀ v ∈ visits ones (fun _ _ => 0) pass, Framed v := by
  intro framed
  have seen : (5, 0x00, 0xFF) ∈ (visits ones (fun _ _ => 0) 0).map fun v =>
      (v.cid, v.before.store .coil 1, v.after.store .coil 1) := by decide
  obtain ⟨v, member, same⟩ := List.mem_map.mp seen
  simp only [Prod.mk.injEq] at same
  obtain ⟨cid, before, after⟩ := same
  have alarm : InField (entryOf 6) .coil 1 := by
    refine ⟨?_, ?_, ?_⟩ <;> decide
  have kept := (framed 0 v member).others 6 (by rw [cid]; decide) .coil 1 alarm
  rw [before, after] at kept
  exact absurd kept (by decide)

end PowerMonitor.StorageFrame
