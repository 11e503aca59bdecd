import PowerMonitor.RegistrationPass

/-! Where `master_create_slave_list` writes the table of IP addresses. Every entry of the
dictionary writes the slot under the cursor, but only the move of the cursor is guarded: once
as many slaves are new as the table has slots, the cursor stands behind the last slot. -/
namespace PowerMonitor.TableBounds
open EspIdf Dictionary SlaveResolution SlaveList FirstSight RegistrationPass

/-- The memory for the slave's entry is refused. -/
def Refused (call : CreateCall) (known : List UInt8) (slaveAddr : UInt8) : Prop :=
  slaveAddr ∉ known ∧ (answer call slaveAddr).isSome ∧ call.malloc slaveAddr = false

instance (call : CreateCall) (known : List UInt8) : DecidablePred (Refused call known) :=
  fun _ => inferInstanceAs (Decidable (_ ∧ _ ∧ _))

/-- The slave addresses of the dictionary that a call gets through: all of them, unless the
memory for an entry is refused. -/
def handled (call : CreateCall) (known : List UInt8) (keys : List UInt8) : List UInt8 :=
  keys.takeWhile fun a => ¬ Refused call known a

/-- The slaves a call registers before the last dictionary entry it gets through. -/
def newBeforeLast (call : CreateCall) (known : List UInt8) (keys : List UInt8) : List UInt8 :=
  fresh known (answer call) (handled call known keys).dropLast

/-- Every index written in the table is one of its slots. -/
def InBounds (call : CreateCall) (s : CreateState) : Prop := ∀ w ∈ s.writes, w < call.addrTableSize

variable {call : CreateCall} {s : CreateState} {slaveAddr : UInt8} {known keys : List UInt8}

/-- An iteration that writes keeps to the table when the cursor is in it. -/
private theorem in_bounds_after_write {s' : CreateState}
    (written : s'.writes = s.ipIndex :: s.writes) :
    InBounds call s' ↔ s.ipIndex < call.addrTableSize ∧ InBounds call s := by
  simp [InBounds, written]

private theorem handled_cons_of_refused (refused : Refused call known slaveAddr) :
    handled call known (slaveAddr :: keys) = [] := by
  simp [handled, refused]

private theorem handled_cons (granted : ¬ Refused call known slaveAddr) :
    handled call known (slaveAddr :: keys) = slaveAddr :: handled call known keys := by
  simp [handled, granted]

/-- A slave that is registered on the way does not change who is refused. -/
private theorem handled_registered (allowed : call.malloc slaveAddr = true) :
    handled call (slaveAddr :: known) keys = handled call known keys := by
  unfold handled
  congr 1
  funext a
  by_cases same : a = slaveAddr
  · subst same
    simp [Refused, allowed]
  · simp [Refused, same]

/-- The bound on the cursor behind the last write of a loop, from a state on. -/
def RoomFrom (call : CreateCall) (s : CreateState) (keys : List UInt8) : Prop :=
  handled call (addrs s.slaveAddrList) keys = [] ∨
    s.ipIndex + (newBeforeLast call (addrs s.slaveAddrList) keys).length < call.addrTableSize

/-- An entry that leaves the cursor writes where the entries after it go on. -/
private theorem room_from_cons_hold {s' : CreateState}
    (granted : ¬ Refused call (addrs s.slaveAddrList) slaveAddr)
    (list : s'.slaveAddrList = s.slaveAddrList) (index : s'.ipIndex = s.ipIndex)
    (skipped : slaveAddr ∈ addrs s.slaveAddrList ∨ answer call slaveAddr = none) :
    RoomFrom call s (slaveAddr :: keys) ↔
      s.ipIndex < call.addrTableSize ∧ RoomFrom call s' keys := by
  unfold RoomFrom newBeforeLast
  rw [handled_cons granted, list, index]
  cases rest : handled call (addrs s.slaveAddrList) keys with
  | nil => simp [fresh]
  | cons next more =>
    have same : fresh (addrs s.slaveAddrList) (answer call) (slaveAddr :: (next :: more).dropLast) =
        fresh (addrs s.slaveAddrList) (answer call) (next :: more).dropLast := by
      rw [fresh, if_pos skipped]
    simp only [List.dropLast_cons_cons, same, reduceCtorEq, false_or]
    omega

/-- An entry that registers its slave moves the cursor on. -/
private theorem room_from_cons_register (i : Nat) (ip : String)
    (unknown : slaveAddr ∉ addrs s.slaveAddrList) (resolves : answer call slaveAddr = some ip)
    (allowed : call.malloc slaveAddr = true) :
    RoomFrom call s (slaveAddr :: keys) ↔
      s.ipIndex < call.addrTableSize ∧
        RoomFrom call (registerSlave call i slaveAddr ip s) keys := by
  have granted : ¬ Refused call (addrs s.slaveAddrList) slaveAddr := by simp [Refused, allowed]
  have grown : addrs (registerSlave call i slaveAddr ip s).slaveAddrList =
      slaveAddr :: addrs s.slaveAddrList := rfl
  unfold RoomFrom newBeforeLast
  rw [handled_cons granted, grown, handled_registered allowed]
  cases rest : handled call (addrs s.slaveAddrList) keys with
  | nil => simp [fresh]
  | cons next more =>
    have new : fresh (addrs s.slaveAddrList) (answer call) (slaveAddr :: (next :: more).dropLast) =
        slaveAddr :: fresh (slaveAddr :: addrs s.slaveAddrList) (answer call)
          (next :: more).dropLast := by
      rw [fresh, if_neg (by simp [unknown, resolves])]
    simp only [List.dropLast_cons_cons, new, reduceCtorEq, false_or, List.length_cons,
      registerSlave]
    split <;> omega

/-- **The loop.** Its writes stay in the table exactly when the slaves registered before its
last write leave a slot. -/
theorem create_loop_in_bounds_iff (call : CreateCall) (entries : List MbParameterDescriptor)
    (i : Nat) (s : CreateState) :
    InBounds call (createLoop call entries i s).2 ↔
      InBounds call s ∧ RoomFrom call s (entries.map (·.mbSlaveAddr)) := by
  induction entries, i, s using create_loop_induction call with
  | done i s => simp [createLoop, RoomFrom, handled]
  | registered d entries i s it found run ih =>
    have known := mem_addrs_of_find found
    have room : RoomFrom call s (d.mbSlaveAddr :: entries.map (·.mbSlaveAddr)) ↔
        s.ipIndex < call.addrTableSize ∧
          RoomFrom call { s.setSlot it.ipAddress with cidResolveCnt := s.cidResolveCnt + 1 }
            (entries.map (·.mbSlaveAddr)) :=
      room_from_cons_hold (by simp [Refused, known]) rfl rfl (Or.inl known)
    rw [run, ih, List.map_cons, room, in_bounds_after_write (s := s) rfl]
    tauto
  | unresolved d entries i s slaveIp absent missed run ih =>
    have room : RoomFrom call s (d.mbSlaveAddr :: entries.map (·.mbSlaveAddr)) ↔
        s.ipIndex < call.addrTableSize ∧
          RoomFrom call ({ s with slaveIp }.setSlot none) (entries.map (·.mbSlaveAddr)) :=
      room_from_cons_hold (by simp [Refused, missed]) rfl rfl (Or.inr missed)
    rw [run, ih, List.map_cons, room, in_bounds_after_write (s := s) rfl]
    tauto
  | refused d entries i s ip absent resolves denied run =>
    have refused : Refused call (addrs s.slaveAddrList) d.mbSlaveAddr :=
      ⟨find_none_iff.mp absent, by simp [resolves], denied⟩
    rw [run, List.map_cons, RoomFrom, handled_cons_of_refused refused]
    simp only [true_or, and_true]
    exact Iff.rfl
  | registers d entries i s ip absent resolves allowed run ih =>
    have room : RoomFrom call s (d.mbSlaveAddr :: entries.map (·.mbSlaveAddr)) ↔
        s.ipIndex < call.addrTableSize ∧
          RoomFrom call (registerSlave call i d.mbSlaveAddr ip s)
            (entries.map (·.mbSlaveAddr)) :=
      room_from_cons_register i ip (find_none_iff.mp absent) resolves allowed
    rw [run, ih, List.map_cons, room, in_bounds_after_write (s := s) rfl]
    tauto

/-- Every write of a call is in the table exactly when fewer slaves than the table has slots
are registered before the last dictionary entry the call gets through. -/
theorem table_writes_in_bounds_iff (dict : ParameterDictionary) (call : CreateCall) (g : Globals)
    (positive : 0 < call.addrTableSize) :
    InBounds call (masterCreateSlaveList dict call g).2 ↔
      (newBeforeLast call (addrs g.slaveAddrList) dict.slaveAddrs).length < call.addrTableSize := by
  by_cases empty : call.results = []
  · have none : ∀ a, answer call a = Option.none := by simp [answer, empty]
    refine iff_of_true ?_ ?_
    · simp [masterCreateSlaveList, empty, InBounds]
    · simpa [newBeforeLast, fresh_eq_filter, none] using positive
  · rw [masterCreateSlaveList, if_neg empty, create_loop_in_bounds_iff]
    have start : InBounds call
        { slaveAddrList := g.slaveAddrList, ipTable := g.slaveIpAddressTable } := by
      simp [InBounds]
    simp only [start, true_and, RoomFrom, Nat.zero_add]
    refine ⟨fun room => ?_, Or.inr⟩
    rcases room with none | below
    · simpa [newBeforeLast, ParameterDictionary.slaveAddrs, none, fresh] using positive
    · exact below

/-- The shipped table has room behind its only slave. -/
theorem shipped_table_in_bounds_iff :
    InBounds ⟨502, [recordOfSlave1], 4, .ipv4, fun _ => true⟩
        (masterCreateSlaveList shipped ⟨502, [recordOfSlave1], 4, .ipv4, fun _ => true⟩
          (Globals.boot 4)).2 ↔
      (newBeforeLast ⟨502, [recordOfSlave1], 4, .ipv4, fun _ => true⟩ []
        shipped.slaveAddrs).length < 4 :=
  table_writes_in_bounds_iff shipped _ (Globals.boot 4) (by decide)

/-- A table of one slot and two slaves: the second is written behind the table. -/
theorem second_slave_written_behind_table :
    ¬ ∀ (dict : ParameterDictionary) (call : CreateCall) (g : Globals), 0 < call.addrTableSize →
      InBounds call (masterCreateSlaveList dict call g).2 := by
  intro bounded
  have write := bounded ⟨[voltage, { current with mbSlaveAddr := 2 }], by decide⟩
    ⟨502, [recordOfSlave1, recordOfSlave2], 1, .ipv4, fun _ => true⟩ (Globals.boot 1) (by decide)
  exact absurd (write 1 (by decide)) (by decide)

end PowerMonitor.TableBounds
