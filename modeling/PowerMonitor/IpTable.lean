import PowerMonitor.RegistrationPass

/-! The table of slave IP addresses after one `master_create_slave_list` call. The table is
what the Modbus stack connects to: one slot for each slave, in the order of the dictionary,
then a `NULL` marker. Which slots one call decides is read off the cursor table. -/
namespace PowerMonitor.IpTable
open EspIdf Dictionary SlaveResolution SlaveList FirstSight CursorTable RegistrationPass

variable {port : UInt16} {dict : ParameterDictionary} {addrType : MbTcpAddrType}

/-- A call on the master's own list and table, with memory for every entry. -/
def plentifulCall (port : UInt16) (addrType : MbTcpAddrType) (results : List MdnsResult)
    (g : Globals) : CreateCall :=
  ⟨port, results, g.slaveIpAddressTable.length, addrType, fun _ => true⟩

@[simp] theorem answer_plentifulCall (results : List MdnsResult) (g : Globals) :
    answer (plentifulCall port addrType results g) = resolved port addrType results := rfl

/-- The return value of such a call and the state it leaves. -/
def createList (port : UInt16) (dict : ParameterDictionary) (addrType : MbTcpAddrType)
    (results : List MdnsResult) (g : Globals) : Int × CreateState :=
  masterCreateSlaveList dict (plentifulCall port addrType results g) g

/-- The slave that the last dictionary entry belongs to. -/
def lastAddr (dict : ParameterDictionary) : Option UInt8 := dict.slaveAddrs.getLast?

/-- A call with results is one pass over the dictionary that returns its count. -/
theorem create_list_pass (port : UInt16) (dict : ParameterDictionary) (addrType : MbTcpAddrType)
    (nonempty : results ≠ []) (g : Globals) :
    ∃ s', createList port dict addrType results g = ((s'.cidResolveCnt : Int), s') ∧
      Pass (plentifulCall port addrType results g) dict.slaveAddrs
        { slaveAddrList := g.slaveAddrList, ipTable := g.slaveIpAddressTable } s' := by
  obtain ⟨s', run, pass⟩ := create_loop_pass (plentifulCall port addrType results g) dict.entries 0
    { slaveAddrList := g.slaveAddrList, ipTable := g.slaveIpAddressTable } (fun _ _ => rfl)
  exact ⟨s', by simp [createList, masterCreateSlaveList, plentifulCall, nonempty, ← run], pass⟩

/-- Without results the call gives up at once. -/
theorem create_list_nil (g : Globals) :
    createList port dict addrType [] g =
      (-1, { slaveAddrList := g.slaveAddrList, ipTable := g.slaveIpAddressTable }) := by
  simp [createList, masterCreateSlaveList, plentifulCall]

section Call
variable {g : Globals} {results : List MdnsResult} {s' : CreateState}

/-- The slaves one call registers. -/
def newSlaves (port : UInt16) (dict : ParameterDictionary) (addrType : MbTcpAddrType)
    (results : List MdnsResult) (g : Globals) : List UInt8 :=
  fresh (addrs g.slaveAddrList) (resolved port addrType results) dict.slaveAddrs

/-- The writes of one call. -/
def callOps (port : UInt16) (dict : ParameterDictionary) (addrType : MbTcpAddrType)
    (results : List MdnsResult) (g : Globals) : List (Op (Option String)) :=
  slotOps (heldIp g.slaveAddrList) (resolved port addrType results) dict.slaveAddrs

private theorem pushed_call_ops : pushed (callOps port dict addrType results g) =
    (newSlaves port dict addrType results g).map (resolved port addrType results) :=
  pushed_slot_ops _ _ _ _ (held_ip_isSome_iff g.slaveAddrList)

theorem new_slaves_length_le (port : UInt16) (dict : ParameterDictionary)
    (addrType : MbTcpAddrType) (results : List MdnsResult) (g : Globals) :
    (newSlaves port dict addrType results g).length ≤ dict.slaves.length :=
  fresh_length_le _ _ _

/-- With a free slot behind the slaves, every write of the pass is in the table, the cursor
counts the new slaves, and the slots are those of the cursor table. -/
theorem table_after_pass
    (pass : Pass (plentifulCall port addrType results g) dict.slaveAddrs
      { slaveAddrList := g.slaveAddrList, ipTable := g.slaveIpAddressTable } s')
    (room : dict.slaves.length < g.slaveIpAddressTable.length) :
    (∀ w ∈ s'.writes, w < g.slaveIpAddressTable.length) ∧
    s'.ipIndex = (newSlaves port dict addrType results g).length ∧
    s'.ipTable.length = g.slaveIpAddressTable.length ∧
    ∀ k, s'.ipTable[k]? =
      if k < (newSlaves port dict addrType results g).length then
        (newSlaves port dict addrType results g)[k]?.map (resolved port addrType results)
      else if k = (newSlaves port dict addrType results g).length then
        (trailing (callOps port dict addrType results g)).or g.slaveIpAddressTable[k]?
      else g.slaveIpAddressTable[k]? := by
  have few := new_slaves_length_le port dict addrType results g
  have cursor : (⟨s'.ipTable, s'.ipIndex⟩ : Cursor (Option String)) =
      run (callOps port dict addrType results g) ⟨g.slaveIpAddressTable, 0⟩ :=
    pass.slots (by
      rw [Nat.zero_add]
      exact Nat.le_trans few (Nat.le_of_lt room))
  have table : s'.ipTable =
      (run (callOps port dict addrType results g) ⟨g.slaveIpAddressTable, 0⟩).table :=
    congrArg Cursor.table cursor
  have index : s'.ipIndex = (newSlaves port dict addrType results g).length := by
    have pos := congrArg Cursor.pos cursor
    simpa only [run_pos, pushed_call_ops, List.length_map, Nat.zero_add] using pos
  refine ⟨?_, index, by rw [table, run_table_length], fun k => ?_⟩
  · intro w member
    rcases pass.written w member with earlier | inside
    · cases earlier
    · omega
  · rw [table, slot_after_run _ _ (by rw [pushed_call_ops, List.length_map]; omega),
      pushed_call_ops, List.length_map, List.getElem?_map]

/-- What a call leaves under its cursor is decided by the last dictionary entry: the address
of its slave when that is registered before the entry, `NULL` when it is not resolved, and
nothing when the entry itself registers it. -/
theorem trailing_call_ops (entries : dict.slaveAddrs = before ++ [last]) :
    trailing (callOps port dict addrType results g) =
      match heldIp g.slaveAddrList last, resolved port addrType results last with
      | some ip, _ => some ip
      | none, none => some none
      | none, some ip => if last ∈ before then some (some ip) else none := by
  rw [callOps, entries, slot_ops_append, lastOp]
  cases heldIp g.slaveAddrList last with
  | some ip => exact trailing_hold _ _
  | none =>
    cases resolved port addrType results last with
    | none => exact trailing_hold _ _
    | some ip => by_cases seen : last ∈ before <;> simp [seen]

theorem trailing_call_ops_nil (empty : dict.slaveAddrs = []) :
    trailing (callOps port dict addrType results g) = none := by
  rw [callOps, empty]
  rfl

end Call

/-! ## The first call -/

/-- The state after one call on an empty list and an all-`NULL` table. -/
def firstCall (port : UInt16) (dict : ParameterDictionary) (addrType : MbTcpAddrType)
    (ipTableSz : Nat) (results : List MdnsResult) : CreateState :=
  (createList port dict addrType results (Globals.boot ipTableSz)).2

/-- The documented shape of the table: slot `k` holds the address of the `k`-th registered
slave, and the first free slot ends the list. -/
structure OneSlotPerSlave (s : CreateState) : Prop where
  distinct : (addrs s.slaveAddrList).Nodup
  counted : s.ipIndex = s.slaveAddrList.length
  resolvedIps : ∀ e ∈ s.slaveAddrList, e.ipAddress.isSome
  slots : s.ipTable.take s.ipIndex = s.slaveAddrList.reverse.map (·.ipAddress)
  marker : ∀ (k : Nat) (ip : String), s.ipTable[k]? = some (some ip) → k < s.ipIndex

/-- The dictionary does not end in a repeated entry of a slave the results resolve. -/
def EndsInFirstEntry (port : UInt16) (dict : ParameterDictionary) (addrType : MbTcpAddrType)
    (results : List MdnsResult) : Prop :=
  ∀ before last, dict.slaveAddrs = before ++ [last] → last ∈ before →
    resolved port addrType results last = none

/-- The addresses registered by a first call, in the order of registration. -/
private theorem registered_ips
    (pass : Pass (plentifulCall port addrType results (Globals.boot ipTableSz)) dict.slaveAddrs
      { slaveAddrList := [], ipTable := (Globals.boot ipTableSz).slaveIpAddressTable } s') :
    s'.slaveAddrList.reverse.map (·.ipAddress) =
      (newSlaves port dict addrType results (Globals.boot ipTableSz)).map
        (resolved port addrType results) := by
  obtain ⟨new, list, pairs⟩ := pass.enrolled
  simp only [List.append_nil, addrs_nil] at list pairs
  subst list
  have second := congrArg (fun l => (l.map Prod.snd).reverse) pairs
  simpa [List.map_reverse, Function.comp_def, newSlaves, Globals.boot] using second

/-- Whatever the results, the slots below the cursor are the registered slaves, one each. -/
private theorem first_call_slots (port : UInt16) (addrType : MbTcpAddrType)
    (room : dict.slaves.length < ipTableSz) (nonempty : results ≠ []) :
    let s := firstCall port dict addrType ipTableSz results
    (addrs s.slaveAddrList).Nodup ∧ s.ipIndex = s.slaveAddrList.length ∧
      (∀ e ∈ s.slaveAddrList, e.ipAddress.isSome) ∧
      s.ipTable.take s.ipIndex = s.slaveAddrList.reverse.map (·.ipAddress) := by
  obtain ⟨s', run, pass⟩ := create_list_pass port dict addrType nonempty
    (Globals.boot ipTableSz)
  obtain ⟨_, index, _, slot⟩ := table_after_pass pass (by simpa [Globals.boot] using room)
  have ips := registered_ips pass
  simp only [firstCall, run]
  refine ⟨?_, ?_, fun e member => ?_, ?_⟩
  · rw [pass.addrs_eq]
    simpa [Globals.boot] using fresh_nodup _ _ _
  · simpa [index] using (congrArg List.length ips).symm
  · have held : e.ipAddress ∈ s'.slaveAddrList.reverse.map (·.ipAddress) := by
      simpa using ⟨e, member, rfl⟩
    rw [ips] at held
    obtain ⟨a, fresh, same⟩ := List.mem_map.mp held
    rw [← same]
    exact (mem_fresh.mp fresh).2.2
  · rw [ips]
    apply List.ext_getElem?
    intro k
    rw [List.getElem?_take, List.getElem?_map, index]
    split
    · rename_i inside
      rw [slot, if_pos inside]
    · rename_i outside
      rw [List.getElem?_eq_none (Nat.not_lt.mp outside)]
      rfl

/-- A first call leaves no address under its cursor exactly when the dictionary does not end
in a repeated entry of a resolved slave. -/
theorem first_call_parks_none_iff (ipTableSz : Nat) :
    (∀ ip, trailing (callOps port dict addrType results (Globals.boot ipTableSz)) ≠
      some (some ip)) ↔ EndsInFirstEntry port dict addrType results := by
  rcases List.eq_nil_or_concat dict.slaveAddrs with empty | ⟨before, last, entries⟩
  · refine iff_of_true (fun ip => by simp [trailing_call_ops_nil empty]) ?_
    intro before last entries
    simp [empty] at entries
  · rw [List.concat_eq_append] at entries
    have unknown : heldIp (Globals.boot ipTableSz).slaveAddrList last = none := rfl
    have ends : EndsInFirstEntry port dict addrType results ↔
        (last ∈ before → resolved port addrType results last = none) := by
      refine ⟨fun ends => ends before last entries, fun missed first final split repeated => ?_⟩
      obtain ⟨rfl, same⟩ := List.append_inj' (entries.symm.trans split) rfl
      obtain rfl := List.singleton_inj.mp same
      exact missed repeated
    rw [ends, trailing_call_ops entries, unknown]
    cases resolved port addrType results last with
    | none => simp
    | some ip => by_cases repeated : last ∈ before <;> simp [repeated]

/-- The slot under the cursor ends the list exactly when the dictionary does not end in a
repeated entry of a resolved slave. -/
theorem first_call_marker_iff (room : dict.slaves.length < ipTableSz) (nonempty : results ≠ []) :
    (∀ (k : Nat) (ip : String),
      (firstCall port dict addrType ipTableSz results).ipTable[k]? = some (some ip) →
        k < (firstCall port dict addrType ipTableSz results).ipIndex) ↔
    EndsInFirstEntry port dict addrType results := by
  obtain ⟨s', run, pass⟩ := create_list_pass port dict addrType nonempty
    (Globals.boot ipTableSz)
  obtain ⟨_, index, _, slot⟩ := table_after_pass pass (by simpa [Globals.boot] using room)
  have blank (k : Nat) (ip : String) :
      (Globals.boot ipTableSz).slaveIpAddressTable[k]? ≠ some (some ip) := by
    simp [Globals.boot, List.getElem?_replicate]
  rw [← first_call_parks_none_iff ipTableSz]
  simp only [firstCall, run, index]
  constructor
  · intro marker ip parked
    refine absurd (marker _ ip ?_) (Nat.lt_irrefl _)
    rw [slot, if_neg (Nat.lt_irrefl _), if_pos rfl, parked]
    rfl
  · intro unparked k ip filled
    by_contra outside
    rw [slot, if_neg outside] at filled
    split at filled
    · cases left : trailing (callOps port dict addrType results (Globals.boot ipTableSz)) with
      | none =>
        rw [left, Option.none_or] at filled
        exact blank k ip filled
      | some value =>
        rw [left, Option.some_or] at filled
        exact unparked ip (left.trans filled)
    · exact blank k ip filled

/-- One call leaves one slot for each registered slave and then the end marker exactly when
the dictionary does not end in a repeated entry of a slave the results resolve. -/
theorem one_slot_per_slave_iff (room : dict.slaves.length < ipTableSz) :
    OneSlotPerSlave (firstCall port dict addrType ipTableSz results) ↔
      EndsInFirstEntry port dict addrType results := by
  by_cases nonempty : results = []
  · subst nonempty
    refine iff_of_true ?_ (fun _ _ _ _ => resolved_nil)
    rw [firstCall, create_list_nil]
    exact ⟨List.nodup_nil, rfl, (fun _ member => nomatch member), rfl,
      fun k ip filled => by simp [Globals.boot, List.getElem?_replicate] at filled⟩
  · obtain ⟨distinct, counted, resolvedIps, slots⟩ := first_call_slots port addrType room
      nonempty
    rw [← first_call_marker_iff room nonempty]
    exact ⟨fun holds => holds.marker,
      fun marker => ⟨distinct, counted, resolvedIps, slots, marker⟩⟩

theorem shipped_first_call_iff :
    OneSlotPerSlave (firstCall 502 shipped .ipv4 shippedIpTableSz [recordOfSlave1]) ↔
      EndsInFirstEntry 502 shipped .ipv4 [recordOfSlave1] :=
  one_slot_per_slave_iff (by decide)

/-- The shipped dictionary has seven entries for one slave: its address fills a second slot
and the table has no marker behind the first. -/
theorem shipped_first_call_fills_two_slots :
    ¬ OneSlotPerSlave (firstCall 502 shipped .ipv4 shippedIpTableSz [recordOfSlave1]) := by
  intro holds
  have second : (firstCall 502 shipped .ipv4 shippedIpTableSz [recordOfSlave1]).ipTable[1]? =
      some (some "192.168.1.21") := by decide
  have cursor : (firstCall 502 shipped .ipv4 shippedIpTableSz [recordOfSlave1]).ipIndex = 1 := by
    decide
  have inside := holds.marker 1 _ second
  rw [cursor] at inside
  exact absurd inside (by decide)

end PowerMonitor.IpTable
