import PowerMonitor.EspIdf

/-! Resolution of one slave address in an mDNS result list: `master_get_slave_ip_str` and
`master_resolve_slave` of the master's `modbus.c`. The two nested searches are then stated
as one first-match search, which is what the registration of slaves rests on.
`CONFIG_FMB_TCP_PORT_DEFAULT` is a parameter: it is fixed when the firmware is built. -/
namespace PowerMonitor.SlaveResolution
open EspIdf

/-- The first address of the requested family. An `asprintf` that fails aborts the
firmware, so a call that returns has printed the address. -/
def masterGetSlaveIpStr : List IpAddr → MbTcpAddrType → Option String
  | [], _ => none
  | a :: next, addrType =>
    if a.isOf addrType then some a.text else masterGetSlaveIpStr next addrType

/-- `sprintf(slave_name, "mb_slave_tcp_%02X", short_addr)`. -/
def slaveName (shortAddr : UInt8) : String := "mb_slave_tcp_" ++ hex02X shortAddr

/-- The `for` loop of `master_resolve_slave` over the remaining results. -/
def resolveLoop (port : UInt16) (name : String) (addrType : MbTcpAddrType) :
    List MdnsResult → Option String
  | [] => none
  | r :: next =>
    if r.ipProtocol = .v4 ∧ addrType = .ipv6 then resolveLoop port name addrType next
    else if r.ipProtocol = .v6 ∧ addrType = .ipv4 then resolveLoop port name addrType next
    else if r.instanceName = name ∧ r.port = port then
      match masterGetSlaveIpStr r.addr addrType with
      | some slaveIp => some slaveIp
      -- A matching record without a usable address does not stop the search.
      | none => resolveLoop port name addrType next
    else resolveLoop port name addrType next

/-- `master_resolve_slave`: its return code and the contents of `*resolved_ip` afterwards.
Callers always pass the address of a pointer, so `resolved_ip` itself is not `NULL`. -/
def masterResolveSlave (port : UInt16) (shortAddr : UInt8) (result : List MdnsResult)
    (resolvedIp : Option String) (addrType : MbTcpAddrType) : EspErr × Option String :=
  if shortAddr = 0 ∨ result = [] then (espErrInvalidArg, resolvedIp)
  else
    match resolveLoop port (slaveName shortAddr) addrType result with
    | some slaveIp => (espOk, some slaveIp)
    | none => (espErrNotFound, none)

/-- The record's protocol does not rule out the requested family. -/
def Admits (addrType : MbTcpAddrType) (r : MdnsResult) : Prop :=
  ¬ (r.ipProtocol = .v4 ∧ addrType = .ipv6) ∧ ¬ (r.ipProtocol = .v6 ∧ addrType = .ipv4)

instance : DecidablePred (Admits addrType) := fun _ => inferInstanceAs (Decidable (_ ∧ _))

/-- The address one record offers for an instance name. -/
def recordIp (port : UInt16) (name : String) (addrType : MbTcpAddrType) (r : MdnsResult) :
    Option String :=
  if Admits addrType r ∧ r.instanceName = name ∧ r.port = port then
    (r.addr.find? (·.isOf addrType)).map IpAddr.text
  else none

/-- What a result list resolves a slave address to. -/
def resolved (port : UInt16) (addrType : MbTcpAddrType) (result : List MdnsResult)
    (shortAddr : UInt8) : Option String :=
  if shortAddr = 0 then none
  else result.findSome? (recordIp port (slaveName shortAddr) addrType)

theorem master_get_slave_ip_str_first (addr : List IpAddr) (addrType : MbTcpAddrType) :
    masterGetSlaveIpStr addr addrType = (addr.find? (·.isOf addrType)).map IpAddr.text := by
  induction addr with
  | nil => rfl
  | cons a next ih =>
    by_cases family : a.isOf addrType <;> simp [masterGetSlaveIpStr, family, ih]

/-- The loop yields the first record that offers an address. -/
theorem resolve_loop_first (port : UInt16) (name : String) (addrType : MbTcpAddrType)
    (result : List MdnsResult) :
    resolveLoop port name addrType result =
      result.findSome? (recordIp port name addrType) := by
  induction result with
  | nil => rfl
  | cons r next ih =>
    simp only [resolveLoop, master_get_slave_ip_str_first, List.findSome?_cons, recordIp, Admits]
    by_cases four : r.ipProtocol = .v4 ∧ addrType = .ipv6
    · obtain ⟨protocol, rfl⟩ := four
      simp [protocol, ih]
    by_cases six : r.ipProtocol = .v6 ∧ addrType = .ipv4
    · obtain ⟨protocol, rfl⟩ := six
      simp [protocol, ih]
    by_cases named : r.instanceName = name ∧ r.port = port
    · simp only [four, six, named, ↓reduceIte, not_false_eq_true, and_self]
      cases (r.addr.find? (·.isOf addrType)).map IpAddr.text with
      | none => exact ih
      | some ip => rfl
    · simp only [four, six, named, ↓reduceIte, and_false]
      exact ih

/-- A call reports success exactly with the address the list resolves the slave to, and any
other return is an error code. -/
theorem master_resolve_slave_cases (port : UInt16) (shortAddr : UInt8)
    (result : List MdnsResult) (resolvedIp : Option String) (addrType : MbTcpAddrType) :
    (∃ ip, resolved port addrType result shortAddr = some ip ∧
      masterResolveSlave port shortAddr result resolvedIp addrType = (espOk, some ip)) ∨
    (resolved port addrType result shortAddr = none ∧
      (masterResolveSlave port shortAddr result resolvedIp addrType).1 ≠ espOk) := by
  unfold masterResolveSlave resolved
  by_cases zero : shortAddr = 0
  · exact Or.inr ⟨by simp [zero], by simp [zero, espErrInvalidArg, espOk]⟩
  by_cases empty : result = []
  · exact Or.inr ⟨by simp [empty], by simp [empty, espErrInvalidArg, espOk]⟩
  simp only [zero, empty, or_self, ↓reduceIte, resolve_loop_first]
  cases result.findSome? (recordIp port (slaveName shortAddr) addrType) with
  | none => exact Or.inr ⟨rfl, by simp [espErrNotFound, espOk]⟩
  | some ip => exact Or.inl ⟨ip, rfl, rfl⟩

/-- Success is a property of the list and the address alone. -/
theorem master_resolve_slave_ok_iff :
    (masterResolveSlave port shortAddr result resolvedIp addrType).1 = espOk ↔
      (resolved port addrType result shortAddr).isSome := by
  rcases master_resolve_slave_cases port shortAddr result resolvedIp addrType with
    ⟨ip, found, call⟩ | ⟨missing, failed⟩
  · simp [found, call]
  · simp [missing, failed]

/-- A resolved address is the text of an address carried by a record with the slave's
instance name and the configured port. -/
theorem resolved_from_record (found : resolved port addrType result shortAddr = some ip) :
    ∃ r ∈ result, r.instanceName = slaveName shortAddr ∧ r.port = port ∧ Admits addrType r ∧
      ∃ a ∈ r.addr, a.isOf addrType = true ∧ ip = a.text := by
  unfold resolved at found
  split at found
  · cases found
  · obtain ⟨r, member, offered⟩ := List.exists_of_findSome?_eq_some found
    unfold recordIp at offered
    split at offered
    · rename_i matching
      obtain ⟨a, first, text⟩ := Option.map_eq_some_iff.mp offered
      exact ⟨r, member, matching.2.1, matching.2.2, matching.1, a, List.mem_of_find?_eq_some first,
        by simpa using List.find?_some first, text.symm⟩
    · cases offered

/-- A usable record anywhere in the list makes the resolution succeed. -/
theorem resolved_of_record (nonzero : shortAddr ≠ 0) (member : r ∈ result)
    (name : r.instanceName = slaveName shortAddr) (portSame : r.port = port)
    (admits : Admits addrType r) (carries : ∃ a ∈ r.addr, a.isOf addrType = true) :
    (resolved port addrType result shortAddr).isSome := by
  simp only [resolved, nonzero, ↓reduceIte, List.findSome?_isSome_iff]
  refine ⟨r, member, ?_⟩
  simpa [recordIp, admits, name, portSame] using carries

theorem resolved_nonzero (found : resolved port addrType result shortAddr = some ip) :
    shortAddr ≠ 0 := by
  rintro rfl
  simp [resolved] at found

@[simp] theorem resolved_nil : resolved port addrType [] shortAddr = none := by
  simp [resolved]

/-- Distinct slaves have distinct instance names. -/
theorem slave_name_injective (same : slaveName a = slaveName b) : a = b :=
  hex02X_injective (by simpa [slaveName] using same)

/-- The record of an RTU with slave address 1, as the README's log shows its address. -/
def recordOfSlave1 : MdnsResult := ⟨.v4, "mb_slave_tcp_01", 502, [.v4 192 168 1 21]⟩

/-- The record of an RTU with slave address 2 next to it. -/
def recordOfSlave2 : MdnsResult := ⟨.v4, "mb_slave_tcp_02", 502, [.v4 192 168 1 22]⟩

end PowerMonitor.SlaveResolution
