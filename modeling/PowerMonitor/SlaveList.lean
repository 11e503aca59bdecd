import PowerMonitor.Dictionary
import PowerMonitor.SlaveResolution

/-! The master's slave registration, as `master/main/modbus.c` and `services.c` run it:
`master_create_slave_list`, `master_query_slave_service` and the retry loop of
`init_services`. The global list and the table of IP addresses are passed explicitly, and
every index at which the table is written is recorded, because nothing in the source keeps
it below the table's size. -/
namespace PowerMonitor.SlaveList
open EspIdf Dictionary SlaveResolution

/-- `slave_addr_entry_t`; nothing reads its `p_data`, which is always `NULL`. -/
structure SlaveAddrEntry where
  index : Nat
  ipAddress : Option String
  slaveAddr : UInt8
  deriving DecidableEq, Repr

/-- `slave_addr_list`, latest entry first, and `slave_ip_address_table`. -/
structure Globals where
  slaveAddrList : List SlaveAddrEntry
  slaveIpAddressTable : List (Option String)
  deriving DecidableEq, Repr

/-- The two objects as they are linked, with a table of `ipTableSz` slots. -/
def Globals.boot (ipTableSz : Nat) : Globals := ⟨[], List.replicate ipTableSz none⟩

/-- `ip_table_sz` of the shipped firmware. -/
def shippedIpTableSz : Nat := 4

/-- The arguments of one `master_create_slave_list` call, with the results of the
`heap_caps_malloc` calls inside it. A call asks for memory at most once per slave: it
returns when the request fails and has registered the slave when it succeeds. -/
structure CreateCall where
  port : UInt16
  results : List MdnsResult
  addrTableSize : Nat
  addrType : MbTcpAddrType
  malloc : UInt8 → Bool

/-- The state of the loop in `master_create_slave_list`. -/
structure CreateState where
  slaveAddrList : List SlaveAddrEntry
  ipTable : List (Option String)
  slaveIp : Option String := none
  ipIndex : Nat := 0
  cidResolveCnt : Nat := 0
  /-- The indices written in `ip_table`, latest first. -/
  writes : List Nat := []
  deriving DecidableEq, Repr

namespace CreateState

/-- `ip_table[ip_index] = ip`. A write past the end changes no slot of the table; it stands
in `writes`. -/
def setSlot (s : CreateState) (ip : Option String) : CreateState :=
  { s with ipTable := s.ipTable.set s.ipIndex ip, writes := s.ipIndex :: s.writes }

@[simp] theorem setSlot_slaveAddrList (s : CreateState) (ip : Option String) :
    (s.setSlot ip).slaveAddrList = s.slaveAddrList := rfl

@[simp] theorem setSlot_ipTable (s : CreateState) (ip : Option String) :
    (s.setSlot ip).ipTable = s.ipTable.set s.ipIndex ip := rfl

@[simp] theorem setSlot_ipIndex (s : CreateState) (ip : Option String) :
    (s.setSlot ip).ipIndex = s.ipIndex := rfl

@[simp] theorem setSlot_cidResolveCnt (s : CreateState) (ip : Option String) :
    (s.setSlot ip).cidResolveCnt = s.cidResolveCnt := rfl

@[simp] theorem setSlot_writes (s : CreateState) (ip : Option String) :
    (s.setSlot ip).writes = s.ipIndex :: s.writes := rfl

/-- `LIST_FOREACH` up to the entry of the slave. -/
def find (s : CreateState) (slaveAddr : UInt8) : Option SlaveAddrEntry :=
  s.slaveAddrList.find? fun it => slaveAddr == it.slaveAddr

end CreateState

/-- One iteration of the loop, at dictionary index `i`. An error leaves the function with
`ESP_ERR_NO_MEM` and the globals of that moment. -/
def createStep (call : CreateCall) (i : Nat) (pdescr : MbParameterDescriptor)
    (s : CreateState) : Except CreateState CreateState :=
  let slaveAddr := pdescr.mbSlaveAddr
  match s.find slaveAddr with
  | none =>
    let (err, slaveIp) :=
      masterResolveSlave call.port slaveAddr call.results s.slaveIp call.addrType
    let s := { s with slaveIp }
    if err ≠ espOk then .ok (s.setSlot none)
    else if call.malloc slaveAddr = false then .error s
    else
      let s := { s with slaveAddrList := ⟨i, slaveIp, slaveAddr⟩ :: s.slaveAddrList }
      let s := s.setSlot slaveIp
      .ok { s with
        cidResolveCnt := s.cidResolveCnt + 1
        ipIndex := if s.ipIndex < call.addrTableSize then s.ipIndex + 1 else s.ipIndex }
  | some it =>
    let s := s.setSlot it.ipAddress
    .ok { s with cidResolveCnt := s.cidResolveCnt + 1 }

def createLoop (call : CreateCall) :
    List MbParameterDescriptor → Nat → CreateState → Int × CreateState
  | [], _, s => (s.cidResolveCnt, s)
  | pdescr :: rest, i, s =>
    match createStep call i pdescr s with
    | .ok s => createLoop call rest (i + 1) s
    | .error s => (espErrNoMem, s)

/-- `master_create_slave_list`: its return value and the state it leaves. -/
def masterCreateSlaveList (dict : ParameterDictionary) (call : CreateCall) (g : Globals) :
    Int × CreateState :=
  let s : CreateState := { slaveAddrList := g.slaveAddrList, ipTable := g.slaveIpAddressTable }
  if call.results = [] then (-1, s) else createLoop call dict.entries 0 s

/-- What one `mdns_query_ptr` answers, and the allocations of the call it leads to. -/
structure QueryOutcome where
  err : EspErr
  results : List MdnsResult
  malloc : UInt8 → Bool

/-- The call `master_query_slave_service` makes with the results of a query. -/
def QueryOutcome.call (o : QueryOutcome) (port : UInt16) (addrType : MbTcpAddrType)
    (g : Globals) : CreateCall :=
  ⟨port, o.results, g.slaveIpAddressTable.length, addrType, o.malloc⟩

/-- `master_query_slave_service`. -/
def masterQuerySlaveService (port : UInt16) (dict : ParameterDictionary)
    (addrType : MbTcpAddrType) (o : QueryOutcome) (g : Globals) : Int × Globals :=
  if o.err ≠ espOk then (0, g)
  else if o.results = [] then (0, g)
  else
    let (count, s) := masterCreateSlaveList dict (o.call port addrType g) g
    (count, ⟨s.slaveAddrList, s.ipTable⟩)

/-- The retry loop of `init_services`, with the retries left: the final `res` and globals. -/
def retryLoop (port : UInt16) (dict : ParameterDictionary) (addrType : MbTcpAddrType)
    (outcome : Nat → QueryOutcome) : Nat → Nat → Int → Globals → Int × Globals
  | 0, _, res, g => (res, g)
  | left + 1, retry, res, g =>
    if res < dict.numDeviceParameters then
      let (res, g) := masterQuerySlaveService port dict addrType (outcome retry) g
      retryLoop port dict addrType outcome left (retry + 1) res g
    else (res, g)

/-- `init_services` from its queries on: ten retries at most, then the check of `res`. -/
def resolveSlaves (port : UInt16) (dict : ParameterDictionary) (addrType : MbTcpAddrType)
    (ipTableSz : Nat) (outcome : Nat → QueryOutcome) : EspErr × Int × Globals :=
  let (res, g) := retryLoop port dict addrType outcome 10 0 0 (Globals.boot ipTableSz)
  if res < dict.numDeviceParameters then (espErrNotFound, res, g) else (espOk, res, g)

end PowerMonitor.SlaveList
