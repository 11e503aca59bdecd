import Mathlib.Data.List.Nodup
import PowerMonitor.SlaveResolution

/-! How an RTU advertises itself (`rtu/main/modbus.c` and `rtu/include/modbus.h`) and whether
the master resolves what it advertised. The two firmwares are built apart: each writes the
instance name and the port on its own side, and only the configuration they share ties them. -/
namespace PowerMonitor.Advertisement
open EspIdf SlaveResolution

/-- The build of one RTU: `CONFIG_MB_SLAVE_ADDR` in 1..255, `CONFIG_FMB_TCP_PORT_DEFAULT`,
`CONFIG_FMB_CONTROLLER_SLAVE_ID`, and the MAC address of its station interface. -/
structure RtuConfig where
  slaveAddr : UInt8
  tcpPort : UInt16
  slaveId : UInt32
  mac : Fin 6 → UInt8
  nonzero : slaveAddr ≠ 0

/-- `MB_MDNS_PORT`. -/
def mbMdnsPort : UInt16 := 502

/-- `MB_MDNS_INSTANCE(pref)`. -/
def mbMdnsInstance (pref : String) : String := pref ++ "mb_slave_tcp"

/-- `MB_ID2STR`: the bytes of the identifier, lowest first. -/
def mbId2Str (id : UInt32) : List UInt8 :=
  [id.toUInt8, (id >>> 8).toUInt8, (id >>> 16).toUInt8, (id >>> 24).toUInt8]

def genMacStr (mac : Fin 6 → UInt8) (pref : String) : String :=
  pref ++ String.join (List.ofFn fun i => hex02X (mac i))

def genIdStr (config : RtuConfig) (serviceName : String) : String :=
  serviceName ++ String.join ((mbId2Str config.slaveId).map hex02X)

def genHostNameStr (config : RtuConfig) (serviceName : String) : String :=
  serviceName ++ "_" ++ hex02X config.slaveAddr

/-- A service as `mdns_service_add` and `mdns_service_txt_item_set` publish it. -/
structure MdnsService where
  instanceName : String
  serviceType : String
  proto : String
  port : UInt16
  txt : List (String × String)
  deriving DecidableEq, Repr

/-- What the mDNS responder of one RTU answers for. -/
structure MdnsResponder where
  hostname : String
  defaultInstance : String
  services : List MdnsService
  deriving DecidableEq, Repr

/-- `start_mdns_service`, when none of its checked calls aborts the firmware. -/
def startMdnsService (config : RtuConfig) : MdnsResponder :=
  let hostname := genHostNameStr config (mbMdnsInstance "")
  { hostname
    defaultInstance := mbMdnsInstance "esp32_"
    services := [{
      instanceName := hostname
      serviceType := "_modbus"
      proto := "_tcp"
      port := mbMdnsPort
      txt := [("board", "esp32"), ("mac", genMacStr config.mac ""),
        ("mb_id", genIdStr config "")] }] }

/-- The RTUs on the network of one master: all are built for its `CONFIG_FMB_TCP_PORT_DEFAULT`
and no two of them for one slave address. -/
structure Network where
  port : UInt16
  rtus : List RtuConfig
  samePort : ∀ config ∈ rtus, config.tcpPort = port
  distinct : (rtus.map (·.slaveAddr)).Nodup

/-- One of the RTUs. -/
abbrev Network.Rtu (network : Network) : Type := { config : RtuConfig // config ∈ network.rtus }

/-- The protocol of an address family. -/
def protocolOf : MbTcpAddrType → MdnsIpProtocol
  | .ipv4 => .v4
  | .ipv6 => .v6

/-- The record carries the instance name and port of a service the RTU advertises, and an
address of the family over its protocol. -/
def Announces (config : RtuConfig) (addrType : MbTcpAddrType) (r : MdnsResult) : Prop :=
  (∃ service ∈ (startMdnsService config).services,
    r.instanceName = service.instanceName ∧ r.port = service.port) ∧
  r.ipProtocol = protocolOf addrType ∧ ∃ a ∈ r.addr, a.isOf addrType = true

/-- The record is under an instance name the RTU advertises. -/
def NamedBy (config : RtuConfig) (r : MdnsResult) : Prop :=
  ∃ service ∈ (startMdnsService config).services, r.instanceName = service.instanceName

/-- The master resolves the RTU, to an address of a record that is the RTU's and no other's. -/
def Agrees (network : Network) (rtu : network.Rtu) (addrType : MbTcpAddrType)
    (results : List MdnsResult) : Prop :=
  ∀ resolvedIp, ∃ ip,
    masterResolveSlave network.port rtu.val.slaveAddr results resolvedIp addrType =
      (espOk, some ip) ∧
    ∃ r ∈ results, NamedBy rtu.val r ∧
      (∀ other ∈ network.rtus, other ≠ rtu.val → ¬ NamedBy other r) ∧
      ∃ a ∈ r.addr, ip = a.text

/-- A record the master accepts for the RTU: its instance name, the configured port, and an
address of the family the protocol does not rule out. -/
def Accepted (config : RtuConfig) (port : UInt16) (addrType : MbTcpAddrType)
    (r : MdnsResult) : Prop :=
  NamedBy config r ∧ r.port = port ∧ Admits addrType r ∧ ∃ a ∈ r.addr, a.isOf addrType = true

variable {network : Network} {config other : RtuConfig} {port : UInt16}
  {addrType : MbTcpAddrType} {r : MdnsResult} {results : List MdnsResult}

/-- The RTU writes the instance name the master looks for. -/
theorem host_name_eq_slave_name (config : RtuConfig) :
    (startMdnsService config).hostname = slaveName config.slaveAddr := by
  have joined : ("" : String) ++ "mb_slave_tcp" ++ "_" = "mb_slave_tcp_" := by decide
  simp only [startMdnsService, genHostNameStr, mbMdnsInstance, slaveName, joined]

@[simp] theorem named_by_iff : NamedBy config r ↔ r.instanceName = slaveName config.slaveAddr := by
  rw [← host_name_eq_slave_name]
  simp [NamedBy, startMdnsService]

theorem announces_iff : Announces config addrType r ↔
    (r.instanceName = slaveName config.slaveAddr ∧ r.port = mbMdnsPort) ∧
      r.ipProtocol = protocolOf addrType ∧ ∃ a ∈ r.addr, a.isOf addrType = true := by
  rw [← host_name_eq_slave_name]
  simp [Announces, startMdnsService]

private theorem admits_of_protocol (same : r.ipProtocol = protocolOf addrType) :
    Admits addrType r := by
  cases addrType <;> simp [Admits, same, protocolOf]

/-- A name resolved for one RTU is not another RTU's. -/
theorem named_by_unique (rtu : network.Rtu)
    (name : r.instanceName = slaveName rtu.val.slaveAddr) (listed : other ∈ network.rtus)
    (apart : other ≠ rtu.val) : ¬ NamedBy other r := by
  rw [named_by_iff, name]
  exact fun same => apart
    (List.inj_on_of_nodup_map network.distinct listed rtu.property (slave_name_injective same.symm))

/-- The master agrees with the RTU exactly when some record is acceptable to it. -/
theorem agrees_iff_accepted (rtu : network.Rtu) : Agrees network rtu addrType results ↔
    ∃ r ∈ results, Accepted rtu.val network.port addrType r := by
  constructor
  · intro agrees
    obtain ⟨ip, call, _⟩ := agrees none
    have found : (resolved network.port addrType results rtu.val.slaveAddr).isSome :=
      master_resolve_slave_ok_iff.mp (by rw [call])
    obtain ⟨text, found⟩ := Option.isSome_iff_exists.mp found
    obtain ⟨r, member, name, portSame, admits, a, carries, family, _⟩ := resolved_from_record found
    exact ⟨r, member, named_by_iff.mpr name, portSame, admits, a, carries, family⟩
  · rintro ⟨r, member, named, portSame, admits, carries⟩ resolvedIp
    have usable := resolved_of_record rtu.val.nonzero member (named_by_iff.mp named) portSame
      admits carries
    rcases master_resolve_slave_cases network.port rtu.val.slaveAddr results resolvedIp addrType
      with ⟨ip, found, call⟩ | ⟨missing, _⟩
    · obtain ⟨source, listed, name, _, _, a, held, _, text⟩ := resolved_from_record found
      exact ⟨ip, call, source, listed, named_by_iff.mpr name,
        fun other member apart => named_by_unique rtu name member apart, a, held, text⟩
    · simp [missing] at usable

/-- An announcing record is acceptable to the master when the ports are the same. -/
theorem accepted_of_announces (announces : Announces config addrType r) :
    Accepted config mbMdnsPort addrType r := by
  obtain ⟨⟨name, portSame⟩, protocol, carries⟩ := announces_iff.mp announces
  exact ⟨named_by_iff.mpr name, portSame, admits_of_protocol protocol, carries⟩

/-- On results in which an RTU announces itself, the master resolves it exactly when the
configured port is `MB_MDNS_PORT` or the results hold a record of the RTU's name at the
configured port as well. -/
theorem advertised_rtu_agrees_iff (network : Network) (rtu : network.Rtu)
    (announced : ∃ r ∈ results, Announces rtu.val addrType r) :
    Agrees network rtu addrType results ↔
      network.port = mbMdnsPort ∨
        ∃ r ∈ results, Accepted rtu.val network.port addrType r := by
  rw [agrees_iff_accepted]
  constructor
  · exact Or.inr
  · rintro (same | accepted)
    · obtain ⟨r, member, announces⟩ := announced
      exact ⟨r, member, same ▸ accepted_of_announces announces⟩
    · exact accepted

/-- An RTU with slave address 1 and its master, both built for port 1502. -/
def port1502 : Network where
  port := 1502
  rtus := [⟨1, 1502, 0x00112233, fun _ => 0, by decide⟩]
  samePort := by decide
  distinct := by decide

/-- The RTU of that network. -/
def rtuAt1502 : port1502.Rtu :=
  ⟨⟨1, 1502, 0x00112233, fun _ => 0, by decide⟩, List.mem_singleton.mpr rfl⟩

private theorem record_announces : Announces rtuAt1502.val .ipv4 recordOfSlave1 := by
  rw [announces_iff]
  decide

theorem port_1502_agrees_iff :
    Agrees port1502 rtuAt1502 .ipv4 [recordOfSlave1] ↔
      port1502.port = mbMdnsPort ∨
        ∃ r ∈ [recordOfSlave1], Accepted rtuAt1502.val port1502.port .ipv4 r :=
  advertised_rtu_agrees_iff port1502 rtuAt1502 ⟨recordOfSlave1, by simp, record_announces⟩

/-- The master does not find the RTU in the record it announces: it is at port 502. -/
theorem port_1502_does_not_agree :
    ¬ ((∃ r ∈ [recordOfSlave1], Announces rtuAt1502.val .ipv4 r) →
      Agrees port1502 rtuAt1502 .ipv4 [recordOfSlave1]) := by
  intro agree
  obtain ⟨ip, call, _⟩ := agree ⟨recordOfSlave1, by simp, record_announces⟩ none
  have failed : (masterResolveSlave 1502 1 [recordOfSlave1] none .ipv4).1 = espErrNotFound := by
    decide
  rw [show masterResolveSlave 1502 1 [recordOfSlave1] none .ipv4 = (espOk, some ip) from call]
    at failed
  simp [espOk, espErrNotFound] at failed

end PowerMonitor.Advertisement
