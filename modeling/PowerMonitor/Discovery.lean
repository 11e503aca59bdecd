import PowerMonitor.Advertisement
import PowerMonitor.Services
import PowerMonitor.StartUp

/-! When the master's start-up succeeds, and what it then knows of the RTUs on its network. A
query that fails or finds nothing returns zero, whatever earlier queries found: only a query
with results can end the retries, once every slave of the dictionary has been resolved. -/
namespace PowerMonitor.Discovery
open EspIdf Dictionary SlaveResolution SlaveList Services RegistrationPass QueryService StartUp
open Advertisement

section
variable (port : UInt16) (dict : ParameterDictionary) (addrType : MbTcpAddrType)
  (outcome : Outcomes)

/-- One of the queries up to this one resolved the slave. -/
def AnsweredBy (k : Nat) (a : UInt8) : Prop :=
  ∃ j ≤ k, (queryAnswer port addrType (outcome j) a).isSome

/-- The query delivers results, and every slave of the dictionary was resolved by it or by an
earlier one. -/
def Concludes (k : Nat) : Prop :=
  Reaches (outcome k) ∧ ∀ a ∈ dict.slaveAddrs, AnsweredBy port addrType outcome k a

end

variable {port : UInt16} {dict : ParameterDictionary} {addrType : MbTcpAddrType}
  {outcome : Outcomes} {g : Globals} {k : Nat} {a : UInt8}

/-- Between queries, the registered slaves of the dictionary are those resolved so far. -/
private theorem registered_iff (sound : Sound port dict addrType outcome (k + 1) g)
    (complete : Complete port dict addrType outcome (k + 1) g) (named : a ∈ dict.slaveAddrs) :
    a ∈ addrs g.slaveAddrList ↔ AnsweredBy port addrType outcome k a := by
  constructor
  · intro member
    obtain ⟨e, held, rfl⟩ := List.mem_map.mp member
    obtain ⟨_, j, early, ip, _, resolves⟩ := sound e held
    exact ⟨j, Nat.le_of_lt_succ early, by rw [resolves]; rfl⟩
  · rintro ⟨j, early, answered⟩
    exact complete a named j (Nat.lt_succ_of_le early) answered

/-- **One query.** It returns the size of a dictionary exactly when it concludes. -/
theorem query_concludes_iff (sound : Sound port dict addrType outcome k g)
    (complete : Complete port dict addrType outcome k g)
    (granted : Granted port dict addrType (outcome k) g) (some : 0 < dict.numDeviceParameters) :
    (dict.numDeviceParameters : Int) ≤
        (masterQuerySlaveService port dict addrType (outcome k) g).1 ↔
      Concludes port dict addrType outcome k := by
  have registered {a : UInt8} (named : a ∈ dict.slaveAddrs) :=
    registered_iff (sound_query sound) (complete_query complete granted) named
  constructor
  · intro enough
    have reaches : Reaches (outcome k) := by
      by_contra missed
      rw [query_not_reaches missed] at enough
      omega
    refine ⟨reaches, fun a named => (registered named).mp ?_⟩
    exact enough_registers_every granted enough a named
  · rintro ⟨reaches, every⟩
    rw [query_counts reaches granted, Int.ofNat_le, ← ParameterDictionary.slaveAddrs_length]
    apply Nat.le_of_eq
    refine (List.countP_eq_length.mpr fun a named => ?_).symm
    exact decide_eq_true ((registered named).mpr (every a named))

/-- What a query returns is not negative. -/
private theorem query_nonneg (port : UInt16) (dict : ParameterDictionary) (addrType : MbTcpAddrType)
    (o : QueryOutcome) (g : Globals) : 0 ≤ (masterQuerySlaveService port dict addrType o g).1 := by
  by_cases granted : Granted port dict addrType o g
  · by_cases reaches : Reaches o
    · rw [query_counts reaches granted]
      exact Int.natCast_nonneg _
    · simp [query_not_reaches reaches]
  · rw [(query_refused granted).1]
    decide

/-- The retries end with the size of the dictionary exactly when they start with it or some
query left concludes. -/
theorem retry_loop_concludes_iff (left : Nat) (res : Int) (total : k + left = 10)
    (sound : Sound port dict addrType outcome k g)
    (complete : Complete port dict addrType outcome k g)
    (enough : MemorySufficesFrom port dict addrType outcome k) (count : 0 ≤ res) :
    (dict.numDeviceParameters : Int) ≤ (retryLoop port dict addrType outcome left k res g).1 ↔
      (dict.numDeviceParameters : Int) ≤ res ∨
        ∃ j, k ≤ j ∧ j < 10 ∧ Concludes port dict addrType outcome j := by
  induction left generalizing k res g with
  | zero =>
    refine ⟨Or.inl, ?_⟩
    rintro (full | ⟨j, after, within, _⟩)
    · exact full
    · omega
  | succ left ih =>
    by_cases again : res < dict.numDeviceParameters
    · have granted := granted_of_suffices (by omega) complete enough
      have here := query_concludes_iff sound complete granted (by omega)
      simp only [retryLoop, again, ↓reduceIte]
      rw [ih _ (by omega) (sound_query sound) (complete_query complete granted)
        (fun j after => enough j (by omega)) (query_nonneg _ _ _ _ _), here]
      constructor
      · rintro (now | ⟨j, after, within, concludes⟩)
        · exact Or.inr ⟨k, Nat.le_refl k, by omega, now⟩
        · exact Or.inr ⟨j, by omega, within, concludes⟩
      · rintro (full | ⟨j, after, within, concludes⟩)
        · omega
        · rcases Nat.eq_or_lt_of_le after with rfl | later
          · exact Or.inl concludes
          · exact Or.inr ⟨j, later, within, concludes⟩
    · simp only [retryLoop, again, ↓reduceIte]
      exact iff_of_true (Int.not_lt.mp again) (Or.inl (Int.not_lt.mp again))

/-! ## Start-up -/

private theorem sound_boot (ipTableSz : Nat) :
    Sound port dict addrType outcome 0 (Globals.boot ipTableSz) := fun _ member => nomatch member

private theorem complete_boot (ipTableSz : Nat) :
    Complete port dict addrType outcome 0 (Globals.boot ipTableSz) :=
  fun _ _ j within => absurd within (Nat.not_lt_zero j)

theorem resolve_slaves_result (ipTableSz : Nat) :
    (resolveSlaves port dict addrType ipTableSz outcome).2 =
      retryLoop port dict addrType outcome 10 0 0 (Globals.boot ipTableSz) := by
  unfold resolveSlaves
  dsimp only
  split <;> rfl

/-- The condition under which the start-up succeeds. -/
private theorem succeeds_iff (ipTableSz : Nat)
    (enough : MemorySufficesFrom port dict addrType outcome 0) :
    (resolveSlaves port dict addrType ipTableSz outcome).1 = espOk ↔
      dict.numDeviceParameters = 0 ∨ ∃ k < 10, Concludes port dict addrType outcome k := by
  rw [resolve_slaves_ok_iff, resolve_slaves_result, retry_loop_concludes_iff 10 0 rfl
    (sound_boot ipTableSz) (complete_boot ipTableSz) enough (Int.le_refl 0)]
  simp only [Nat.zero_le, true_and, Int.natCast_nonpos_iff]

/-- Queries that do not succeed end in `ESP_ERR_NOT_FOUND`. -/
theorem resolve_slaves_code (port : UInt16) (dict : ParameterDictionary)
    (addrType : MbTcpAddrType) (ipTableSz : Nat) (outcome : Outcomes) :
    (resolveSlaves port dict addrType ipTableSz outcome).1 = espOk ∨
      (resolveSlaves port dict addrType ipTableSz outcome).1 = espErrNotFound := by
  unfold resolveSlaves
  dsimp only
  split
  · exact Or.inr rfl
  · exact Or.inl rfl

/-- With memory for the entries it makes, `init_services` returns `ESP_OK` exactly when its
calls up to the queries succeed and the dictionary is empty or one of the ten queries delivers
results after every slave of the dictionary has been resolved by it or an earlier one. It returns
`ESP_ERR_NOT_FOUND` exactly when the calls succeed and there is no such query. When a call fails
it aborts or returns `ESP_ERR_INVALID_STATE`, with no slave registered. -/
theorem init_services_succeeds_iff (connectWifi : Bool) (a : ServiceAnswers) (port : UInt16)
    (dict : ParameterDictionary) (addrType : MbTcpAddrType) (ipTableSz : Nat)
    (outcome : Outcomes) (enough : MemorySufficesFrom port dict addrType outcome 0) :
    ((initServices connectWifi a port dict addrType ipTableSz outcome).1 = .returned espOk ↔
      CameUp connectWifi a ∧
        (dict.numDeviceParameters = 0 ∨ ∃ k < 10, Concludes port dict addrType outcome k)) ∧
    ((initServices connectWifi a port dict addrType ipTableSz outcome).1 =
        .returned espErrNotFound ↔
      CameUp connectWifi a ∧
        ¬ (dict.numDeviceParameters = 0 ∨ ∃ k < 10, Concludes port dict addrType outcome k)) ∧
    (¬ CameUp connectWifi a →
      EndsEarly (initServices connectWifi a port dict addrType ipTableSz outcome).1 ∧
        (initServices connectWifi a port dict addrType ipTableSz outcome).2 =
          Globals.boot ipTableSz) := by
  by_cases cameUp : CameUp connectWifi a
  · have queries := succeeds_iff ipTableSz enough
    have apart : espErrNotFound ≠ espOk := by decide
    rw [init_services_of_came_up port dict addrType ipTableSz outcome cameUp, ← queries]
    rcases resolve_slaves_code port dict addrType ipTableSz outcome with code | code
    · simp [code, cameUp, apart.symm]
    · simp [code, cameUp, apart]
  · obtain ⟨ending, none⟩ :=
      init_services_early port dict addrType ipTableSz outcome cameUp
    have other : ∀ err, err ≠ espErrInvalidState →
        (initServices connectWifi a port dict addrType ipTableSz outcome).1 ≠ .returned err := by
      intro err distinct same
      rcases ending with aborted | invalid
      · rw [aborted] at same
        cases same
      · rw [invalid, Ending.returned.injEq] at same
        exact distinct same.symm
    refine ⟨iff_of_false (other espOk (by decide)) (fun both => cameUp both.1),
      iff_of_false (other espErrNotFound (by decide)) (fun both => cameUp both.1),
      fun _ => ⟨ending, none⟩⟩

/-- Every parameter of the shipped dictionary is of slave 1. -/
private theorem shipped_slave_addr (named : a ∈ shipped.slaveAddrs) : a = 1 := by
  have slaves : shipped.slaveAddrs = List.replicate 7 1 := rfl
  exact List.eq_of_mem_replicate (slaves ▸ named)

/-- The third query is the first one that finds slave 1. -/
def foundByThird : Outcomes := fun k =>
  ⟨espOk, if k = 2 then [recordOfSlave1] else [], fun _ => true⟩

/-- A master whose calls up to the queries all succeed. -/
def allSucceed : ServiceAnswers :=
  ⟨espOk, espOk, espOk, espOk, espOk, fun _ => espOk, espOk, espOk, espOk, true, espOk⟩

private theorem all_succeed_came_up : CameUp true allSucceed where
  flash := Or.inl rfl
  netif := rfl
  eventLoop := rfl
  mdns _ := rfl
  connect := rfl
  wifi _ := rfl
  files := rfl
  server := ⟨rfl, rfl⟩

theorem found_by_third_succeeds :
    (initServices true allSucceed 502 shipped .ipv4 shippedIpTableSz foundByThird).1 =
      .returned espOk := by
  refine (init_services_succeeds_iff true allSucceed 502 shipped .ipv4 shippedIpTableSz
    foundByThird fun _ _ _ _ _ _ => rfl).1.mpr
      ⟨all_succeed_came_up, Or.inr ⟨2, by decide, by decide, ?_⟩⟩
  have answered : (queryAnswer 502 .ipv4 (foundByThird 2) 1).isSome := by decide
  exact fun a named => ⟨2, Nat.le_refl 2, shipped_slave_addr named ▸ answered⟩

/-! ## A network that announces itself -/

/-- The master and the RTUs of its dictionary are built for the advertised port, and by query
`k`, which delivers results, each of them has been seen announcing itself. -/
structure Announced (network : Network) (dict : ParameterDictionary) (addrType : MbTcpAddrType)
    (outcome : Outcomes) (k : Nat) : Prop where
  port : network.port = mbMdnsPort
  within : k < 10
  reaches : Reaches (outcome k)
  seen : ∀ a ∈ dict.slaveAddrs, ∃ rtu ∈ network.rtus, rtu.slaveAddr = a ∧
    ∃ j ≤ k, (outcome j).err = espOk ∧ ∃ r ∈ (outcome j).results, Announces rtu addrType r

/-- A query whose results announce an RTU resolves it. -/
private theorem answered_of_announced {network : Network} (samePort : network.port = mbMdnsPort)
    {rtu : RtuConfig} {r : MdnsResult} {o : QueryOutcome} (ok : o.err = espOk)
    (member : r ∈ o.results) (announces : Announces rtu addrType r) :
    (queryAnswer network.port addrType o rtu.slaveAddr).isSome := by
  obtain ⟨named, port, admits, carries⟩ := accepted_of_announces announces
  rw [queryAnswer, if_pos ok]
  exact resolved_of_record rtu.nonzero member (named_by_iff.mp named) (port.trans samePort.symm)
    admits carries

/-- A successful start-up has registered the dictionary. -/
private theorem registered_of_success (ipTableSz : Nat)
    (enough : MemorySufficesFrom port dict addrType outcome 0)
    (success : (resolveSlaves port dict addrType ipTableSz outcome).1 = espOk) :
    AllRegistered port dict addrType outcome
      (resolveSlaves port dict addrType ipTableSz outcome).2.2 := by
  have meant : (dict.numDeviceParameters : Int) ≤ 0 → ∀ a ∈ dict.slaveAddrs,
      a ∈ addrs (Globals.boot ipTableSz).slaveAddrList := by
    intro none a named
    simp [slave_addrs_nil (show dict.numDeviceParameters = 0 by omega)] at named
  rw [resolve_slaves_ok_iff, resolve_slaves_result] at success
  rw [resolve_slaves_result]
  by_cases large : espErrNoMem < dict.numDeviceParameters
  · exact retry_loop_large large 10 0 rfl (sound_boot ipTableSz) meant success
  · exact (retry_loop_sound_iff (Int.not_lt.mp large) 10 0 rfl (sound_boot ipTableSz)
      (complete_boot ipTableSz) meant).mpr enough success

/-- What a query resolved an RTU to stands in a record of its own. -/
private theorem record_of_answer {network : Network} (rtu : network.Rtu) {o : QueryOutcome}
    {ip : String} (resolves : queryAnswer network.port addrType o rtu.val.slaveAddr = some ip) :
    ∃ r ∈ o.results, NamedBy rtu.val r ∧
      (∀ other ∈ network.rtus, other ≠ rtu.val → ¬ NamedBy other r) ∧
      ∃ address ∈ r.addr, address.isOf addrType = true ∧ ip = address.text := by
  unfold queryAnswer at resolves
  split at resolves
  · obtain ⟨r, member, name, _, _, carried⟩ := resolved_from_record resolves
    exact ⟨r, member, named_by_iff.mpr name,
      fun other listed apart => named_by_unique rtu name listed apart, carried⟩
  · cases resolves

/-- A network whose RTUs announce themselves is started up when the calls up to the queries
succeed and there is memory for the entries, and every RTU of the dictionary is then registered
under an address that a record of its own, and of no other RTU, carries. -/
theorem announced_network_starts_up (connectWifi : Bool) (a : ServiceAnswers)
    (network : Network) (dict : ParameterDictionary) (addrType : MbTcpAddrType)
    (ipTableSz : Nat) (outcome : Outcomes) (k : Nat) (cameUp : CameUp connectWifi a)
    (announced : Announced network dict addrType outcome k)
    (enough : MemorySufficesFrom network.port dict addrType outcome 0) :
    (initServices connectWifi a network.port dict addrType ipTableSz outcome).1 =
        .returned espOk ∧
      ∀ rtu : network.Rtu, rtu.val.slaveAddr ∈ dict.slaveAddrs →
        ∃ e ∈ (initServices connectWifi a network.port dict addrType ipTableSz
            outcome).2.slaveAddrList,
          e.slaveAddr = rtu.val.slaveAddr ∧ ∃ j < 10, ∃ r ∈ (outcome j).results,
            NamedBy rtu.val r ∧
            (∀ other ∈ network.rtus, other ≠ rtu.val → ¬ NamedBy other r) ∧
            ∃ ip ∈ r.addr, ip.isOf addrType = true ∧ e.ipAddress = some ip.text := by
  have concludes : Concludes network.port dict addrType outcome k := by
    refine ⟨announced.reaches, fun a named => ?_⟩
    obtain ⟨rtu, _, rfl, j, early, ok, r, member, announces⟩ := announced.seen a named
    exact ⟨j, early, answered_of_announced announced.port ok member announces⟩
  have success := (succeeds_iff ipTableSz enough).mpr (Or.inr ⟨k, announced.within, concludes⟩)
  rw [init_services_of_came_up network.port dict addrType ipTableSz outcome cameUp]
  refine ⟨congrArg Ending.returned success, fun rtu named => ?_⟩
  obtain ⟨e, member, same, j, early, text, held, resolves⟩ :=
    registered_of_success ipTableSz enough success rtu.val.slaveAddr named
  obtain ⟨r, listed, own, others, address, carried, family, rfl⟩ := record_of_answer rtu resolves
  exact ⟨e, member, same, j, early, r, listed, own, others, address, carried, family, held⟩

private theorem slave_1_nonzero : (1 : UInt8) ≠ 0 := by decide

/-- An RTU with slave address 1 and its master, both built for port 502. -/
def network502 : Network where
  port := 502
  rtus := [⟨1, 502, 0x00112233, fun _ => 0, slave_1_nonzero⟩]
  samePort := List.forall_mem_singleton.mpr rfl
  distinct := List.nodup_singleton _

theorem network_502_starts_up :
    (initServices true allSucceed network502.port shipped .ipv4 shippedIpTableSz
      foundByThird).1 = .returned espOk := by
  refine (announced_network_starts_up true allSucceed network502 shipped .ipv4 shippedIpTableSz
    foundByThird 2 all_succeed_came_up
    ⟨rfl, by decide, by decide, fun a named => ?_⟩ fun _ _ _ _ _ _ => rfl).1
  obtain rfl := shipped_slave_addr named
  refine ⟨_, List.mem_singleton.mpr rfl, rfl, 2, Nat.le_refl 2, rfl, recordOfSlave1,
    List.mem_singleton.mpr rfl, announces_iff.mpr ?_⟩
  decide

end PowerMonitor.Discovery
