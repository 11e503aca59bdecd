import PowerMonitor.QueryService

/-! Start-up of the master: what the retry loop of `init_services` may conclude from the
number it ends with. The returned number is a count of dictionary entries except after a
refused allocation, when it is `ESP_ERR_NO_MEM`; the loop compares either with the size of
the dictionary. -/
namespace PowerMonitor.StartUp
open EspIdf Dictionary SlaveResolution SlaveList RegistrationPass QueryService

/-- The outcome of every query a start-up can make. -/
abbrev Outcomes := Nat → QueryOutcome

section
variable (port : UInt16) (dict : ParameterDictionary) (addrType : MbTcpAddrType)
  (outcome : Outcomes)

/-- Every slave of the dictionary is registered with the address one of the queries
resolved it to. -/
def AllRegistered (g : Globals) : Prop :=
  ∀ a ∈ dict.slaveAddrs, ∃ e ∈ g.slaveAddrList, e.slaveAddr = a ∧
    ∃ k < 10, ∃ ip, e.ipAddress = some ip ∧ queryAnswer port addrType (outcome k) a = some ip

/-- Query `k` is the first one that resolves the slave. -/
def FirstAnswered (k : Nat) (a : UInt8) : Prop :=
  (queryAnswer port addrType (outcome k) a).isSome ∧
    ∀ j < k, queryAnswer port addrType (outcome j) a = none

/-- From query `first` on, the entry of every slave that is resolved for the first time gets
its memory. -/
def MemorySufficesFrom (first : Nat) : Prop :=
  ∀ k, first ≤ k → k < 10 → ∀ a ∈ dict.slaveAddrs,
    FirstAnswered port addrType outcome k a → (outcome k).malloc a = true

/-- Registered slaves are slaves of the dictionary, under an address one of the first `k`
queries resolved them to. -/
def Sound (k : Nat) (g : Globals) : Prop :=
  ∀ e ∈ g.slaveAddrList, e.slaveAddr ∈ dict.slaveAddrs ∧
    ∃ j < k, ∃ ip, e.ipAddress = some ip ∧
      queryAnswer port addrType (outcome j) e.slaveAddr = some ip

/-- Slaves of the dictionary that one of the first `k` queries resolved are registered. -/
def Complete (k : Nat) (g : Globals) : Prop :=
  ∀ a ∈ dict.slaveAddrs, ∀ j < k, (queryAnswer port addrType (outcome j) a).isSome →
    a ∈ addrs g.slaveAddrList

end

variable {port : UInt16} {dict : ParameterDictionary} {addrType : MbTcpAddrType}
  {outcome : Outcomes} {g : Globals} {k : Nat}

theorem sound_query (sound : Sound port dict addrType outcome k g) :
    Sound port dict addrType outcome (k + 1)
      (masterQuerySlaveService port dict addrType (outcome k) g).2 := by
  obtain ⟨new, list, fresh⟩ := query_grows port dict addrType (outcome k) g
  intro e member
  rw [list] at member
  rcases List.mem_append.mp member with here | before
  · obtain ⟨named, answered, same⟩ := fresh e here
    obtain ⟨ip, resolves⟩ := Option.isSome_iff_exists.mp answered
    exact ⟨named, k, by omega, ip, same.trans resolves, resolves⟩
  · obtain ⟨named, j, early, ip, held, resolves⟩ := sound e before
    exact ⟨named, j, by omega, ip, held, resolves⟩

theorem complete_query (complete : Complete port dict addrType outcome k g)
    (granted : Granted port dict addrType (outcome k) g) :
    Complete port dict addrType outcome (k + 1)
      (masterQuerySlaveService port dict addrType (outcome k) g).2 := by
  intro a named j within answered
  rw [query_registers granted]
  rcases Nat.lt_succ_iff_lt_or_eq.mp within with before | rfl
  · exact Or.inl (complete a named j before answered)
  · exact Or.inr ⟨named, answered⟩

/-- A registered dictionary is registered with resolved addresses. -/
private theorem all_registered (bound : k ≤ 10) (sound : Sound port dict addrType outcome k g)
    (every : ∀ a ∈ dict.slaveAddrs, a ∈ addrs g.slaveAddrList) :
    AllRegistered port dict addrType outcome g := by
  intro a named
  obtain ⟨e, member, rfl⟩ := List.mem_map.mp (every a named)
  obtain ⟨_, j, early, ip, held, resolves⟩ := sound e member
  exact ⟨e, member, rfl, j, by omega, ip, held, resolves⟩

/-- A slave that a query is the first to resolve is not registered before it. -/
private theorem first_not_registered (sound : Sound port dict addrType outcome k g)
    (first : FirstAnswered port addrType outcome j a) (after : k ≤ j) :
    a ∉ addrs g.slaveAddrList := by
  intro member
  obtain ⟨e, held, rfl⟩ := List.mem_map.mp member
  obtain ⟨_, i, early, ip, _, resolves⟩ := sound e held
  rw [first.2 i (by omega)] at resolves
  cases resolves

theorem slave_addrs_nil (none : dict.numDeviceParameters = 0) : dict.slaveAddrs = [] := by
  apply List.eq_nil_of_length_eq_zero
  rw [ParameterDictionary.slaveAddrs_length, none]

/-- A count that reaches the size of the dictionary counts every entry. -/
theorem enough_registers_every (granted : Granted port dict addrType (outcome k) g)
    (enough : (dict.numDeviceParameters : Int) ≤
      (masterQuerySlaveService port dict addrType (outcome k) g).1) :
    ∀ a ∈ dict.slaveAddrs,
      a ∈ addrs (masterQuerySlaveService port dict addrType (outcome k) g).2.slaveAddrList := by
  by_cases reaches : Reaches (outcome k)
  · rw [query_counts reaches granted, Int.ofNat_le,
      ← ParameterDictionary.slaveAddrs_length] at enough
    have full := Nat.le_antisymm List.countP_le_length enough
    simpa using List.countP_eq_length.mp full
  · rw [query_not_reaches reaches] at enough
    simp [slave_addrs_nil (show dict.numDeviceParameters = 0 by omega)]

/-- Memory that suffices from query `k` on suffices for query `k`. -/
theorem granted_of_suffices (within : k < 10) (complete : Complete port dict addrType outcome k g)
    (enough : MemorySufficesFrom port dict addrType outcome k) :
    Granted port dict addrType (outcome k) g := by
  intro a named unknown answered
  refine enough k (Nat.le_refl k) within a named ⟨answered, fun j early => ?_⟩
  cases resolves : queryAnswer port addrType (outcome j) a with
  | none => rfl
  | some ip => exact absurd (complete a named j early (by simp [resolves])) unknown

/-- Memory granted to query `k` is what suffices there, when the list is exact before it. -/
private theorem suffices_of_granted (sound : Sound port dict addrType outcome k g)
    (granted : Granted port dict addrType (outcome k) g)
    (later : MemorySufficesFrom port dict addrType outcome (k + 1)) :
    MemorySufficesFrom port dict addrType outcome k := by
  intro j after within a named first
  rcases Nat.eq_or_lt_of_le after with rfl | strictly
  · exact granted a named (first_not_registered sound first (Nat.le_refl k)) first.1
  · exact later j strictly within a named first

/-- A refused query returns a number that ends the loop, as long as the dictionary is no
larger. -/
theorem retry_loop_refused (small : (dict.numDeviceParameters : Int) ≤ espErrNoMem) (left : Nat)
    (refused : ¬ Granted port dict addrType (outcome k) g) :
    retryLoop port dict addrType outcome left (k + 1)
        (masterQuerySlaveService port dict addrType (outcome k) g).1
        (masterQuerySlaveService port dict addrType (outcome k) g).2 =
      masterQuerySlaveService port dict addrType (outcome k) g := by
  cases left with
  | zero => rfl
  | succ left =>
    have guard := Int.not_lt.mpr (Int.le_trans small (Int.le_of_eq (query_refused refused).1.symm))
    simp only [retryLoop, if_neg guard]

/-- With a dictionary `ESP_ERR_NO_MEM` can stand for the size of, the loop ends with a
number that means what it is taken for exactly when no request for memory is refused. -/
theorem retry_loop_sound_iff (small : (dict.numDeviceParameters : Int) ≤ espErrNoMem)
    (left : Nat) (res : Int) (total : k + left = 10)
    (sound : Sound port dict addrType outcome k g)
    (complete : Complete port dict addrType outcome k g)
    (meant : (dict.numDeviceParameters : Int) ≤ res → ∀ a ∈ dict.slaveAddrs,
      a ∈ addrs g.slaveAddrList) :
    ((dict.numDeviceParameters : Int) ≤ (retryLoop port dict addrType outcome left k res g).1 →
      AllRegistered port dict addrType outcome
        (retryLoop port dict addrType outcome left k res g).2) ↔
    MemorySufficesFrom port dict addrType outcome k := by
  induction left generalizing k res g with
  | zero =>
    refine ⟨fun _ j after within => by omega, fun _ enough => ?_⟩
    exact all_registered (by omega) sound (meant enough)
  | succ left ih =>
    by_cases again : res < dict.numDeviceParameters
    · simp only [retryLoop, again, ↓reduceIte]
      by_cases granted : Granted port dict addrType (outcome k) g
      · rw [ih _ (by omega) (sound_query sound) (complete_query complete granted)
          (enough_registers_every granted)]
        exact ⟨suffices_of_granted sound granted,
          fun enough j after => enough j (by omega)⟩
      · obtain ⟨code, a, named, missing⟩ := query_refused granted
        -- The refused query returns a number the loop takes for success.
        rw [retry_loop_refused small left granted, code]
        refine ⟨fun claim => ?_, fun enough => ?_⟩
        · obtain ⟨e, member, rfl, _⟩ := claim small a named
          exact absurd (List.mem_map_of_mem member) missing
        · exact absurd (granted_of_suffices (by omega) complete enough) granted
    · simp only [retryLoop, again, ↓reduceIte]
      have every := meant (Int.not_lt.mp again)
      refine ⟨fun _ j after within a named first => ?_,
        fun _ _ => all_registered (by omega) sound every⟩
      -- Every slave is registered already, so no later query is the first to resolve one.
      exact absurd (every a named) (first_not_registered sound first after)

/-- A dictionary larger than `ESP_ERR_NO_MEM` is never mistaken for registered: a refused
request is an unfinished retry there. -/
theorem retry_loop_large (large : espErrNoMem < dict.numDeviceParameters)
    (left : Nat) (res : Int) (total : k + left = 10)
    (sound : Sound port dict addrType outcome k g)
    (meant : (dict.numDeviceParameters : Int) ≤ res → ∀ a ∈ dict.slaveAddrs,
      a ∈ addrs g.slaveAddrList)
    (enough : (dict.numDeviceParameters : Int) ≤
      (retryLoop port dict addrType outcome left k res g).1) :
    AllRegistered port dict addrType outcome
      (retryLoop port dict addrType outcome left k res g).2 := by
  induction left generalizing k res g with
  | zero => exact all_registered (by omega) sound (meant enough)
  | succ left ih =>
    by_cases again : res < dict.numDeviceParameters
    · simp only [retryLoop, again, ↓reduceIte] at enough ⊢
      refine ih _ (by omega) (sound_query sound) (fun full => ?_) enough
      by_cases granted : Granted port dict addrType (outcome k) g
      · exact enough_registers_every granted full
      · rw [(query_refused granted).1] at full
        exact absurd full (Int.not_le.mpr large)
    · simp only [retryLoop, again, ↓reduceIte]
      exact all_registered (by omega) sound (meant (Int.not_lt.mp again))

/-- The queries end in `ESP_OK` exactly when the loop ends with the size of the dictionary or
more. -/
theorem resolve_slaves_ok_iff (ipTableSz : Nat) :
    (resolveSlaves port dict addrType ipTableSz outcome).1 = espOk ↔
      (dict.numDeviceParameters : Int) ≤
        (resolveSlaves port dict addrType ipTableSz outcome).2.1 := by
  unfold resolveSlaves
  dsimp only
  split
  · rename_i short
    exact iff_of_false (fun same : espErrNotFound = espOk => absurd same (by decide))
      (Int.not_le.mpr short)
  · rename_i enough
    exact iff_of_true rfl (Int.not_lt.mp enough)

/-- A start-up that ends with the size of the dictionary or more has registered every slave
exactly when no first registration is refused its memory, or the dictionary is larger than
`ESP_ERR_NO_MEM`. -/
theorem start_up_registers_every_slave_iff (port : UInt16) (dict : ParameterDictionary)
    (addrType : MbTcpAddrType) (ipTableSz : Nat) (outcome : Outcomes) :
    ((dict.numDeviceParameters : Int) ≤ (resolveSlaves port dict addrType ipTableSz outcome).2.1 →
      AllRegistered port dict addrType outcome
        (resolveSlaves port dict addrType ipTableSz outcome).2.2) ↔
    espErrNoMem < dict.numDeviceParameters ∨
      MemorySufficesFrom port dict addrType outcome 0 := by
  have result : (resolveSlaves port dict addrType ipTableSz outcome).2 =
      retryLoop port dict addrType outcome 10 0 0 (Globals.boot ipTableSz) := by
    unfold resolveSlaves
    dsimp only
    split <;> rfl
  have sound : Sound port dict addrType outcome 0 (Globals.boot ipTableSz) :=
    fun e member => nomatch member
  have complete : Complete port dict addrType outcome 0 (Globals.boot ipTableSz) :=
    fun a _ j within => absurd within (Nat.not_lt_zero j)
  have meant : (dict.numDeviceParameters : Int) ≤ 0 → ∀ a ∈ dict.slaveAddrs,
      a ∈ addrs (Globals.boot ipTableSz).slaveAddrList := by
    intro none a named
    simp [slave_addrs_nil (show dict.numDeviceParameters = 0 by omega)] at named
  rw [result]
  by_cases large : espErrNoMem < dict.numDeviceParameters
  · exact iff_of_true (retry_loop_large large 10 0 rfl sound meant) (Or.inl large)
  · rw [retry_loop_sound_iff (Int.not_lt.mp large) 10 0 rfl sound complete meant]
    exact ⟨Or.inr, fun either => either.resolve_left large⟩

/-- Every query finds slave 1 and no request for memory is granted. -/
def refusedOutcomes : Outcomes := fun _ => ⟨espOk, [recordOfSlave1], fun _ => false⟩

/-- With the shipped dictionary the start-up then succeeds with an empty list. -/
theorem refused_start_up_succeeds_unregistered :
    ¬ ((shipped.numDeviceParameters : Int) ≤
        (resolveSlaves 502 shipped .ipv4 shippedIpTableSz refusedOutcomes).2.1 →
      AllRegistered 502 shipped .ipv4 refusedOutcomes
        (resolveSlaves 502 shipped .ipv4 shippedIpTableSz refusedOutcomes).2.2) := by
  have result : resolveSlaves 502 shipped .ipv4 shippedIpTableSz refusedOutcomes =
      (espOk, espErrNoMem, Globals.boot shippedIpTableSz) := by decide
  rw [result]
  intro claim
  obtain ⟨e, member, _⟩ := claim (by decide) mbDeviceAddr1 (by decide)
  cases member

end PowerMonitor.StartUp
