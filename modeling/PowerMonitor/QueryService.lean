import PowerMonitor.RegistrationPass

/-! What one `master_query_slave_service` call does to the registered slaves, and what its
return value says about them. The start-up loop and the invariant of the list are built on
these lemmas and do not look into the call again. -/
namespace PowerMonitor.QueryService
open EspIdf Dictionary SlaveResolution SlaveList FirstSight RegistrationPass

variable {port : UInt16} {dict : ParameterDictionary} {addrType : MbTcpAddrType}
  {o : QueryOutcome} {g : Globals}

/-- What a query resolves a slave to; a query that failed resolves nothing. -/
def queryAnswer (port : UInt16) (addrType : MbTcpAddrType) (o : QueryOutcome)
    (slaveAddr : UInt8) : Option String :=
  if o.err = espOk then resolved port addrType o.results slaveAddr else none

/-- The query delivered results, so that the list of slaves is created from them. -/
def Reaches (o : QueryOutcome) : Prop := o.err = espOk ∧ o.results ≠ []

instance : DecidablePred Reaches := fun _ => inferInstanceAs (Decidable (_ ∧ _))

/-- Every slave the query would newly register gets the memory for its entry. -/
def Granted (port : UInt16) (dict : ParameterDictionary) (addrType : MbTcpAddrType)
    (o : QueryOutcome) (g : Globals) : Prop :=
  ∀ a ∈ dict.slaveAddrs, a ∉ addrs g.slaveAddrList →
    (queryAnswer port addrType o a).isSome → o.malloc a = true

/-- The state in which a call enters the loop over the dictionary. -/
def entryState (g : Globals) : CreateState :=
  { slaveAddrList := g.slaveAddrList, ipTable := g.slaveIpAddressTable }

theorem query_answer_of_reaches (reaches : Reaches o) :
    queryAnswer port addrType o = answer (o.call port addrType g) := by
  funext a
  simp [queryAnswer, reaches.1, answer, QueryOutcome.call]

theorem query_answer_of_not_reaches (missed : ¬ Reaches o) (a : UInt8) :
    queryAnswer port addrType o a = none := by
  unfold queryAnswer
  split
  · rename_i ok
    have empty : o.results = [] := by simpa [Reaches, ok] using missed
    simp [empty]
  · rfl

/-- A query without results leaves everything as it is and returns zero. -/
theorem query_not_reaches (missed : ¬ Reaches o) :
    masterQuerySlaveService port dict addrType o g = (0, g) := by
  unfold masterQuerySlaveService
  by_cases ok : o.err = espOk
  · have empty : o.results = [] := by simpa [Reaches, ok] using missed
    simp [ok, empty]
  · simp [ok]

/-- A query with results runs the loop over the dictionary. -/
theorem query_reaches (reaches : Reaches o) :
    masterQuerySlaveService port dict addrType o g =
      ((createLoop (o.call port addrType g) dict.entries 0 (entryState g)).1,
        ⟨(createLoop (o.call port addrType g) dict.entries 0 (entryState g)).2.slaveAddrList,
          (createLoop (o.call port addrType g) dict.entries 0 (entryState g)).2.ipTable⟩) := by
  simp [masterQuerySlaveService, masterCreateSlaveList, reaches.1, reaches.2, QueryOutcome.call,
    entryState]

/-- Whatever the query answers and whichever requests for memory fail, the list keeps its
entries, and every new entry holds the address the query resolved its slave to. -/
theorem query_grows (port : UInt16) (dict : ParameterDictionary) (addrType : MbTcpAddrType)
    (o : QueryOutcome) (g : Globals) :
    ∃ new, (masterQuerySlaveService port dict addrType o g).2.slaveAddrList =
        new ++ g.slaveAddrList ∧
      ∀ e ∈ new, e.slaveAddr ∈ dict.slaveAddrs ∧ (queryAnswer port addrType o e.slaveAddr).isSome ∧
        e.ipAddress = queryAnswer port addrType o e.slaveAddr := by
  by_cases reaches : Reaches o
  · rw [query_reaches reaches, query_answer_of_reaches (g := g) reaches]
    exact create_loop_grows (o.call port addrType g) dict.entries 0 (entryState g)
  · rw [query_not_reaches reaches]
    exact ⟨[], rfl, fun e member => nomatch member⟩

private theorem granted_fresh (reaches : Reaches o) (granted : Granted port dict addrType o g) :
    ∀ a ∈ fresh (addrs (entryState g).slaveAddrList) (answer (o.call port addrType g))
      (dict.entries.map (·.mbSlaveAddr)), (o.call port addrType g).malloc a = true := by
  intro a member
  obtain ⟨named, unknown, answered⟩ := mem_fresh.mp member
  exact granted a named unknown (by rwa [query_answer_of_reaches (g := g) reaches])

/-- When memory suffices, the registered slaves afterwards are those registered before and
those of the dictionary the query resolves. -/
theorem query_registers (granted : Granted port dict addrType o g) (a : UInt8) :
    a ∈ addrs (masterQuerySlaveService port dict addrType o g).2.slaveAddrList ↔
      a ∈ addrs g.slaveAddrList ∨
        a ∈ dict.slaveAddrs ∧ (queryAnswer port addrType o a).isSome := by
  by_cases reaches : Reaches o
  · obtain ⟨s', run, pass⟩ := create_loop_pass (o.call port addrType g) dict.entries 0
      (entryState g) (granted_fresh reaches granted)
    rw [query_reaches reaches, run, query_answer_of_reaches (g := g) reaches]
    exact pass.mem_addrs a
  · rw [query_not_reaches reaches]
    simp [query_answer_of_not_reaches reaches]

/-- When memory suffices, a query that delivered results returns the number of dictionary
entries whose slave is registered afterwards. -/
theorem query_counts (reaches : Reaches o) (granted : Granted port dict addrType o g) :
    (masterQuerySlaveService port dict addrType o g).1 =
      dict.slaveAddrs.countP fun a =>
        decide (a ∈ addrs (masterQuerySlaveService port dict addrType o g).2.slaveAddrList) := by
  obtain ⟨s', run, pass⟩ := create_loop_pass (o.call port addrType g) dict.entries 0
    (entryState g) (granted_fresh reaches granted)
  rw [query_reaches reaches, run]
  simp only [Int.natCast_inj]
  rw [pass.counted]
  simp only [entryState, Nat.zero_add]
  apply List.countP_congr
  intro a named
  rw [decide_eq_true_eq, pass.mem_addrs a, held_eq_true]
  have inDict : a ∈ dict.entries.map (·.mbSlaveAddr) := named
  simp [inDict, entryState]

/-- A refused request makes the query return `ESP_ERR_NO_MEM`, with a slave of the
dictionary left unregistered. -/
theorem query_refused (refused : ¬ Granted port dict addrType o g) :
    (masterQuerySlaveService port dict addrType o g).1 = espErrNoMem ∧
      ∃ a ∈ dict.slaveAddrs,
        a ∉ addrs (masterQuerySlaveService port dict addrType o g).2.slaveAddrList := by
  unfold Granted at refused
  push Not at refused
  obtain ⟨a, named, unknown, answered, denied⟩ := refused
  have reaches : Reaches o := by
    by_contra missed
    simp [query_answer_of_not_reaches missed] at answered
  have freshKey : a ∈ fresh (addrs (entryState g).slaveAddrList) (answer (o.call port addrType g))
      (dict.entries.map (·.mbSlaveAddr)) :=
    mem_fresh.mpr ⟨named, unknown, by rwa [← query_answer_of_reaches (g := g) reaches]⟩
  obtain ⟨s', run, other, otherNamed, missing⟩ := create_loop_refused (o.call port addrType g)
    dict.entries 0 (entryState g) ⟨a, freshKey, by simpa [QueryOutcome.call] using denied⟩
  rw [query_reaches reaches, run]
  exact ⟨rfl, other, otherNamed, missing⟩

end PowerMonitor.QueryService
