import PowerMonitor.IpTable
import PowerMonitor.QueryService

/-! The registered slaves over any run of `master_query_slave_service` calls. The invariant
says who is in the list and since which query; the count a call returns and the order of the
counts are read off it. -/
namespace PowerMonitor.Registration
open EspIdf Dictionary SlaveResolution SlaveList FirstSight RegistrationPass QueryService IpTable

/-- One call: the address family it asks for and what the network and the heap answer. -/
structure Query where
  addrType : MbTcpAddrType
  outcome : QueryOutcome

/-- Every request for memory is granted. -/
def Query.Plentiful (q : Query) : Prop := ∀ a, q.outcome.malloc a = true

section
variable (port : UInt16) (dict : ParameterDictionary)

/-- The return value of the call and the globals it leaves. -/
def Query.run (q : Query) (g : Globals) : Int × Globals :=
  masterQuerySlaveService port dict q.addrType q.outcome g

/-- What the query resolves a slave to. -/
def Query.answer (q : Query) : UInt8 → Option String := queryAnswer port q.addrType q.outcome

/-- The globals after the queries, from the objects as they are linked. -/
def afterQueries (queries : List Query) : Globals :=
  queries.foldl (fun g q => (q.run port dict g).2) (Globals.boot shippedIpTableSz)

/-- What a query returns after the queries `before`. -/
def returned (before : List Query) (q : Query) : Int :=
  (q.run port dict (afterQueries port dict before)).1

/-- The number of dictionary entries whose slave is registered after the queries. -/
def registeredEntries (queries : List Query) : Nat :=
  dict.slaveAddrs.countP fun a => decide (a ∈ addrs (afterQueries port dict queries).slaveAddrList)

/-- The query of the run that was the first to resolve the slave. -/
def FirstAnswer (queries : List Query) (a : UInt8) (ip : Option String) (q : Query) : Prop :=
  ∃ before after, queries = before ++ q :: after ∧
    (∀ earlier ∈ before, earlier.answer port a = none) ∧
    (q.answer port a).isSome ∧ ip = q.answer port a

/-- The list holds the slaves of the dictionary that some query resolved, once each, under
the address of the first query that did. -/
structure Tracks (queries : List Query) (g : Globals) : Prop where
  distinct : (addrs g.slaveAddrList).Nodup
  registered : ∀ a, a ∈ addrs g.slaveAddrList ↔
    a ∈ dict.slaveAddrs ∧ ∃ q ∈ queries, (q.answer port a).isSome
  first : ∀ e ∈ g.slaveAddrList, ∃ q, FirstAnswer port queries e.slaveAddr e.ipAddress q
  size : g.slaveIpAddressTable.length = shippedIpTableSz

/-- What holds of the list in every state a run of queries reaches. -/
structure ListInvariant (queries : List Query) : Prop where
  oneEntry : (addrs (afterQueries port dict queries).slaveAddrList).Nodup
  named : ∀ e ∈ (afterQueries port dict queries).slaveAddrList,
    e.slaveAddr ≠ 0 ∧ e.slaveAddr ∈ dict.slaveAddrs
  carried : ∀ e ∈ (afterQueries port dict queries).slaveAddrList, ∃ q,
    FirstAnswer port queries e.slaveAddr e.ipAddress q ∧ q.outcome.err = espOk ∧
      ∃ r ∈ q.outcome.results, r.instanceName = slaveName e.slaveAddr ∧
        ∃ a ∈ r.addr, e.ipAddress = some a.text
  kept : ∀ earlier later, queries = earlier ++ later →
    (afterQueries port dict earlier).slaveAddrList <:+
      (afterQueries port dict queries).slaveAddrList

/-- What holds of a call that gets results after the queries `before`. -/
structure CallInvariant (before : List Query) (q : Query) : Prop where
  counted : returned port dict before q = registeredEntries port dict (before ++ [q])
  complete : returned port dict before q = dict.numDeviceParameters ↔
    ∀ a ∈ dict.slaveAddrs, a ∈ addrs (afterQueries port dict (before ++ [q])).slaveAddrList
  monotone : ∀ earlier p between, before = earlier ++ p :: between → Reaches p.outcome →
    returned port dict earlier p ≤ returned port dict before q
  inTable : ∀ w ∈ (masterCreateSlaveList dict
      (q.outcome.call port q.addrType (afterQueries port dict before))
      (afterQueries port dict before)).2.writes, w < shippedIpTableSz

end

variable {port : UInt16} {dict : ParameterDictionary} {queries before later : List Query}
  {q : Query} {g : Globals}

theorem after_queries_append (first second : List Query) :
    afterQueries port dict (first ++ second) =
      second.foldl (fun g q => (q.run port dict g).2) (afterQueries port dict first) :=
  List.foldl_append

private theorem after_queries_snoc (queries : List Query) (q : Query) :
    afterQueries port dict (queries ++ [q]) =
      (q.run port dict (afterQueries port dict queries)).2 := after_queries_append queries [q]

theorem Query.Plentiful.granted (plentiful : q.Plentiful) (g : Globals) :
    Granted port dict q.addrType q.outcome g := fun a _ _ _ => plentiful a

/-- With memory for every entry, the call made on results is the one of the table. -/
theorem Query.Plentiful.call_eq (plentiful : q.Plentiful) (g : Globals) :
    q.outcome.call port q.addrType g = plentifulCall port q.addrType q.outcome.results g := by
  have malloc : q.outcome.malloc = fun _ => true := funext plentiful
  simp [QueryOutcome.call, plentifulCall, malloc]

/-- A call on results is one pass, which stays inside the table. -/
private theorem run_pass (port : UInt16) (few : dict.slaves.length ≤ 3) (plentiful : q.Plentiful)
    (reaches : Reaches q.outcome) (size : g.slaveIpAddressTable.length = shippedIpTableSz) :
    ∃ s' : CreateState, (q.run port dict g).2 = ⟨s'.slaveAddrList, s'.ipTable⟩ ∧
      Pass (plentifulCall port q.addrType q.outcome.results g) dict.slaveAddrs
        { slaveAddrList := g.slaveAddrList, ipTable := g.slaveIpAddressTable } s' ∧
      s'.ipTable.length = shippedIpTableSz ∧
      ∀ w ∈ (masterCreateSlaveList dict (q.outcome.call port q.addrType g) g).2.writes,
        w < shippedIpTableSz := by
  obtain ⟨s', made, pass⟩ := create_list_pass port dict q.addrType reaches.2 g
  have room : dict.slaves.length < g.slaveIpAddressTable.length := by
    rw [size]; exact Nat.lt_succ_of_le few
  obtain ⟨inside, _, length, _⟩ := table_after_pass pass room
  rw [createList] at made
  refine ⟨s', ?_, pass, by rw [length, size], ?_⟩
  · simp [Query.run, masterQuerySlaveService, reaches.1, reaches.2, plentiful.call_eq, made]
  · rw [plentiful.call_eq, made, ← size]
    exact inside

private theorem tracks_boot : Tracks port dict [] (Globals.boot shippedIpTableSz) where
  distinct := List.nodup_nil
  registered := fun a => by simp [Globals.boot]
  first := fun e member => nomatch member
  size := by simp [Globals.boot]

/-- A query registers no slave twice and keeps the size of the table. -/
private theorem query_distinct (port : UInt16) (few : dict.slaves.length ≤ 3)
    (plentiful : q.Plentiful) (distinct : (addrs g.slaveAddrList).Nodup)
    (size : g.slaveIpAddressTable.length = shippedIpTableSz) :
    (addrs (q.run port dict g).2.slaveAddrList).Nodup ∧
      (q.run port dict g).2.slaveIpAddressTable.length = shippedIpTableSz := by
  by_cases reaches : Reaches q.outcome
  · obtain ⟨s', state, pass, length, _⟩ := run_pass port few plentiful reaches size
    rw [state]
    refine ⟨?_, length⟩
    rw [pass.addrs_eq, List.nodup_append]
    refine ⟨List.nodup_reverse.mpr (fresh_nodup _ _ _), distinct, fun a new b old same => ?_⟩
    subst same
    exact (mem_fresh.mp (List.mem_reverse.mp new)).2.1 old
  · rw [Query.run, query_not_reaches reaches]
    exact ⟨distinct, size⟩

/-- An entry a query adds is for a slave that no earlier query resolved. -/
private theorem first_answer_of_new (tracks : Tracks port dict queries g)
    (distinct : (addrs (new ++ g.slaveAddrList)).Nodup) {e : SlaveAddrEntry} (member : e ∈ new)
    (named : e.slaveAddr ∈ dict.slaveAddrs) :
    ∀ earlier ∈ queries, earlier.answer port e.slaveAddr = none := by
  intro earlier asked
  by_contra answered
  have known : e.slaveAddr ∈ addrs g.slaveAddrList :=
    (tracks.registered _).mpr ⟨named, earlier, asked, Option.isSome_iff_ne_none.mpr answered⟩
  rw [addrs_append, List.nodup_append] at distinct
  exact distinct.2.2 _ (List.mem_map_of_mem member) _ known rfl

/-- **One query.** It enrolls exactly the slaves it is the first to resolve. -/
private theorem tracks_query (few : dict.slaves.length ≤ 3) (plentiful : q.Plentiful)
    (tracks : Tracks port dict queries g) :
    Tracks port dict (queries ++ [q]) (q.run port dict g).2 := by
  obtain ⟨distinct, size⟩ := query_distinct port few plentiful tracks.distinct tracks.size
  refine ⟨distinct, fun a => ?_, fun e member => ?_, size⟩
  · rw [Query.run, query_registers (plentiful.granted g), tracks.registered]
    simp only [List.mem_append, List.mem_singleton, or_and_right, exists_or, exists_eq_left,
      Query.answer]
    exact and_or_left.symm
  · obtain ⟨new, list, sound⟩ := query_grows port dict q.addrType q.outcome g
    rw [Query.run, list] at member distinct
    rcases List.mem_append.mp member with here | old
    · obtain ⟨named, answered, ip⟩ := sound e here
      exact ⟨q, queries, [], rfl, first_answer_of_new tracks distinct here named, answered, ip⟩
    · obtain ⟨first, before, after, rfl, missed, answered, ip⟩ := tracks.first e old
      exact ⟨first, before, after ++ [q], by simp, missed, answered, ip⟩

/-- **Any run of queries.** -/
theorem tracks_after_queries (few : dict.slaves.length ≤ 3) (queries : List Query)
    (plentiful : ∀ q ∈ queries, q.Plentiful) :
    Tracks port dict queries (afterQueries port dict queries) := by
  induction queries using List.reverseRecOn with
  | nil => exact tracks_boot
  | append_singleton queries q ih =>
    rw [after_queries_snoc]
    exact tracks_query few (plentiful q (by simp))
      (ih fun p member => plentiful p (List.mem_append_left _ member))

/-- A query only adds entries in front of the list. -/
private theorem list_suffix_query (q : Query) (g : Globals) :
    g.slaveAddrList <:+ (q.run port dict g).2.slaveAddrList :=
  let ⟨new, list, _⟩ := query_grows port dict q.addrType q.outcome g
  ⟨new, list.symm⟩

/-- A run of queries keeps the entries it starts from. -/
theorem list_suffix_queries (earlier later : List Query) :
    (afterQueries port dict earlier).slaveAddrList <:+
      (afterQueries port dict (earlier ++ later)).slaveAddrList := by
  induction later using List.reverseRecOn with
  | nil => simp
  | append_singleton later q ih =>
    rw [← List.append_assoc, after_queries_snoc]
    exact ih.trans (list_suffix_query q _)

theorem list_invariant (tracks : Tracks port dict queries (afterQueries port dict queries)) :
    ListInvariant port dict queries where
  oneEntry := tracks.distinct
  named := by
    intro e member
    obtain ⟨q, _, _, _, _, answered, _⟩ := tracks.first e member
    refine ⟨?_, ((tracks.registered _).mp (List.mem_map_of_mem member)).1⟩
    unfold Query.answer queryAnswer at answered
    split at answered
    · obtain ⟨ip, found⟩ := Option.isSome_iff_exists.mp answered
      exact resolved_nonzero found
    · cases answered
  carried := by
    intro e member
    obtain ⟨q, first⟩ := tracks.first e member
    obtain ⟨_, _, _, _, answered, ip⟩ := id first
    refine ⟨q, first, ?_⟩
    unfold Query.answer queryAnswer at answered ip
    split at answered
    · rename_i ok
      rw [if_pos ok] at ip
      obtain ⟨text, found⟩ := Option.isSome_iff_exists.mp answered
      obtain ⟨r, listed, name, _, _, a, carries, _, same⟩ := resolved_from_record found
      exact ⟨ok, r, listed, name, a, carries, by rw [ip, found, same]⟩
    · cases answered
  kept := by
    rintro earlier later rfl
    exact list_suffix_queries earlier later

/-- A call on results counts the entries that are registered after it. -/
private theorem returned_eq (plentiful : q.Plentiful) (reaches : Reaches q.outcome)
    (before : List Query) :
    returned port dict before q = registeredEntries port dict (before ++ [q]) := by
  rw [returned, registeredEntries, after_queries_snoc, Query.run,
    query_counts reaches (plentiful.granted _)]

/-- More queries register no fewer entries. -/
theorem registered_entries_mono (earlier later : List Query) :
    registeredEntries port dict earlier ≤ registeredEntries port dict (earlier ++ later) := by
  apply List.countP_mono_left
  intro a _ here
  simp only [decide_eq_true_eq] at here ⊢
  exact ((list_suffix_queries earlier later).map _).subset here

theorem call_invariant (few : dict.slaves.length ≤ 3) (plentiful : ∀ p ∈ before, p.Plentiful)
    (now : q.Plentiful) (reaches : Reaches q.outcome) : CallInvariant port dict before q where
  counted := returned_eq now reaches before
  complete := by
    rw [returned_eq now reaches, Int.natCast_inj, registeredEntries,
      ← ParameterDictionary.slaveAddrs_length, List.countP_eq_length]
    simp only [decide_eq_true_eq]
  monotone := by
    rintro earlier p between rfl earlierReaches
    rw [returned_eq (plentiful p (by simp)) earlierReaches, returned_eq now reaches, Int.ofNat_le,
      show earlier ++ p :: between ++ [q] = earlier ++ [p] ++ (between ++ [q]) by simp]
    exact registered_entries_mono _ _
  inTable := by
    obtain ⟨_, _, _, _, inside⟩ := run_pass port few now reaches
      (tracks_after_queries few before plentiful).size
    exact inside

/-- Over any run of queries with memory for every entry, the list holds each slave once,
under an address of a record with its instance name, keeps its entries, and every call on
results returns the number of dictionary entries registered after it. -/
theorem registration_invariant (few : dict.slaves.length ≤ 3) (queries : List Query)
    (plentiful : ∀ q ∈ queries, q.Plentiful) :
    ListInvariant port dict queries ∧
      ∀ before q later, queries = before ++ q :: later → Reaches q.outcome →
        CallInvariant port dict before q := by
  refine ⟨list_invariant (tracks_after_queries few queries plentiful), ?_⟩
  rintro before q later rfl reaches
  exact call_invariant few (fun p member => plentiful p (List.mem_append_left _ member))
    (plentiful q (by simp)) reaches

/-- A failed query and then one that finds slave 1. -/
def lateAnswer : List Query :=
  [⟨.ipv4, espFail, [], fun _ => true⟩, ⟨.ipv4, espOk, [recordOfSlave1], fun _ => true⟩]

theorem late_answer_invariant :
    ListInvariant 502 shipped lateAnswer ∧
      ∀ before q later, lateAnswer = before ++ q :: later → Reaches q.outcome →
        CallInvariant 502 shipped before q :=
  registration_invariant (by decide) lateAnswer (by simp [lateAnswer, Query.Plentiful])

end PowerMonitor.Registration
