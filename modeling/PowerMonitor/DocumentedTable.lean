import PowerMonitor.RetryTable

/-! Which histories of retries leave the documented table, slot `k` for the `k`-th distinct
slave of the dictionary. The question is settled for the owners of the slots; addresses come
in at the end, where two slaves that share one can make a misplaced slot look right. -/
namespace PowerMonitor.DocumentedTable
open EspIdf Dictionary SlaveResolution SlaveList FirstSight RegistrationPass IpTable RetryTable

section
variable (port : UInt16) (dict : ParameterDictionary) (addrType : MbTcpAddrType)
  (history : History)

/-- Slot `k` is owned by the `k`-th distinct slave. -/
def InOrder : Prop :=
  ∀ (k : Nat) (a : UInt8), dict.slaves[k]? = some a →
    owner port dict addrType history k = some a

/-- One call resolved all slaves when none had been resolved before it, and it is the last
call or the last dictionary entry belongs to the first slave. -/
def AllAtOnce : Prop :=
  ∃ later results earlier, history = later ++ results :: earlier ∧
    newlyResolved port dict addrType earlier results = dict.slaves ∧
    (later = [] ∨ lastAddr dict = dict.slaves.head?)

/-- The last call resolved all slaves but the last one, which had been resolved before, and
the last dictionary entry belongs to that slave. -/
def AllButLast : Prop :=
  ∃ results earlier, history = results :: earlier ∧
    newlyResolved port dict addrType earlier results = dict.slaves.dropLast ∧
    lastAddr dict = dict.slaves.getLast?

/-- Two slaves of the dictionary share an address. -/
def SharedIps (ip : UInt8 → String) : Prop :=
  ∃ a ∈ dict.slaveAddrs, ∃ b ∈ dict.slaveAddrs, a ≠ b ∧ ip a = ip b

/-- Every slot is owned, by the order in which the calls resolve the slaves, by one with the address
of the slave it is meant for. -/
def OwnersShareIps (ip : UInt8 → String) : Prop :=
  ∀ (k : Nat) (a : UInt8), dict.slaves[k]? = some a →
    ∃ b, owner port dict addrType history k = some b ∧ ip b = ip a

/-- Every slave of the dictionary was resolved in some call. -/
def AllSeen : Prop := ∀ a ∈ dict.slaveAddrs, Seen port addrType history a

end

variable {port : UInt16} {dict : ParameterDictionary} {addrType : MbTcpAddrType}
  {ip : UInt8 → String} {history earlier : History} {results : List MdnsResult}

private theorem newly_resolved_sublist (port : UInt16) (dict : ParameterDictionary)
    (addrType : MbTcpAddrType) (earlier : History) (results : List MdnsResult) :
    (newlyResolved port dict addrType earlier results).Sublist dict.slaves :=
  List.filter_sublist

private theorem slaves_nodup (dict : ParameterDictionary) : dict.slaves.Nodup :=
  nodup_eraseDups _

/-- The last entry's slave is named by the dictionary. -/
private theorem last_addr_named (last : lastAddr dict = some a) : a ∈ dict.slaveAddrs :=
  List.mem_of_getLast? last

/-- Once every slave was seen, a call newly resolves none. -/
private theorem newly_resolved_nil (all : AllSeen port dict addrType earlier) :
    newlyResolved port dict addrType earlier results = [] := by
  apply List.eq_nil_iff_forall_not_mem.mpr
  intro a member
  obtain ⟨named, unseen, _⟩ := mem_newlyResolved.mp member
  exact unseen (all a named)

private theorem all_seen_of_newly_all
    (all : newlyResolved port dict addrType earlier results = dict.slaves) :
    AllSeen port dict addrType (results :: earlier) := by
  intro a named
  have member : a ∈ newlyResolved port dict addrType earlier results := by
    rw [all]; simpa using named
  exact seen_cons.mpr (Or.inl (mem_newlyResolved.mp member).2.2)

private theorem all_seen_append (later : History) (all : AllSeen port dict addrType history) :
    AllSeen port dict addrType (later ++ history) := fun a named =>
  let ⟨results, member, answered⟩ := all a named
  ⟨results, List.mem_append_right _ member, answered⟩

/-! ## Histories that are enough -/

/-- A call that newly resolves all slaves owns every slot with the slave it is meant for. -/
theorem in_order_of_newly_all
    (all : newlyResolved port dict addrType earlier results = dict.slaves) :
    InOrder port dict addrType (results :: earlier) := by
  intro k a slot
  have below : k < dict.slaves.length := (List.getElem?_eq_some_iff.mp slot).1
  simp only [owner, all, below, ↓reduceIte, slot]

/-- A further call rewrites slot zero with the address of the last entry's slave, which does
no harm when that is the first slave. -/
private theorem in_order_later (all : AllSeen port dict addrType history)
    (returns : lastAddr dict = dict.slaves.head?) (order : InOrder port dict addrType history) :
    InOrder port dict addrType (results :: history) := by
  intro k a slot
  rw [owner, newly_resolved_nil all]
  simp only [List.length_nil, Nat.not_lt_zero, ↓reduceIte]
  split
  · rename_i zero
    subst zero
    have first : lastAddr dict = some a := by rw [returns, List.head?_eq_getElem?, slot]
    by_cases idle : results = []
    · simp [parked, first, idle, order 0 a slot]
    · simp [parked, first, idle, all a (last_addr_named first)]
  · exact order k a slot

theorem in_order_of_all_at_once (once : AllAtOnce port dict addrType history) :
    InOrder port dict addrType history := by
  obtain ⟨later, results, earlier, rfl, all, ends⟩ := once
  rcases ends with rfl | returns
  · exact in_order_of_newly_all all
  · induction later with
    | nil => exact in_order_of_newly_all all
    | cons newer later ih =>
      exact in_order_later (all_seen_append later (all_seen_of_newly_all all)) returns ih

/-- A prefix of the slaves in which a slave behind it does not occur. -/
private theorem not_mem_take (slot : dict.slaves[k]? = some a) (later : m ≤ k) :
    a ∉ dict.slaves.take m := by
  intro member
  obtain ⟨j, below, same⟩ := List.getElem_of_mem member
  rw [List.length_take] at below
  rw [List.getElem_take] at same
  obtain ⟨inside, here⟩ := List.getElem?_eq_some_iff.mp slot
  have index := (slaves_nodup dict).getElem_inj_iff.mp (same.trans here.symm)
  omega

/-- The last slot is the one under the cursor, and it gets the slave resolved before. -/
theorem in_order_of_all_but_last (nonempty : history.head? ≠ some [])
    (all : AllSeen port dict addrType history) (rest : AllButLast port dict addrType history) :
    InOrder port dict addrType history := by
  obtain ⟨results, earlier, rfl, new, ends⟩ := rest
  intro k a slot
  have inside : k < dict.slaves.length := (List.getElem?_eq_some_iff.mp slot).1
  rw [owner, new]
  simp only [List.length_dropLast]
  split
  · rename_i below
    rw [List.getElem?_dropLast, if_pos below, slot]
  · have under : k = dict.slaves.length - 1 := by omega
    have last : lastAddr dict = some a := by
      rw [ends, List.getLast?_eq_getElem?, ← under, slot]
    have named := last_addr_named last
    have seen : Seen port addrType earlier a := by
      rcases seen_cons.mp (all a named) with answered | seen
      · by_contra unseen
        have member : a ∈ dict.slaves.dropLast := by
          rw [← new]; exact mem_newlyResolved.mpr ⟨named, unseen, answered⟩
        rw [List.dropLast_eq_take] at member
        exact not_mem_take slot (by omega) member
      · exact seen
    have results_ne : results ≠ [] := by simpa using nonempty
    simp [under, parked, last, results_ne, seen]

/-! ## No other history is -/

/-- Some call of the history wrote the slot for the slave: as one of the slaves it newly
resolved, or, behind them, as the slave of the last entry. -/
def Written (port : UInt16) (dict : ParameterDictionary) (addrType : MbTcpAddrType)
    (history : History) (k : Nat) (a : UInt8) : Prop :=
  ∃ later results earlier, history = later ++ results :: earlier ∧
    ((newlyResolved port dict addrType earlier results)[k]? = some a ∨
      k = (newlyResolved port dict addrType earlier results).length ∧ lastAddr dict = some a)

theorem Written.cons (written : Written port dict addrType earlier k a) :
    Written port dict addrType (results :: earlier) k a :=
  let ⟨later, other, older, same, wrote⟩ := written
  ⟨results :: later, other, older, by rw [same]; rfl, wrote⟩

/-- Only the slave of the last entry is left under the cursor. -/
private theorem parked_last (left : parked port dict addrType earlier results = some (some a)) :
    lastAddr dict = some a := by
  unfold parked at left
  cases last : lastAddr dict with
  | none => simp [last] at left
  | some b =>
    simp only [last] at left
    split at left
    · cases left
    · split at left
      · simpa using left
      · split at left
        · split at left
          · simpa using left
          · cases left
        · cases left

private theorem owner_written (owned : owner port dict addrType history k = some a) :
    Written port dict addrType history k a := by
  induction history with
  | nil => cases owned
  | cons results earlier ih =>
    rw [owner] at owned
    split at owned
    · exact ⟨[], results, earlier, rfl, Or.inl owned⟩
    · split at owned
      · rename_i under
        cases left : parked port dict addrType earlier results with
        | none => exact (ih (by simpa [left] using owned)).cons
        | some value =>
          have same : value = some a := by simpa [left] using owned
          exact ⟨[], results, earlier, rfl, Or.inr ⟨under, parked_last (by rw [left, same])⟩⟩
      · exact (ih owned).cons

/-- The slaves a last call newly resolves are the first ones when the slots are in order. -/
private theorem newly_resolved_take (order : InOrder port dict addrType (results :: earlier)) :
    newlyResolved port dict addrType earlier results =
      dict.slaves.take (newlyResolved port dict addrType earlier results).length := by
  have few := (newly_resolved_sublist port dict addrType earlier results).length_le
  apply List.ext_getElem?
  intro k
  rw [List.getElem?_take]
  split
  · rename_i below
    have inside : k < dict.slaves.length := by omega
    have owned := order k _ (List.getElem?_eq_getElem inside)
    rw [owner] at owned
    simp only [below, ↓reduceIte] at owned
    rw [owned, List.getElem?_eq_getElem inside]
  · rename_i outside
    exact List.getElem?_eq_none (Nat.not_lt.mp outside)

private theorem last_addr_exists (nonempty : 0 < dict.slaves.length) :
    ∃ last, lastAddr dict = some last := by
  cases ends : lastAddr dict with
  | some last => exact ⟨last, rfl⟩
  | none =>
    have empty : dict.slaveAddrs = [] := List.getLast?_eq_none_iff.mp ends
    simp [ParameterDictionary.slaves, empty] at nonempty

/-- The last entry's slave stands last among the slaves when no earlier entry names it. -/
private theorem last_slave_of_unrepeated (ends : lastAddr dict = some last)
    (unrepeated : last ∉ dict.slaveAddrs.dropLast) :
    dict.slaves[dict.slaves.length - 1]? = some last := by
  have entries : dict.slaveAddrs = dict.slaveAddrs.dropLast ++ [last] := by
    obtain ⟨before, split⟩ := List.getLast?_eq_some_iff.mp ends
    rw [split, List.dropLast_concat]
  have final : dict.slaves = dict.slaveAddrs.dropLast.eraseDups ++ [last] := by
    rw [ParameterDictionary.slaves, entries, List.eraseDups_append, List.dropLast_concat]
    simp [List.removeAll, unrepeated, List.eraseDups_cons]
  rw [← List.getLast?_eq_getElem?, final, List.getLast?_concat]

/-- The last entry's slave was resolved before a last call that leaves the slots in order
without newly resolving all slaves, and it is the first slave the call does not resolve. -/
theorem parked_in_order (nonempty : results ≠ [])
    (all : AllSeen port dict addrType (results :: earlier))
    (order : InOrder port dict addrType (results :: earlier))
    (part : (newlyResolved port dict addrType earlier results).length < dict.slaves.length) :
    lastAddr dict =
      dict.slaves[(newlyResolved port dict addrType earlier results).length]? := by
  have slot := List.getElem?_eq_getElem part
  obtain ⟨last, ends⟩ := last_addr_exists (Nat.zero_lt_of_lt part)
  have owned := order _ _ slot
  rw [owner] at owned
  simp only [Nat.lt_irrefl, ↓reduceIte] at owned
  by_cases seen : Seen port addrType earlier last
  · simp only [parked, ends, nonempty, seen, ↓reduceIte, Option.getD_some] at owned
    rw [ends, owned, slot]
  · -- A slave first resolved by this call stands among the first slaves, not behind them.
    exfalso
    have answered := (seen_cons.mp (all last (last_addr_named ends))).resolve_right seen
    have new : last ∈ newlyResolved port dict addrType earlier results :=
      mem_newlyResolved.mpr ⟨last_addr_named ends, seen, answered⟩
    rw [newly_resolved_take order] at new
    by_cases repeated : last ∈ dict.slaveAddrs.dropLast
    · simp only [parked, ends, nonempty, seen, answered, repeated, ↓reduceIte,
        Option.getD_some, Option.some.injEq] at owned
      exact not_mem_take slot (Nat.le_refl _) (owned ▸ new)
    · exact not_mem_take (last_slave_of_unrepeated ends repeated) (by omega) new

/-- When the last slot is in order but was not written by the last call, an earlier call
newly resolved all slaves. -/
theorem all_resolved_earlier (slot : dict.slaves[dict.slaves.length - 1]? = some a)
    (owned : owner port dict addrType earlier (dict.slaves.length - 1) = some a)
    (other : lastAddr dict ≠ some a) :
    ∃ later first older, earlier = later ++ first :: older ∧
      newlyResolved port dict addrType older first = dict.slaves := by
  obtain ⟨later, first, older, rfl, new | ⟨_, last⟩⟩ := owner_written owned
  · refine ⟨later, first, older, rfl, ?_⟩
    have below := (List.getElem?_eq_some_iff.mp new).1
    have inside := (List.getElem?_eq_some_iff.mp slot).1
    exact (newly_resolved_sublist port dict addrType older first).eq_of_length_le (by omega)
  · exact absurd last other

/-- Slots that are in order after a last call with results, when every slave was seen. -/
theorem in_order_cases (nonempty : results ≠ [])
    (all : AllSeen port dict addrType (results :: earlier))
    (order : InOrder port dict addrType (results :: earlier)) :
    AllAtOnce port dict addrType (results :: earlier) ∨
      AllButLast port dict addrType (results :: earlier) := by
  have prefixed := newly_resolved_take order
  rcases Nat.lt_or_ge (newlyResolved port dict addrType earlier results).length
    dict.slaves.length with part | full
  · have ends := parked_in_order nonempty all order part
    by_cases final : (newlyResolved port dict addrType earlier results).length + 1 =
        dict.slaves.length
    · refine Or.inr ⟨results, earlier, rfl, ?_, ?_⟩
      · rw [prefixed, List.dropLast_eq_take]
        congr 1
        omega
      · rw [ends, List.getLast?_eq_getElem?]
        congr 1
        omega
    · have inside : dict.slaves.length - 1 < dict.slaves.length := by omega
      have slot := List.getElem?_eq_getElem inside
      have owned := order _ _ slot
      rw [owner, if_neg (by omega), if_neg (by omega)] at owned
      have other : lastAddr dict ≠ some dict.slaves[dict.slaves.length - 1] := by
        rw [ends, List.getElem?_eq_getElem part, ne_eq, Option.some.injEq,
          (slaves_nodup dict).getElem_inj_iff]
        omega
      obtain ⟨later, first, older, rfl, resolvesAll⟩ := all_resolved_earlier slot owned other
      have none : newlyResolved port dict addrType (later ++ first :: older) results = [] :=
        newly_resolved_nil (all_seen_append later (all_seen_of_newly_all resolvesAll))
      refine Or.inl ⟨results :: later, first, older, rfl, resolvesAll, Or.inr ?_⟩
      rw [ends, none, List.head?_eq_getElem?]
      rfl
  · exact Or.inl ⟨[], results, earlier, rfl,
      (newly_resolved_sublist port dict addrType earlier results).eq_of_length_le full, Or.inl rfl⟩

/-- Every owner is a slave of the dictionary. -/
private theorem owner_named (owned : owner port dict addrType history k = some a) :
    a ∈ dict.slaveAddrs := by
  obtain ⟨later, results, earlier, _, new | ⟨_, last⟩⟩ := owner_written owned
  · exact (mem_newlyResolved.mp (List.mem_of_getElem? new)).1
  · exact last_addr_named last

/-! ## The table of the model -/

/-- A call that returns the size of the dictionary had results, and with it every slave was
seen. -/
private theorem all_seen_of_returned (room : dict.slaves.length < ipTableSz)
    (assigned : Assigned port dict addrType ip (results :: earlier))
    (returned : (createList port dict addrType results
      (afterCalls port dict addrType ipTableSz earlier)).1 = dict.numDeviceParameters) :
    results ≠ [] ∧ AllSeen port dict addrType (results :: earlier) := by
  have nonempty : results ≠ [] := by
    rintro rfl
    rw [create_list_nil] at returned
    exact absurd returned (by simp only; omega)
  obtain ⟨s', run, pass⟩ := create_list_pass port dict addrType nonempty
    (afterCalls port dict addrType ipTableSz earlier)
  have tracks : Tracks port dict addrType ip ipTableSz earlier
      (afterCalls port dict addrType ipTableSz earlier) :=
    tracks_history room fun list member => assigned list (List.mem_cons_of_mem results member)
  refine ⟨nonempty, fun a named => ?_⟩
  have count : dict.slaveAddrs.countP (held
      (addrs (afterCalls port dict addrType ipTableSz earlier).slaveAddrList)
      (resolved port addrType results)) = dict.slaveAddrs.length := by
    have counted := pass.counted
    rw [run, Int.natCast_inj] at returned
    rw [returned, Nat.zero_add] at counted
    rw [ParameterDictionary.slaveAddrs_length]
    exact counted.symm
  rcases held_eq_true.mp (List.countP_eq_length.mp count a named) with before | answered
  · exact seen_cons.mpr (Or.inr ((tracks.registered a).mp before).2)
  · exact seen_cons.mpr (Or.inl answered)

/-- With distinct addresses a slot shows whose it is. -/
theorem in_order_of_distinct (distinct : ¬ SharedIps dict ip)
    (shares : OwnersShareIps port dict addrType history ip) :
    InOrder port dict addrType history := by
  intro k a slot
  obtain ⟨b, owned, same⟩ := shares k a slot
  rw [owned]
  by_contra other
  exact distinct ⟨b, owner_named owned, a, by simpa using List.mem_of_getElem? slot,
    fun eq => other (congrArg some eq), same⟩

/-- A slot holds the address of the slave that owns it. -/
private theorem slots_iff (room : dict.slaves.length < ipTableSz)
    (assigned : Assigned port dict addrType ip history) :
    (∀ (k : Nat) (a : UInt8), dict.slaves[k]? = some a →
      (afterCalls port dict addrType ipTableSz history).slaveIpAddressTable[k]? =
        some (some (ip a))) ↔ OwnersShareIps port dict addrType history ip := by
  have tracks := tracks_history room assigned
  refine forall₃_congr fun k a slot => ?_
  have inside : k < ipTableSz := Nat.lt_trans (List.getElem?_eq_some_iff.mp slot).1 room
  rw [tracks.table k inside]
  simp [Option.map_eq_some_iff]

/-- Histories of the two kinds leave every slot to the slave it is meant for. -/
private theorem owners_share (nonempty : results ≠ [])
    (all : AllSeen port dict addrType (results :: earlier))
    (enough : AllAtOnce port dict addrType (results :: earlier) ∨
      AllButLast port dict addrType (results :: earlier)) :
    OwnersShareIps port dict addrType (results :: earlier) ip := by
  intro k a slot
  refine ⟨a, ?_, rfl⟩
  rcases enough with once | rest
  · exact in_order_of_all_at_once once k a slot
  · exact in_order_of_all_but_last (by simpa using nonempty) all rest k a slot

/-- With distinct addresses two kinds of histories leave the documented table, and no others. -/
theorem distinct_table_iff (room : dict.slaves.length < ipTableSz)
    (assigned : Assigned port dict addrType ip (results :: earlier))
    (returned : (createList port dict addrType results
      (afterCalls port dict addrType ipTableSz earlier)).1 = dict.numDeviceParameters)
    (distinct : ¬ SharedIps dict ip) :
    (∀ (k : Nat) (a : UInt8), dict.slaves[k]? = some a →
      (afterCalls port dict addrType ipTableSz (results :: earlier)).slaveIpAddressTable[k]? =
        some (some (ip a))) ↔
    AllAtOnce port dict addrType (results :: earlier) ∨
      AllButLast port dict addrType (results :: earlier) := by
  obtain ⟨nonempty, all⟩ := all_seen_of_returned room assigned returned
  rw [slots_iff room assigned]
  exact ⟨fun shares => in_order_cases nonempty all (in_order_of_distinct distinct shares),
    owners_share nonempty all⟩

/-- After calls of which the last returns the size of the dictionary, slot `k` holds the
address of the `k`-th distinct slave exactly when one call resolved all slaves at once with
no harm done later, or the last call resolved all but the last slave, or two slaves share an
address and the slots got the right addresses from the wrong slaves. -/
theorem documented_table_iff (room : dict.slaves.length < ipTableSz)
    (assigned : Assigned port dict addrType ip (results :: earlier))
    (returned : (createList port dict addrType results
      (afterCalls port dict addrType ipTableSz earlier)).1 = dict.numDeviceParameters) :
    (∀ (k : Nat) (a : UInt8), dict.slaves[k]? = some a →
      (afterCalls port dict addrType ipTableSz (results :: earlier)).slaveIpAddressTable[k]? =
        some (some (ip a))) ↔
    AllAtOnce port dict addrType (results :: earlier) ∨
      AllButLast port dict addrType (results :: earlier) ∨
      SharedIps dict ip ∧ OwnersShareIps port dict addrType (results :: earlier) ip := by
  obtain ⟨nonempty, all⟩ := all_seen_of_returned room assigned returned
  by_cases shared : SharedIps dict ip
  · rw [slots_iff room assigned]
    refine ⟨fun shares => Or.inr (Or.inr ⟨shared, shares⟩), ?_⟩
    rintro (once | rest | ⟨_, shares⟩)
    · exact owners_share nonempty all (Or.inl once)
    · exact owners_share nonempty all (Or.inr rest)
    · exact shares
  · rw [distinct_table_iff room assigned returned shared]
    simp only [shared, false_and, or_false]

/-- Two RTUs with one parameter each. -/
def twoRtus : ParameterDictionary := ⟨[voltage, { current with mbSlaveAddr := 2 }], by decide⟩

/-- The addresses of the two RTUs. -/
def rtuIp (a : UInt8) : String := if a = 1 then "192.168.1.21" else "192.168.1.22"

/-- The first call finds slave 1 only, the second finds both slaves. -/
def secondLater : History := [[recordOfSlave1, recordOfSlave2], [recordOfSlave1]]

private theorem second_later_assigned : Assigned 502 twoRtus .ipv4 rtuIp secondLater := by
  have both : resolved 502 .ipv4 [recordOfSlave1, recordOfSlave2] 1 = some (rtuIp 1) ∧
      resolved 502 .ipv4 [recordOfSlave1, recordOfSlave2] 2 = some (rtuIp 2) := by decide
  have first : resolved 502 .ipv4 [recordOfSlave1] 1 = some (rtuIp 1) ∧
      resolved 502 .ipv4 [recordOfSlave1] 2 = none := by decide
  have named : twoRtus.slaveAddrs = [1, 2] := by decide
  intro results member a slave text found
  rw [named] at slave
  simp only [secondLater, List.mem_cons, List.not_mem_nil, or_false] at member slave
  rcases member with rfl | rfl <;> rcases slave with rfl | rfl
  · simpa [both.1] using found.symm
  · simpa [both.2] using found.symm
  · simpa [first.1] using found.symm
  · simp [first.2] at found

theorem second_later_iff :
    (∀ (k : Nat) (a : UInt8), twoRtus.slaves[k]? = some a →
      (afterCalls 502 twoRtus .ipv4 4 secondLater).slaveIpAddressTable[k]? =
        some (some (rtuIp a))) ↔
    AllAtOnce 502 twoRtus .ipv4 secondLater ∨ AllButLast 502 twoRtus .ipv4 secondLater ∨
      SharedIps twoRtus rtuIp ∧ OwnersShareIps 502 twoRtus .ipv4 secondLater rtuIp :=
  documented_table_iff (by decide) second_later_assigned (by decide)

/-- The second call returns the size of the dictionary and puts slave 2 in the slot of
slave 1, whose address is then nowhere in the table. -/
theorem second_later_drops_first_slave :
    ¬ (twoRtus.slaves.length < 4 → Assigned 502 twoRtus .ipv4 rtuIp secondLater →
        (createList 502 twoRtus .ipv4 [recordOfSlave1, recordOfSlave2]
          (afterCalls 502 twoRtus .ipv4 4 [[recordOfSlave1]])).1 = twoRtus.numDeviceParameters →
        ∀ (k : Nat) (a : UInt8), twoRtus.slaves[k]? = some a →
          (afterCalls 502 twoRtus .ipv4 4 secondLater).slaveIpAddressTable[k]? =
            some (some (rtuIp a))) := by
  have table : (afterCalls 502 twoRtus .ipv4 4 secondLater).slaveIpAddressTable =
      [some "192.168.1.22", none, none, none] := by decide
  intro documented
  have first := documented (by decide) second_later_assigned (by decide) 0 1 (by decide)
  rw [table] at first
  exact absurd first (by decide)

end PowerMonitor.DocumentedTable
