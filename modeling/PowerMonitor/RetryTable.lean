import PowerMonitor.IpTable

/-! The table after a history of retries. Each call starts its cursor at slot zero again and
moves it for the slaves it registers itself, while the list remembers the earlier calls.
The abstract table says, slot by slot, which call of the history decides it; the calls of
the model are shown to leave that table, and the histories that leave the documented one
are then found on the abstract side. -/
namespace PowerMonitor.RetryTable
open EspIdf Dictionary SlaveResolution SlaveList FirstSight CursorTable RegistrationPass IpTable

/-- The results of the calls so far, latest call first. -/
abbrev History := List (List MdnsResult)

section
variable (port : UInt16) (dict : ParameterDictionary) (addrType : MbTcpAddrType)

/-- Some call of the history resolves the slave. -/
def Seen (history : History) (a : UInt8) : Prop :=
  ∃ results ∈ history, (resolved port addrType results a).isSome

instance (history : History) : DecidablePred (Seen port addrType history) :=
  fun _ => inferInstanceAs (Decidable (∃ _ ∈ _, _))

/-- The slaves a call resolves that no earlier call resolved, in dictionary order. -/
def newlyResolved (earlier : History) (results : List MdnsResult) : List UInt8 :=
  dict.slaves.filter fun a =>
    decide (¬ Seen port addrType earlier a) && (resolved port addrType results a).isSome

/-- The slave a call leaves in the slot behind those it newly resolves, if it writes it. -/
def parked (earlier : History) (results : List MdnsResult) : Option (Option UInt8) :=
  match lastAddr dict with
  | none => none
  | some last =>
    if results = [] then none
    else if Seen port addrType earlier last then some (some last)
    else if (resolved port addrType results last).isSome then
      if last ∈ dict.slaveAddrs.dropLast then some (some last) else none
    else some none

/-- The slave whose address a slot carries: the latest call that wrote the slot decides. -/
def owner : History → Nat → Option UInt8
  | [], _ => none
  | results :: earlier, k =>
    let new := newlyResolved port dict addrType earlier results
    if k < new.length then new[k]?
    else if k = new.length then
      (parked port dict addrType earlier results).getD (owner earlier k)
    else owner earlier k

/-- The globals after the calls of a history, from an empty list and an all-`NULL` table. -/
def afterCalls (ipTableSz : Nat) : History → Globals
  | [] => Globals.boot ipTableSz
  | results :: earlier =>
    let s := (createList port dict addrType results (afterCalls ipTableSz earlier)).2
    ⟨s.slaveAddrList, s.ipTable⟩

/-- Every result list resolves the slaves of the dictionary to their assigned addresses. -/
def Assigned (ip : UInt8 → String) (history : History) : Prop :=
  ∀ results ∈ history, ∀ a ∈ dict.slaveAddrs, ∀ text,
    resolved port addrType results a = some text → text = ip a

/-- The list holds the slaves seen so far under their assigned addresses, and the table is
the abstract one. -/
structure Tracks (ip : UInt8 → String) (ipTableSz : Nat) (history : History) (g : Globals) :
    Prop where
  registered : ∀ a, a ∈ addrs g.slaveAddrList ↔
    a ∈ dict.slaveAddrs ∧ Seen port addrType history a
  assigned : ∀ e ∈ g.slaveAddrList, e.ipAddress = some (ip e.slaveAddr)
  size : g.slaveIpAddressTable.length = ipTableSz
  table : ∀ k < ipTableSz, g.slaveIpAddressTable[k]? =
    some ((owner port dict addrType history k).map ip)

end

variable {port : UInt16} {dict : ParameterDictionary} {addrType : MbTcpAddrType}
  {ip : UInt8 → String} {history earlier : History} {results : List MdnsResult}

theorem seen_cons : Seen port addrType (results :: earlier) a ↔
    (resolved port addrType results a).isSome ∨ Seen port addrType earlier a := by
  simp [Seen]

theorem mem_newlyResolved : a ∈ newlyResolved port dict addrType earlier results ↔
    a ∈ dict.slaveAddrs ∧ ¬ Seen port addrType earlier a ∧
      (resolved port addrType results a).isSome := by
  simp [newlyResolved]

/-- The abstract and the actual new slaves of a call are the same list. -/
private theorem new_slaves_eq {g : Globals}
    (tracks : Tracks port dict addrType ip ipTableSz earlier g) :
    newSlaves port dict addrType results g = newlyResolved port dict addrType earlier results := by
  rw [newSlaves, fresh_eq_filter]
  apply List.filter_congr
  intro a member
  have named : a ∈ dict.slaveAddrs := by simpa using member
  simp [tracks.registered, named]

/-- A registered slave is held under its assigned address. -/
private theorem held_ip_eq {g : Globals} (tracks : Tracks port dict addrType ip ipTableSz earlier g)
    (named : a ∈ dict.slaveAddrs) :
    heldIp g.slaveAddrList a =
      if Seen port addrType earlier a then some (some (ip a)) else none := by
  cases found : g.slaveAddrList.find? (fun it => a == it.slaveAddr) with
  | none =>
    have absent : a ∉ addrs g.slaveAddrList := by
      rw [← held_ip_isSome_iff, heldIp, found]
      simp
    have unseen : ¬ Seen port addrType earlier a := fun seen =>
      absent ((tracks.registered a).mpr ⟨named, seen⟩)
    simp [heldIp, found, unseen]
  | some it =>
    have same : a = it.slaveAddr := by simpa using List.find?_some found
    subst same
    have member := List.mem_of_find?_eq_some found
    have seen : Seen port addrType earlier it.slaveAddr :=
      ((tracks.registered _).mp (List.mem_map_of_mem member)).2
    simp [heldIp, found, seen, tracks.assigned it member]

/-- A slave that an assigned result list resolves is resolved to its assigned address. -/
theorem resolved_eq_assigned (assigned : Assigned port dict addrType ip (results :: earlier))
    (named : a ∈ dict.slaveAddrs) (answered : (resolved port addrType results a).isSome) :
    resolved port addrType results a = some (ip a) := by
  obtain ⟨text, found⟩ := Option.isSome_iff_exists.mp answered
  rw [found, assigned results List.mem_cons_self a named text found]

/-- What a call leaves under its cursor is what the abstract table parks there. -/
private theorem trailing_eq_parked {g : Globals}
    (tracks : Tracks port dict addrType ip ipTableSz earlier g)
    (assigned : Assigned port dict addrType ip (results :: earlier)) (nonempty : results ≠ []) :
    trailing (callOps port dict addrType results g) =
      (parked port dict addrType earlier results).map (Option.map ip) := by
  unfold parked lastAddr
  rcases List.eq_nil_or_concat dict.slaveAddrs with empty | ⟨before, last, entries⟩
  · rw [trailing_call_ops_nil empty, empty]
    rfl
  · rw [List.concat_eq_append] at entries
    have named : last ∈ dict.slaveAddrs := by simp [entries]
    rw [trailing_call_ops entries, held_ip_eq tracks named, entries, List.getLast?_concat,
      List.dropLast_concat]
    by_cases seen : Seen port addrType earlier last
    · simp [nonempty, seen]
    · cases answered : (resolved port addrType results last).isSome with
      | false =>
        have missed : resolved port addrType results last = none := by simpa using answered
        simp [nonempty, seen, missed]
      | true =>
        have found := resolved_eq_assigned assigned named answered
        simp [nonempty, seen, found]

/-- A call without results changes nothing, on either side. -/
private theorem tracks_nil {g : Globals}
    (tracks : Tracks port dict addrType ip ipTableSz earlier g) :
    Tracks port dict addrType ip ipTableSz ([] :: earlier) g := by
  have none : newlyResolved port dict addrType earlier [] = [] := by
    simp [newlyResolved]
  have idle : parked port dict addrType earlier [] = Option.none := by
    unfold parked
    split <;> simp
  refine ⟨fun a => ?_, tracks.assigned, tracks.size, fun k inside => ?_⟩
  · rw [tracks.registered, seen_cons]
    simp
  · rw [tracks.table k inside, owner, none, idle]
    simp

/-- What a pass adds to the list it adds under the assigned addresses. -/
private theorem assigned_after_pass {g : Globals} {s s' : CreateState}
    (pass : Pass (plentifulCall port addrType results g) dict.slaveAddrs s s')
    (before : ∀ e ∈ s.slaveAddrList, e.ipAddress = some (ip e.slaveAddr))
    (assigned : Assigned port dict addrType ip (results :: earlier)) :
    ∀ e ∈ s'.slaveAddrList, e.ipAddress = some (ip e.slaveAddr) := by
  intro e member
  obtain ⟨new, list, pairs⟩ := pass.enrolled
  rw [list] at member
  rcases List.mem_append.mp member with here | old
  · have pair : (e.slaveAddr, e.ipAddress) ∈ new.map fun e => (e.slaveAddr, e.ipAddress) :=
      List.mem_map_of_mem here
    rw [pairs, List.mem_reverse, List.mem_map] at pair
    obtain ⟨a, fresh, same⟩ := pair
    obtain ⟨named, _, answered⟩ := mem_fresh.mp fresh
    obtain ⟨rfl, same⟩ := Prod.mk.inj same
    rw [← same]
    exact resolved_eq_assigned assigned named answered
  · exact before e old

/-- **One call.** The abstract table follows the calls of the model. -/
theorem tracks_call {g : Globals} (room : dict.slaves.length < ipTableSz)
    (tracks : Tracks port dict addrType ip ipTableSz earlier g)
    (assigned : Assigned port dict addrType ip (results :: earlier)) :
    Tracks port dict addrType ip ipTableSz (results :: earlier)
      ⟨(createList port dict addrType results g).2.slaveAddrList,
        (createList port dict addrType results g).2.ipTable⟩ := by
  by_cases nonempty : results = []
  · subst nonempty
    rw [create_list_nil]
    exact tracks_nil tracks
  obtain ⟨s', run, pass⟩ := create_list_pass port dict addrType nonempty g
  obtain ⟨_, _, size, slot⟩ := table_after_pass pass (by rw [tracks.size]; exact room)
  rw [run]
  have few := new_slaves_length_le port dict addrType results g
  refine ⟨fun a => ?_, assigned_after_pass pass tracks.assigned assigned, by rw [size, tracks.size],
    fun k inside => ?_⟩
  · rw [pass.mem_addrs, answer_plentifulCall, tracks.registered, seen_cons]
    by_cases named : a ∈ dict.slaveAddrs <;> simp [named, or_comm]
  · rw [slot, new_slaves_eq tracks, owner]
    rw [new_slaves_eq tracks] at few
    split
    · rename_i below
      rw [List.getElem?_eq_getElem below]
      have new := mem_newlyResolved.mp (List.getElem_mem below)
      simp [resolved_eq_assigned assigned new.1 new.2.2]
    · split
      · rw [trailing_eq_parked tracks assigned nonempty, tracks.table k inside]
        cases parked port dict addrType earlier results <;> rfl
      · exact tracks.table k inside

/-- **A whole history.** After any calls the list holds the slaves seen and the table is the
abstract one. -/
theorem tracks_history (room : dict.slaves.length < ipTableSz)
    (assigned : Assigned port dict addrType ip history) :
    Tracks port dict addrType ip ipTableSz history
      (afterCalls port dict addrType ipTableSz history) := by
  induction history with
  | nil =>
    refine ⟨fun a => by simp [afterCalls, Globals.boot, Seen], (fun e member => nomatch member),
      by simp [afterCalls, Globals.boot], fun k inside => ?_⟩
    simp [afterCalls, Globals.boot, owner, inside]
  | cons results earlier ih =>
    exact tracks_call room
      (ih fun list member => assigned list (List.mem_cons_of_mem _ member)) assigned

end PowerMonitor.RetryTable
