import Mathlib.Logic.Embedding.Basic
import PowerMonitor.IntrusiveList
import PowerMonitor.RegistrationPass

/-! `master_destroy_slave_list` after any history of `master_create_slave_list` calls. The list
stands in a heap, where each entry was inserted at the address its allocation returned. The
loop of the teardown frees the entry it stands on and then reads the link in it. -/
namespace PowerMonitor.Teardown
open EspIdf Dictionary SlaveResolution SlaveList RegistrationPass IntrusiveList

/-- Addresses of entries on the heap. -/
abbrev Ptr : Type := Nat

/-- The heap with the slave list, as the `LIST_INSERT_HEAD` of each registration leaves it.
Nothing is freed between two allocations, so no address is handed out twice. -/
def slaveListHeap (heapCapsMalloc : Nat ↪ Ptr) :
    List SlaveAddrEntry → Except (Dangling Ptr) (Heap Ptr SlaveAddrEntry)
  | [] => .ok Heap.empty
  | newSlaveEntry :: list => do
    let h ← slaveListHeap heapCapsMalloc list
    h.listInsertHead (heapCapsMalloc list.length) newSlaveEntry

/-- The `LIST_FOREACH` of the teardown. -/
def destroyEntries : Nat → Option Ptr → Heap Ptr SlaveAddrEntry →
    Option (Except (Dangling Ptr) (Heap Ptr SlaveAddrEntry))
  | _, none, h => some (.ok h)
  | 0, some _, _ => none
  | fuel + 1, some it, h =>
    let turn : Except (Dangling Ptr) (Option Ptr × Heap Ptr SlaveAddrEntry) := do
      let h ← h.listRemove it
      let h ← h.free it
      let next ← h.listNext it
      return (next, h)
    match turn with
    | .error dangling => some (.error dangling)
    | .ok (next, h) => destroyEntries fuel next h

/-- The loop over the table of IP addresses, up to its size or the first `NULL`. -/
def clearTable : Nat → List (Option String) → List (Option String)
  | left + 1, some _ :: table => none :: clearTable left table
  | _, table => table

/-- `master_destroy_slave_list`, with the turns its loop may take. -/
def masterDestroySlaveList (fuel : Nat) (h : Heap Ptr SlaveAddrEntry)
    (table : List (Option String)) (ipTableSize : Nat) :
    Option (Except (Dangling Ptr) (Heap Ptr SlaveAddrEntry × List (Option String))) :=
  (destroyEntries fuel h.lhFirst h).map fun outcome =>
    outcome.map fun h => (h, clearTable ipTableSize table)

/-- The globals after the calls of a history, from an empty list and an all-`NULL` table. -/
def afterCalls (dict : ParameterDictionary) (ipTableSz : Nat) (calls : List CreateCall) : Globals :=
  calls.foldl (fun g call =>
    let s := (masterCreateSlaveList dict call g).2
    ⟨s.slaveAddrList, s.ipTable⟩) (Globals.boot ipTableSz)

/-- The teardown comes to its end without touching a freed entry; then the list is empty, all
entries are freed and every slot of the table is `NULL`. -/
def TearsDown (heapCapsMalloc : Nat ↪ Ptr) (g : Globals) : Prop :=
  ∃ start fuel h table, slaveListHeap heapCapsMalloc g.slaveAddrList = .ok start ∧
    masterDestroySlaveList fuel start g.slaveIpAddressTable g.slaveIpAddressTable.length =
      some (.ok (h, table)) ∧
    h.lhFirst = none ∧ (∀ it, h.cells it = none) ∧ ∀ slot ∈ table, slot = none

/-- The call registers no slave: the first slave of the dictionary that its results resolve, if
there is one, is refused memory. -/
def RegistersNothing (dict : ParameterDictionary) (call : CreateCall) : Prop :=
  ∀ a ∈ dict.slaveAddrs.find? fun a => (answer call a).isSome, call.malloc a = false

/-- The entries with their addresses on the heap. -/
def placed (heapCapsMalloc : Nat ↪ Ptr) : List SlaveAddrEntry → List (Ptr × SlaveAddrEntry)
  | [] => []
  | entry :: list => (heapCapsMalloc list.length, entry) :: placed heapCapsMalloc list

variable {heapCapsMalloc : Nat ↪ Ptr} {list : List SlaveAddrEntry} {h : Heap Ptr SlaveAddrEntry}

/-- An address is in use when it was returned by one of the allocations so far. -/
private theorem mem_placed (it : Ptr) (used : it ∈ (placed heapCapsMalloc list).map Prod.fst) :
    ∃ k < list.length, it = heapCapsMalloc k := by
  induction list with
  | nil => cases used
  | cons entry list ih =>
    rcases List.mem_cons.mp used with here | earlier
    · exact ⟨list.length, by simp, here⟩
    · obtain ⟨k, below, named⟩ := ih earlier
      exact ⟨k, by simp only [List.length_cons]; omega, named⟩

/-- The registrations link the list in the heap. -/
private theorem slave_list_heap_holds (heapCapsMalloc : Nat ↪ Ptr) (list : List SlaveAddrEntry) :
    ∃ h, slaveListHeap heapCapsMalloc list = .ok h ∧ h.Holds (placed heapCapsMalloc list) := by
  induction list with
  | nil => exact ⟨Heap.empty, rfl, Heap.holds_empty⟩
  | cons entry list ih =>
    obtain ⟨h, built, holds⟩ := ih
    have unused : heapCapsMalloc list.length ∉ (placed heapCapsMalloc list).map Prod.fst := by
      intro used
      obtain ⟨k, below, same⟩ := mem_placed _ used
      have := heapCapsMalloc.injective same
      omega
    obtain ⟨h', inserted, holds'⟩ := Heap.holds_insert holds unused entry
    exact ⟨h', by simp only [slaveListHeap, built]; exact inserted, holds'⟩

/-- On a list with an entry the loop removes and frees the first entry and then reads its
link, whatever turns it may take. -/
theorem destroy_entries_dangling {it : Ptr} {entry : SlaveAddrEntry}
    {rest : List (Ptr × SlaveAddrEntry)} (holds : h.Holds ((it, entry) :: rest)) (fuel : Nat) :
    destroyEntries (fuel + 1) h.lhFirst h = some (.error ⟨it⟩) := by
  obtain ⟨first, _⟩ := holds.linked
  obtain ⟨removed, freed, remove, free, left⟩ := Heap.holds_remove_first holds
  have gone := Heap.list_next_of_unallocated left (List.nodup_cons.mp holds.distinct).1
  rw [first]
  simp only [destroyEntries, remove, bind, Except.bind, free, gone]

/-- On an empty list the loop ends at once. -/
private theorem destroy_entries_nil (holds : h.Holds []) (fuel : Nat) :
    destroyEntries fuel h.lhFirst h = some (.ok h) := by
  have first : h.lhFirst = none := holds.linked
  rw [first]
  cases fuel <;> rfl

/-- The loop over the table leaves it all `NULL` exactly when no address stands behind a
`NULL` slot. -/
private theorem clear_table_null_iff (table : List (Option String)) :
    (∀ slot ∈ clearTable table.length table, slot = none) ↔
      ∀ slot ∈ table.dropWhile (·.isSome), slot = none := by
  induction table with
  | nil => simp [clearTable]
  | cons slot table ih =>
    cases slot with
    | none => simp [clearTable]
    | some ip => simpa [clearTable] using ih

/-- The teardown is complete and safe exactly when nothing is in the list and no address stands
behind a `NULL` slot of the table. -/
theorem tears_down_iff (g : Globals) :
    TearsDown heapCapsMalloc g ↔ g.slaveAddrList = [] ∧
      ∀ slot ∈ g.slaveIpAddressTable.dropWhile (·.isSome), slot = none := by
  obtain ⟨start, built, holds⟩ := slave_list_heap_holds heapCapsMalloc g.slaveAddrList
  rw [← clear_table_null_iff]
  cases list : g.slaveAddrList with
  | nil =>
    rw [list] at built holds
    have ended := destroy_entries_nil holds
    have freed : ∀ it, start.cells it = none := fun it => by
      simpa [placed] using holds.allocated it
    constructor
    · rintro ⟨start', fuel, h, table, built', torn, _, _, null⟩
      obtain rfl : start = start' := by simpa [list, built] using built'
      rw [masterDestroySlaveList, ended] at torn
      cases torn
      exact ⟨rfl, null⟩
    · rintro ⟨_, null⟩
      exact ⟨start, 0, start, _, by rw [list, built], by rw [masterDestroySlaveList, ended]; rfl,
        holds.linked, freed, null⟩
  | cons entry list' =>
    rw [list] at built holds
    refine iff_of_false ?_ (fun empty => List.cons_ne_nil _ _ empty.1)
    rintro ⟨start', fuel, h, table, built', torn, _⟩
    obtain rfl : start = start' := by simpa [list, built] using built'
    obtain ⟨first, _⟩ := holds.linked
    cases fuel with
    | zero => simp [masterDestroySlaveList, first, destroyEntries] at torn
    | succ fuel =>
      rw [masterDestroySlaveList, destroy_entries_dangling holds fuel] at torn
      cases torn

/-- Nothing is registered and no slot of the table is set. -/
structure Idle (list : List SlaveAddrEntry) (table : List (Option String)) : Prop where
  list : list = []
  table : ∀ slot ∈ table, slot = none

private theorem idle_boot (ipTableSz : Nat) :
    Idle (Globals.boot ipTableSz).slaveAddrList (Globals.boot ipTableSz).slaveIpAddressTable :=
  ⟨rfl, fun _ member => List.eq_of_mem_replicate member⟩

/-- What a loop does that starts with nothing registered: as long as no slave is resolved it
only writes `NULL`, and the memory of the first one that is decides. -/
private theorem create_loop_idle_iff (call : CreateCall) (entries : List MbParameterDescriptor)
    (i : Nat) (s : CreateState) (idle : Idle s.slaveAddrList s.ipTable) :
    ((createLoop call entries i s).2.slaveAddrList = [] ↔
      ∀ a ∈ (entries.map (·.mbSlaveAddr)).find? fun a => (answer call a).isSome,
        call.malloc a = false) ∧
    ((createLoop call entries i s).2.slaveAddrList = [] →
      ∀ slot ∈ (createLoop call entries i s).2.ipTable, slot = none) := by
  induction entries, i, s using create_loop_induction call with
  | done i s => exact ⟨iff_of_true idle.list (by simp), fun _ => idle.table⟩
  | registered d entries i s it found run ih => simp [CreateState.find, idle.list] at found
  | unresolved d entries i s slaveIp absent missed run ih =>
    rw [run, List.map_cons, List.find?_cons_of_neg (by simp [missed])]
    refine ih ⟨idle.list, fun slot member => ?_⟩
    rcases List.mem_or_eq_of_mem_set member with old | written
    · exact idle.table slot old
    · exact written
  | refused d entries i s ip absent resolves denied run =>
    rw [run, List.map_cons, List.find?_cons_of_pos (by simp [resolves])]
    exact ⟨iff_of_true idle.list (by simpa using denied), fun _ => idle.table⟩
  | registers d entries i s ip absent resolves allowed run ih =>
    obtain ⟨new, grown, _⟩ := create_loop_grows call entries (i + 1)
      (registerSlave call i d.mbSlaveAddr ip s)
    have registered : (createLoop call (d :: entries) i s).2.slaveAddrList ≠ [] := by
      rw [run, grown]
      simp [registerSlave]
    rw [List.map_cons, List.find?_cons_of_pos (by simp [resolves])]
    exact ⟨iff_of_false registered (by simp [allowed]), fun empty => absurd empty registered⟩

/-- A call made with nothing registered. -/
theorem create_slave_list_idle_iff (dict : ParameterDictionary) (call : CreateCall) (g : Globals)
    (idle : Idle g.slaveAddrList g.slaveIpAddressTable) :
    ((masterCreateSlaveList dict call g).2.slaveAddrList = [] ↔ RegistersNothing dict call) ∧
    ((masterCreateSlaveList dict call g).2.slaveAddrList = [] →
      ∀ slot ∈ (masterCreateSlaveList dict call g).2.ipTable, slot = none) := by
  by_cases empty : call.results = []
  · have unresolved : dict.slaveAddrs.find? (fun a => (answer call a).isSome) = none := by
      simp [answer, empty]
    simp only [masterCreateSlaveList, empty, if_true, RegistersNothing, unresolved]
    exact ⟨iff_of_true idle.list (by simp), fun _ => idle.table⟩
  · rw [masterCreateSlaveList, if_neg empty]
    exact create_loop_idle_iff call dict.entries 0 _ idle

private theorem create_slave_list_keeps (dict : ParameterDictionary) (call : CreateCall)
    (g : Globals) :
    g.slaveAddrList <:+ (masterCreateSlaveList dict call g).2.slaveAddrList := by
  by_cases empty : call.results = []
  · simp [masterCreateSlaveList, empty]
  · rw [masterCreateSlaveList, if_neg empty]
    obtain ⟨new, grown, _⟩ := create_loop_grows call dict.entries 0
      { slaveAddrList := g.slaveAddrList, ipTable := g.slaveIpAddressTable }
    exact ⟨new, grown.symm⟩

/-- After a history nothing is registered exactly when no call of it registered a slave, and
the table is then as it was at the start. -/
theorem after_calls_idle_iff (dict : ParameterDictionary) (ipTableSz : Nat)
    (calls : List CreateCall) :
    ((afterCalls dict ipTableSz calls).slaveAddrList = [] ↔
      ∀ call ∈ calls, RegistersNothing dict call) ∧
    ((afterCalls dict ipTableSz calls).slaveAddrList = [] →
      ∀ slot ∈ (afterCalls dict ipTableSz calls).slaveIpAddressTable, slot = none) := by
  induction calls using List.reverseRecOn with
  | nil => exact ⟨iff_of_true rfl (by simp), fun _ => (idle_boot ipTableSz).table⟩
  | append_singleton calls call ih =>
    simp only [afterCalls, List.foldl_append, List.foldl_cons, List.foldl_nil] at ih ⊢
    generalize calls.foldl _ (Globals.boot ipTableSz) = g at ih ⊢
    by_cases before : g.slaveAddrList = []
    · have here := create_slave_list_idle_iff dict call g ⟨before, ih.2 before⟩
      refine ⟨here.1.trans ?_, here.2⟩
      simp only [List.mem_append, List.mem_singleton, or_imp, forall_and, forall_eq]
      exact (and_iff_right (ih.1.mp before)).symm
    · have registered : (masterCreateSlaveList dict call g).2.slaveAddrList ≠ [] := fun empty =>
        before (List.suffix_nil.mp (empty ▸ create_slave_list_keeps dict call g))
      refine ⟨iff_of_false registered fun none => ?_, fun empty => absurd empty registered⟩
      exact before (ih.1.mpr fun call member => none call (List.mem_append_left _ member))

/-- After any history of calls the teardown is complete and safe exactly when no call of the
history registered a slave. -/
theorem teardown_after_calls_iff (dict : ParameterDictionary) (ipTableSz : Nat)
    (calls : List CreateCall) (heapCapsMalloc : Nat ↪ Ptr) :
    TearsDown heapCapsMalloc (afterCalls dict ipTableSz calls) ↔
      ∀ call ∈ calls, RegistersNothing dict call := by
  obtain ⟨registered, null⟩ := after_calls_idle_iff dict ipTableSz calls
  rw [tears_down_iff, ← registered]
  refine ⟨fun both => both.1, fun empty => ⟨empty, fun slot member => ?_⟩⟩
  exact null empty slot (List.dropWhile_subset _ member)

/-- One registered slave: its link is read after it was freed. -/
theorem one_slave_is_read_after_free :
    ¬ ∀ (dict : ParameterDictionary) (ipTableSz : Nat) (calls : List CreateCall)
      (heapCapsMalloc : Nat ↪ Ptr), dict.slaves.length ≤ 3 →
        TearsDown heapCapsMalloc (afterCalls dict ipTableSz calls) := by
  intro safe
  have torn := safe shipped 4 [⟨502, [recordOfSlave1], 4, .ipv4, fun _ => true⟩]
    (Function.Embedding.refl Nat) (by decide)
  exact absurd ((tears_down_iff _).mp torn).1 (by decide)

/-- Of two slaves found in the first call, the second keeps its slot behind a `NULL` one when
the next call resolves neither of them nor a third. -/
example : (afterCalls ⟨[voltage, { current with mbSlaveAddr := 2 },
      { current with mbSlaveAddr := 3 }], by decide⟩ 4
    [⟨502, [recordOfSlave1, recordOfSlave2], 4, .ipv4, fun _ => true⟩,
      ⟨1502, [recordOfSlave1], 4, .ipv4, fun _ => true⟩]).slaveIpAddressTable =
    [none, some "192.168.1.22", none, none] := by decide

end PowerMonitor.Teardown
