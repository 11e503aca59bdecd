import Mathlib.Logic.Function.Basic
import PowerMonitor.CursorTable
import PowerMonitor.FirstSight
import PowerMonitor.SlaveList

/-! One `master_create_slave_list` call as a pass over the slave addresses of the
dictionary: which slaves it registers, what it counts and what it writes in the table. The
loop is related to the enrolment pass and to the cursor table of the two general modules,
so that nothing later unfolds it again. -/
namespace PowerMonitor.RegistrationPass
open EspIdf Dictionary SlaveResolution SlaveList FirstSight CursorTable

variable {s s' : CreateState} {slaveAddr : UInt8} {it : SlaveAddrEntry}

/-- The slave addresses of the registered entries. -/
def addrs (list : List SlaveAddrEntry) : List UInt8 := list.map (·.slaveAddr)

@[simp] theorem addrs_nil : addrs [] = [] := rfl

@[simp] theorem addrs_cons (entry : SlaveAddrEntry) (list : List SlaveAddrEntry) :
    addrs (entry :: list) = entry.slaveAddr :: addrs list := rfl

@[simp] theorem addrs_append (first second : List SlaveAddrEntry) :
    addrs (first ++ second) = addrs first ++ addrs second := by simp [addrs]

/-- What the results of a call resolve a slave to. -/
def answer (call : CreateCall) : UInt8 → Option String :=
  resolved call.port call.addrType call.results

/-- The `ip_address` under which a slave is registered. -/
def heldIp (list : List SlaveAddrEntry) (slaveAddr : UInt8) : Option (Option String) :=
  (list.find? fun it => slaveAddr == it.slaveAddr).map (·.ipAddress)

theorem find_none_iff : s.find slaveAddr = none ↔ slaveAddr ∉ addrs s.slaveAddrList := by
  simp only [CreateState.find, addrs, List.find?_eq_none, beq_iff_eq, List.mem_map, not_exists,
    not_and]
  exact ⟨fun absent it member same => absent it member same.symm,
    fun absent it member same => absent it member same.symm⟩

theorem find_some_mem (found : s.find slaveAddr = some it) :
    it ∈ s.slaveAddrList ∧ it.slaveAddr = slaveAddr :=
  ⟨List.mem_of_find?_eq_some found, (by simpa using List.find?_some found : _ = _).symm⟩

private theorem held_ip_of_find (found : s.find slaveAddr = some it) :
    heldIp s.slaveAddrList slaveAddr = some it.ipAddress := by
  simpa [heldIp, CreateState.find] using congrArg (Option.map (·.ipAddress)) found

theorem held_ip_isSome_iff (list : List SlaveAddrEntry) (a : UInt8) :
    (heldIp list a).isSome ↔ a ∈ addrs list := by
  simp only [heldIp, Option.isSome_map, List.find?_isSome, beq_iff_eq, addrs, List.mem_map]
  exact exists_congr fun e => and_congr Iff.rfl eq_comm

private theorem held_ip_none (unknown : slaveAddr ∉ addrs s.slaveAddrList) :
    heldIp s.slaveAddrList slaveAddr = none := by
  simpa [heldIp, CreateState.find] using find_none_iff.mpr unknown

theorem mem_addrs_of_find (found : s.find slaveAddr = some it) :
    slaveAddr ∈ addrs s.slaveAddrList := by
  obtain ⟨member, rfl⟩ := find_some_mem found
  exact List.mem_map_of_mem member

/-- The state after a new slave was registered and its slot written. -/
def registerSlave (call : CreateCall) (i : Nat) (slaveAddr : UInt8) (ip : String)
    (s : CreateState) : CreateState where
  slaveAddrList := ⟨i, some ip, slaveAddr⟩ :: s.slaveAddrList
  ipTable := s.ipTable.set s.ipIndex (some ip)
  slaveIp := some ip
  ipIndex := if s.ipIndex < call.addrTableSize then s.ipIndex + 1 else s.ipIndex
  cidResolveCnt := s.cidResolveCnt + 1
  writes := s.ipIndex :: s.writes

/-- Everything one iteration can do: the slave is registered already, it is not resolved,
the memory for its entry is refused, or it is registered now. -/
theorem create_step_cases (call : CreateCall) (i : Nat) (d : MbParameterDescriptor)
    (s : CreateState) :
    (∃ it, s.find d.mbSlaveAddr = some it ∧ createStep call i d s =
      .ok { s.setSlot it.ipAddress with cidResolveCnt := s.cidResolveCnt + 1 }) ∨
    (s.find d.mbSlaveAddr = none ∧ answer call d.mbSlaveAddr = none ∧
      ∃ slaveIp, createStep call i d s = .ok ({ s with slaveIp }.setSlot none)) ∨
    (∃ ip, s.find d.mbSlaveAddr = none ∧ answer call d.mbSlaveAddr = some ip ∧
      call.malloc d.mbSlaveAddr = false ∧
      createStep call i d s = .error { s with slaveIp := some ip }) ∨
    (∃ ip, s.find d.mbSlaveAddr = none ∧ answer call d.mbSlaveAddr = some ip ∧
      call.malloc d.mbSlaveAddr = true ∧
      createStep call i d s = .ok (registerSlave call i d.mbSlaveAddr ip s)) := by
  cases found : s.find d.mbSlaveAddr with
  | some it => exact Or.inl ⟨it, rfl, by simp only [createStep, found]; rfl⟩
  | none =>
    rcases master_resolve_slave_cases call.port d.mbSlaveAddr call.results s.slaveIp
      call.addrType with ⟨ip, some, ok⟩ | ⟨none, failed⟩
    · cases granted : call.malloc d.mbSlaveAddr with
      | false =>
        refine Or.inr (Or.inr (Or.inl ⟨ip, rfl, some, rfl, ?_⟩))
        simp [createStep, found, ok, granted]
      | true =>
        exact Or.inr (Or.inr (Or.inr ⟨ip, rfl, some, rfl, by
          simp [createStep, found, ok, granted, registerSlave, CreateState.setSlot]⟩))
    · exact Or.inr (Or.inl ⟨rfl, none, _, by simp only [createStep, found]; rw [if_pos failed]⟩)

/-- The induction of the loop, by what its next iteration does. -/
theorem create_loop_induction (call : CreateCall)
    {motive : List MbParameterDescriptor → Nat → CreateState → Prop}
    (done : ∀ i s, motive [] i s)
    (registered : ∀ d entries i s it, s.find d.mbSlaveAddr = some it →
      createLoop call (d :: entries) i s = createLoop call entries (i + 1)
        { s.setSlot it.ipAddress with cidResolveCnt := s.cidResolveCnt + 1 } →
      motive entries (i + 1)
        { s.setSlot it.ipAddress with cidResolveCnt := s.cidResolveCnt + 1 } →
      motive (d :: entries) i s)
    (unresolved : ∀ d entries i s slaveIp, s.find d.mbSlaveAddr = none →
      answer call d.mbSlaveAddr = none →
      createLoop call (d :: entries) i s =
        createLoop call entries (i + 1) ({ s with slaveIp }.setSlot none) →
      motive entries (i + 1) ({ s with slaveIp }.setSlot none) → motive (d :: entries) i s)
    (refused : ∀ d entries i s ip, s.find d.mbSlaveAddr = none →
      answer call d.mbSlaveAddr = some ip → call.malloc d.mbSlaveAddr = false →
      createLoop call (d :: entries) i s = (espErrNoMem, { s with slaveIp := some ip }) →
      motive (d :: entries) i s)
    (registers : ∀ d entries i s ip, s.find d.mbSlaveAddr = none →
      answer call d.mbSlaveAddr = some ip → call.malloc d.mbSlaveAddr = true →
      createLoop call (d :: entries) i s =
        createLoop call entries (i + 1) (registerSlave call i d.mbSlaveAddr ip s) →
      motive entries (i + 1) (registerSlave call i d.mbSlaveAddr ip s) →
      motive (d :: entries) i s)
    (entries : List MbParameterDescriptor) (i : Nat) (s : CreateState) : motive entries i s := by
  induction entries generalizing i s with
  | nil => exact done i s
  | cons d entries ih =>
    rcases create_step_cases call i d s with ⟨it, found, step⟩ | ⟨absent, missed, slaveIp, step⟩ |
      ⟨ip, absent, resolves, denied, step⟩ | ⟨ip, absent, resolves, allowed, step⟩
    · exact registered d entries i s it found (by simp only [createLoop, step]) (ih _ _)
    · exact unresolved d entries i s slaveIp absent missed (by simp only [createLoop, step])
        (ih _ _)
    · exact refused d entries i s ip absent resolves denied (by simp only [createLoop, step])
    · exact registers d entries i s ip absent resolves allowed (by simp only [createLoop, step])
        (ih _ _)

/-- The writes of a pass, as operations on a cursor table. -/
def slotOps (held : UInt8 → Option (Option String)) (answer : UInt8 → Option String) :
    List UInt8 → List (Op (Option String))
  | [] => []
  | key :: keys =>
    match held key, answer key with
    | some ip, _ => .hold ip :: slotOps held answer keys
    | none, none => .hold none :: slotOps held answer keys
    | none, some ip =>
      .push (some ip) :: slotOps (Function.update held key (some (some ip))) answer keys

/-- What a pass over the slave addresses `keys` leaves when every request for memory is
granted. The table is described as long as the cursor stays inside it. -/
structure Pass (call : CreateCall) (keys : List UInt8) (s s' : CreateState) : Prop where
  enrolled : ∃ new, s'.slaveAddrList = new ++ s.slaveAddrList ∧
    new.map (fun e => (e.slaveAddr, e.ipAddress)) =
      ((fresh (addrs s.slaveAddrList) (answer call) keys).map fun a => (a, answer call a)).reverse
  counted : s'.cidResolveCnt =
    s.cidResolveCnt + keys.countP (held (addrs s.slaveAddrList) (answer call))
  slots : s.ipIndex + (fresh (addrs s.slaveAddrList) (answer call) keys).length ≤
      call.addrTableSize →
    (⟨s'.ipTable, s'.ipIndex⟩ : Cursor (Option String)) =
      run (slotOps (heldIp s.slaveAddrList) (answer call) keys) ⟨s.ipTable, s.ipIndex⟩
  written : ∀ w ∈ s'.writes, w ∈ s.writes ∨ w ≤ s'.ipIndex
  advanced : s.ipIndex ≤ s'.ipIndex

private theorem held_ip_register (i : Nat) (ip : Option String) (list : List SlaveAddrEntry) :
    heldIp (⟨i, ip, slaveAddr⟩ :: list) =
      Function.update (heldIp list) slaveAddr (some ip) := by
  funext other
  by_cases same : other = slaveAddr
  · subst same
    simp [heldIp]
  · simp [heldIp, same]

/-- The write under the cursor, which the rest of a pass only moves on. -/
private theorem written_under_cursor {writes rest : List Nat} {cursor last : Nat}
    (later : ∀ w ∈ rest, w ∈ cursor :: writes ∨ w ≤ last) (advanced : cursor ≤ last) :
    ∀ w ∈ rest, w ∈ writes ∨ w ≤ last := by
  intro w member
  rcases later w member with here | inside
  · rcases List.mem_cons.mp here with rfl | earlier
    · exact Or.inr advanced
    · exact Or.inl earlier
  · exact Or.inr inside

theorem Pass.nil (call : CreateCall) (s : CreateState) : Pass call [] s s where
  enrolled := ⟨[], rfl, rfl⟩
  counted := rfl
  slots := fun _ => rfl
  written := fun _ member => Or.inl member
  advanced := Nat.le_refl _

/-- A slave that is registered already is counted and its slot is written in place. -/
theorem Pass.cons_registered {call : CreateCall} (found : s.find slaveAddr = some it)
    (rest : Pass call keys
      { s.setSlot it.ipAddress with cidResolveCnt := s.cidResolveCnt + 1 } s') :
    Pass call (slaveAddr :: keys) s s' := by
  have known : slaveAddr ∈ addrs s.slaveAddrList := mem_addrs_of_find found
  have same : fresh (addrs s.slaveAddrList) (answer call) (slaveAddr :: keys) =
      fresh (addrs s.slaveAddrList) (answer call) keys := by simp [fresh, known]
  have slot := held_ip_of_find found
  refine ⟨?_, ?_, ?_, written_under_cursor rest.written rest.advanced, rest.advanced⟩
  · rw [same]; exact rest.enrolled
  · have counted := rest.counted
    simp only [CreateState.setSlot_slaveAddrList] at counted
    rw [counted, List.countP_cons_of_pos (by simp [known])]
    omega
  · intro room
    rw [same] at room
    simpa [slotOps, slot, Op.apply] using rest.slots room

/-- A slave that is not resolved clears the slot under the cursor and is not counted. -/
theorem Pass.cons_unresolved {call : CreateCall} (absent : s.find slaveAddr = none)
    (missed : answer call slaveAddr = none)
    (rest : Pass call keys ({ s with slaveIp }.setSlot none) s') :
    Pass call (slaveAddr :: keys) s s' := by
  have unknown : slaveAddr ∉ addrs s.slaveAddrList := find_none_iff.mp absent
  have same : fresh (addrs s.slaveAddrList) (answer call) (slaveAddr :: keys) =
      fresh (addrs s.slaveAddrList) (answer call) keys := by simp [fresh, missed]
  have slot := held_ip_none unknown
  refine ⟨?_, ?_, ?_, written_under_cursor rest.written rest.advanced, rest.advanced⟩
  · rw [same]; exact rest.enrolled
  · rw [rest.counted, List.countP_cons_of_neg (by simp [unknown, missed])]
    simp
  · intro room
    rw [same] at room
    simpa [slotOps, slot, missed, Op.apply] using rest.slots room

/-- A slave that is resolved for the first time is registered, counted and given the slot
under the cursor, which moves on. -/
theorem Pass.cons_registers {call : CreateCall} {i : Nat} (absent : s.find slaveAddr = none)
    (resolves : answer call slaveAddr = some ip)
    (rest : Pass call keys (registerSlave call i slaveAddr ip s) s') :
    Pass call (slaveAddr :: keys) s s' := by
  have unknown : slaveAddr ∉ addrs s.slaveAddrList := find_none_iff.mp absent
  have grown : fresh (addrs s.slaveAddrList) (answer call) (slaveAddr :: keys) =
      slaveAddr :: fresh (addrs (registerSlave call i slaveAddr ip s).slaveAddrList)
        (answer call) keys := by
    simp [fresh, unknown, resolves, registerSlave]
  have slot := held_ip_none unknown
  have moved : s.ipIndex ≤ (registerSlave call i slaveAddr ip s).ipIndex := by
    simp only [registerSlave]; split <;> omega
  have advanced := Nat.le_trans moved rest.advanced
  refine ⟨?_, ?_, ?_, written_under_cursor rest.written advanced, advanced⟩
  · obtain ⟨new, list, pairs⟩ := rest.enrolled
    refine ⟨new ++ [⟨i, some ip, slaveAddr⟩], by simp [list, registerSlave], ?_⟩
    rw [grown]
    simp [pairs, resolves]
  · have same : held (addrs (registerSlave call i slaveAddr ip s).slaveAddrList) (answer call) =
        held (addrs s.slaveAddrList) (answer call) := held_cons (by simp [resolves])
    rw [rest.counted, same, List.countP_cons_of_pos (by simp [resolves])]
    simp only [registerSlave]
    omega
  · intro room
    rw [grown] at room
    simp only [List.length_cons] at room
    have below : s.ipIndex < call.addrTableSize := by omega
    have index : (registerSlave call i slaveAddr ip s).ipIndex = s.ipIndex + 1 := by
      simp [registerSlave, below]
    rw [rest.slots (by rw [index]; omega)]
    simp [slotOps, slot, resolves, Op.apply, registerSlave, below, held_ip_register]

/-- A loop whose requests for memory are granted is one pass and returns its count. -/
theorem create_loop_pass (call : CreateCall) (entries : List MbParameterDescriptor) (i : Nat)
    (s : CreateState)
    (granted : ∀ a ∈ fresh (addrs s.slaveAddrList) (answer call) (entries.map (·.mbSlaveAddr)),
      call.malloc a = true) :
    ∃ s', createLoop call entries i s = ((s'.cidResolveCnt : Int), s') ∧
      Pass call (entries.map (·.mbSlaveAddr)) s s' := by
  induction entries, i, s using create_loop_induction call with
  | done i s => exact ⟨s, rfl, Pass.nil call s⟩
  | registered d entries i s it found run ih =>
    have known := mem_addrs_of_find found
    obtain ⟨s', rest, pass⟩ := ih (by simpa [fresh, known] using granted)
    exact ⟨s', run.trans rest, Pass.cons_registered found pass⟩
  | unresolved d entries i s slaveIp absent missed run ih =>
    obtain ⟨s', rest, pass⟩ := ih (by simpa [fresh, missed] using granted)
    exact ⟨s', run.trans rest, Pass.cons_unresolved absent missed pass⟩
  | refused d entries i s ip absent resolves denied run =>
    have unknown : d.mbSlaveAddr ∉ addrs s.slaveAddrList := find_none_iff.mp absent
    have allowed := granted d.mbSlaveAddr (by simp [fresh, unknown, resolves])
    rw [denied] at allowed
    cases allowed
  | registers d entries i s ip absent resolves allowed run ih =>
    have unknown : d.mbSlaveAddr ∉ addrs s.slaveAddrList := find_none_iff.mp absent
    simp only [List.map_cons, fresh, unknown, resolves, reduceCtorEq, or_self, ↓reduceIte,
      List.mem_cons, forall_eq_or_imp] at granted
    obtain ⟨s', rest, pass⟩ := ih granted.2
    exact ⟨s', run.trans rest, Pass.cons_registers absent resolves pass⟩

/-- A refused request ends the loop with `ESP_ERR_NO_MEM`: the list only grew, and the slave
whose entry was refused is not in it. -/
theorem create_loop_refused (call : CreateCall) (entries : List MbParameterDescriptor) (i : Nat)
    (s : CreateState)
    (refused : ∃ a ∈ fresh (addrs s.slaveAddrList) (answer call) (entries.map (·.mbSlaveAddr)),
      call.malloc a = false) :
    ∃ s', createLoop call entries i s = (espErrNoMem, s') ∧
      ∃ a ∈ entries.map (·.mbSlaveAddr), a ∉ addrs s'.slaveAddrList := by
  induction entries, i, s using create_loop_induction call with
  | done i s =>
    obtain ⟨a, member, _⟩ := refused
    cases member
  | registered d entries i s it found run ih =>
    have known := mem_addrs_of_find found
    obtain ⟨s', rest, a, member, missing⟩ := ih (by simpa [fresh, known] using refused)
    exact ⟨s', run.trans rest, a, List.mem_cons_of_mem _ member, missing⟩
  | unresolved d entries i s slaveIp absent missed run ih =>
    obtain ⟨s', rest, a, member, missing⟩ := ih (by simpa [fresh, missed] using refused)
    exact ⟨s', run.trans rest, a, List.mem_cons_of_mem _ member, missing⟩
  | refused d entries i s ip absent resolves denied run =>
    exact ⟨_, run, d.mbSlaveAddr, List.mem_cons_self, find_none_iff.mp absent⟩
  | registers d entries i s ip absent resolves allowed run ih =>
    have unknown : d.mbSlaveAddr ∉ addrs s.slaveAddrList := find_none_iff.mp absent
    simp only [List.map_cons, fresh, unknown, resolves, reduceCtorEq, or_self, ↓reduceIte,
      List.mem_cons, exists_eq_or_imp, allowed, Bool.true_eq_false, false_or] at refused
    obtain ⟨s', rest, a, member, missing⟩ := ih refused
    exact ⟨s', run.trans rest, a, List.mem_cons_of_mem _ member, missing⟩

/-- Whatever happens in the loop, the list keeps its entries, and every new entry holds the
address its slave was resolved to. -/
theorem create_loop_grows (call : CreateCall) (entries : List MbParameterDescriptor) (i : Nat)
    (s : CreateState) :
    ∃ new, (createLoop call entries i s).2.slaveAddrList = new ++ s.slaveAddrList ∧
      ∀ e ∈ new, e.slaveAddr ∈ entries.map (·.mbSlaveAddr) ∧ (answer call e.slaveAddr).isSome ∧
        e.ipAddress = answer call e.slaveAddr := by
  induction entries, i, s using create_loop_induction call with
  | done i s => exact ⟨[], rfl, fun e member => nomatch member⟩
  | registered d entries i s it found run ih =>
    obtain ⟨new, list, sound⟩ := ih
    refine ⟨new, by rw [run]; exact list, fun e member => ?_⟩
    exact ⟨List.mem_cons_of_mem _ (sound e member).1, (sound e member).2⟩
  | unresolved d entries i s slaveIp absent missed run ih =>
    obtain ⟨new, list, sound⟩ := ih
    refine ⟨new, by rw [run]; exact list, fun e member => ?_⟩
    exact ⟨List.mem_cons_of_mem _ (sound e member).1, (sound e member).2⟩
  | refused d entries i s ip absent resolves denied run =>
    exact ⟨[], by rw [run, List.nil_append], fun e member => nomatch member⟩
  | registers d entries i s ip absent resolves allowed run ih =>
    obtain ⟨new, list, sound⟩ := ih
    refine ⟨new ++ [⟨i, some ip, d.mbSlaveAddr⟩], ?_, fun e member => ?_⟩
    · simpa [run, registerSlave] using list
    · rcases List.mem_append.mp member with later | here
      · exact ⟨List.mem_cons_of_mem _ (sound e later).1, (sound e later).2⟩
      · rw [List.mem_singleton.mp here]
        exact ⟨List.mem_cons_self, by simp [resolves], resolves.symm⟩

/-- The slaves registered after a pass, latest first. -/
theorem Pass.addrs_eq {call : CreateCall} (pass : Pass call keys s s') :
    addrs s'.slaveAddrList =
      (fresh (addrs s.slaveAddrList) (answer call) keys).reverse ++ addrs s.slaveAddrList := by
  obtain ⟨new, list, pairs⟩ := pass.enrolled
  have names := congrArg (List.map Prod.fst) pairs
  simp only [List.map_map, List.map_reverse, Function.comp_def, List.map_id'] at names
  rw [list, addrs_append]
  congr 1

theorem Pass.mem_addrs {call : CreateCall} (pass : Pass call keys s s') (a : UInt8) :
    a ∈ addrs s'.slaveAddrList ↔
      a ∈ addrs s.slaveAddrList ∨ a ∈ keys ∧ (answer call a).isSome := by
  rw [pass.addrs_eq, List.mem_append, List.mem_reverse, mem_fresh]
  by_cases known : a ∈ addrs s.slaveAddrList <;> simp [known]

/-- The pushed values are the addresses of the slaves the pass registers, in order. -/
theorem pushed_slot_ops (known : List UInt8) (heldBy : UInt8 → Option (Option String))
    (answers : UInt8 → Option String) (keys : List UInt8)
    (same : ∀ a, (heldBy a).isSome ↔ a ∈ known) :
    pushed (slotOps heldBy answers keys) = (fresh known answers keys).map answers := by
  induction keys generalizing known heldBy with
  | nil => rfl
  | cons key keys ih =>
    cases knownIp : heldBy key with
    | some ip =>
      have member : key ∈ known := (same key).mp (by simp [knownIp])
      simpa [slotOps, fresh, knownIp, member] using ih known heldBy same
    | none =>
      have unknown : key ∉ known := fun member => by
        have some := (same key).mpr member
        simp [knownIp] at some
      cases resolves : answers key with
      | none => simpa [slotOps, fresh, knownIp, resolves] using ih known heldBy same
      | some ip =>
        have grown : ∀ a, (Function.update heldBy key (some (some ip)) a).isSome ↔
            a ∈ key :: known := by
          intro a
          by_cases eq : a = key
          · subst eq; simp
          · simp [eq, same a]
        simpa [slotOps, fresh, knownIp, resolves, unknown] using ih (key :: known) _ grown

/-- The operation of a dictionary entry, given the slave addresses before it. -/
def lastOp (heldBy : UInt8 → Option (Option String)) (answers : UInt8 → Option String)
    (before : List UInt8) (key : UInt8) : Op (Option String) :=
  match heldBy key, answers key with
  | some ip, _ => .hold ip
  | none, none => .hold none
  | none, some ip => if key ∈ before then .hold (some ip) else .push (some ip)

/-- An entry that registers no slave does not change what a later one does. -/
private theorem last_op_cons_idle {heldBy : UInt8 → Option (Option String)}
    {answers : UInt8 → Option String} {first : UInt8}
    (idle : (heldBy first).isSome ∨ answers first = none) (keys : List UInt8) (key : UInt8) :
    lastOp heldBy answers (first :: keys) key = lastOp heldBy answers keys key := by
  by_cases same : key = first
  · subst same
    rcases idle with known | unanswered
    · obtain ⟨ip, held⟩ := Option.isSome_iff_exists.mp known
      simp [lastOp, held]
    · cases held : heldBy key <;> simp [lastOp, held, unanswered]
  · simp [lastOp, same]

/-- A slave registered on the way is held from there on. -/
private theorem last_op_cons_registered {heldBy : UInt8 → Option (Option String)}
    {answers : UInt8 → Option String} {first : UInt8} {ip : String} (unknown : heldBy first = none)
    (answered : answers first = some ip) (keys : List UInt8) (key : UInt8) :
    lastOp heldBy answers (first :: keys) key =
      lastOp (Function.update heldBy first (some (some ip))) answers keys key := by
  by_cases same : key = first
  · subst same
    simp [lastOp, unknown, answered]
  · simp [lastOp, same]

theorem slot_ops_append (heldBy : UInt8 → Option (Option String))
    (answers : UInt8 → Option String) (keys : List UInt8) (key : UInt8) :
    slotOps heldBy answers (keys ++ [key]) =
      slotOps heldBy answers keys ++ [lastOp heldBy answers keys key] := by
  induction keys generalizing heldBy with
  | nil =>
    cases knownIp : heldBy key <;> cases resolves : answers key <;>
      simp [slotOps, lastOp, knownIp, resolves]
  | cons first keys ih =>
    cases firstIp : heldBy first with
    | some ip =>
      rw [last_op_cons_idle (Or.inl (by simp [firstIp]))]
      simp only [List.cons_append, slotOps, firstIp, ih]
    | none =>
      cases firstAnswer : answers first with
      | none =>
        rw [last_op_cons_idle (Or.inr firstAnswer)]
        simp only [List.cons_append, slotOps, firstIp, firstAnswer, ih]
      | some ip =>
        rw [last_op_cons_registered firstIp firstAnswer]
        simp only [List.cons_append, slotOps, firstIp, firstAnswer, ih]

end PowerMonitor.RegistrationPass
