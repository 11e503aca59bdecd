import PowerMonitor.Binary32
import PowerMonitor.ByteMemory
import PowerMonitor.Dictionary

/-! The master's polling task, `master_read` (`master/main/modbus_tasks.c`), over any answers
of the Modbus stack. The three calls of a visit share `err`, which also guards the loop, and
`param_descriptor` keeps the entry of the last visit that got one.

The parameter structures are blocks of bytes: `input_reg_params` and `holding_reg_params` are
eight consecutive `float`s, `coil_reg_params` is three consecutive bytes. -/
namespace PowerMonitor.MasterRead
open EspIdf Dictionary ByteMemory

/-- The parameter structures. -/
inductive Area where
  | holding
  | input
  | coil
  | discrete
  deriving DecidableEq, Repr

/-- The size of a structure; that of `discrete_reg_params` is not known, and no entry of the
dictionary has a field in it. -/
def Area.size : Area → Option Nat
  | .holding => some 32
  | .input => some 32
  | .coil => some 3
  | .discrete => none

/-- The bytes of the structures, little endian. -/
abbrev Store : Type := Memory Area

/-- The four bytes of a `float` variable. -/
abbrev FloatBytes : Type := Bytes 4

/-- The bytes of a `float`, lowest first. -/
def floatBytes (w : UInt32) : FloatBytes := fun i => (w >>> (8 * i.val).toUInt32).toUInt8

theorem float_bytes_toNat (w : UInt32) (i : Fin 4) :
    (floatBytes w i).toNat = w.toNat / 2 ^ (8 * i.val) % 2 ^ 8 := by
  have shift : 8 * i.val % 32 = 8 * i.val := Nat.mod_eq_of_lt (by omega)
  simp [floatBytes, Nat.shiftRight_eq_div_pow, shift]

/-- The bytes of a `float` determine its word. -/
theorem float_bytes_injective (same : floatBytes w = floatBytes w') : w = w' := by
  have bytes (i : Fin 4) :
      w.toNat / 2 ^ (8 * i.val) % 2 ^ 8 = w'.toNat / 2 ^ (8 * i.val) % 2 ^ 8 := by
    rw [← float_bytes_toNat, same, float_bytes_toNat]
  have byte0 : w.toNat % 2 ^ 8 = w'.toNat % 2 ^ 8 := by simpa using bytes 0
  have byte1 : w.toNat / 2 ^ 8 % 2 ^ 8 = w'.toNat / 2 ^ 8 % 2 ^ 8 := bytes 1
  have byte2 : w.toNat / 2 ^ 16 % 2 ^ 8 = w'.toNat / 2 ^ 16 % 2 ^ 8 := bytes 2
  have byte3 : w.toNat / 2 ^ 24 % 2 ^ 8 = w'.toNat / 2 ^ 24 % 2 ^ 8 := bytes 3
  have bound := w.toNat_lt
  have bound' := w'.toNat_lt
  apply UInt32.toNat_inj.mp
  omega

/-- `master_get_param_data`: the structure and the offset in it, or `NULL`. -/
def masterGetParamData (d : MbParameterDescriptor) : Option (Area × Nat) :=
  if d.paramOffset ≠ 0 then
    match d.mbParamType with
    | .holding => some (.holding, d.paramOffset.toNat - 1)
    | .input => some (.input, d.paramOffset.toNat - 1)
    | .coil => some (.coil, d.paramOffset.toNat - 1)
    | .discrete => some (.discrete, d.paramOffset.toNat - 1)
    | _ => none
  else none

/-- An entry of `device_parameters`, which is all that `param_descriptor` can point to. -/
abbrev Entry : Type := { d : MbParameterDescriptor // d ∈ deviceParameters }

/-- The characteristics the task visits, `0` to `MASTER_MAX_CIDS - 1`. -/
abbrev Cid : Type := Fin 7

/-- The numerals below the number of entries are positions. -/
instance cidsExist : NeZero 7 := ⟨by decide⟩

/-- The entry `mbc_master_get_cid_info` delivers for a characteristic. -/
def entryOf (cid : Cid) : Entry := ⟨deviceParameters.get cid, List.get_mem _ _⟩

private theorem param_data_exists (d : Entry) : (masterGetParamData d.val).isSome := by
  have every : ∀ d ∈ deviceParameters, (masterGetParamData d).isSome := by decide
  exact every d.val d.property

/-- `temp_data_ptr`; the assertion on it holds of every entry. -/
def Entry.data (d : Entry) : Area × Nat :=
  (masterGetParamData d.val).get (param_data_exists d)

/-- What the Modbus stack answers in one visit. -/
structure Answers where
  /-- The code of `mbc_master_get_cid_info`, which delivers the entry with `ESP_OK` only. -/
  info : EspErr
  /-- The code of the `mbc_master_get_parameter` or `mbc_master_set_parameter` call. -/
  transfer : EspErr
  /-- The bytes a successful get delivers. -/
  received : FloatBytes

/-- The variables of the task and the structures it fills. -/
structure State where
  err : EspErr := espOk
  value : FloatBytes := floatBytes (Binary32.ofNat 0)
  /-- `duty` only takes small whole values, which a `float` holds exactly. -/
  duty : Nat := 20
  paramDescriptor : Option Entry := none
  store : Store
  /-- The entry of the get or set request of the latest visit. -/
  requested : Option Entry := none
  /-- The entries of all requests so far, latest first. -/
  asked : List Entry := []
  /-- The four-byte stores of the latest visit, latest first. -/
  stored : List (Area × Nat) := []
  /-- The text the latest visit logged for a coil entry. -/
  shown : Option (Entry × String) := none
  /-- For each entry, the last bytes whose write the slave acknowledged. -/
  acknowledged : Entry → Option FloatBytes := fun _ => none

/-- `threshold`. -/
def threshold : FloatBytes := floatBytes (Binary32.ofNat 750)

/-- `duty += 2; if (duty > 40) duty = 20;`. -/
def nextDuty (duty : Nat) : Nat :=
  let duty := duty + 2
  if duty > 40 then 20 else duty

/-- The number of bytes the library writes in the caller's buffer for an entry. -/
def transferSize (d : Entry) : Nat :=
  match d.val.paramType with
  | .u8 => 1
  | .u16 => 2
  | .u32 => 4
  | .float => 4
  | .ascii => d.val.paramSize

/-- `rw_str`: the log of a coil entry tests the mask of its options. -/
def rwStr (d : Entry) (state : UInt16) : String :=
  if state.toNat &&& d.val.paramOpts.opt1.toNat ≠ 0 then "ON" else "OFF"

namespace State

/-- `*(float *)temp_data_ptr = bytes`. -/
def storeFloat (s : State) (d : Entry) (bytes : FloatBytes) : State :=
  { s with
    store := ByteMemory.store s.store d.data.1 d.data.2 bytes
    stored := d.data :: s.stored }

/-- `err = mbc_master_get_parameter(cid, param_key, &value, &type)`. -/
def getParameter (s : State) (d : Entry) (a : Answers) : State :=
  { s with
    err := a.transfer
    value := if a.transfer = espOk then overlay s.value a.received (transferSize d) else s.value
    requested := some d
    asked := d :: s.asked }

/-- `err = mbc_master_set_parameter(cid, param_key, bytes, &type)`. -/
def setParameter (s : State) (d : Entry) (a : Answers) (bytes : FloatBytes) : State :=
  { s with
    err := a.transfer
    requested := some d
    asked := d :: s.asked
    acknowledged := fun other =>
      if other = d ∧ a.transfer = espOk then some bytes else s.acknowledged other }

/-- The branch for input entries. -/
def readEntry (s : State) (d : Entry) (a : Answers) : State :=
  let s := s.getParameter d a
  if s.err = espOk then s.storeFloat d s.value else s

/-- `*(uint16_t *)temp_data_ptr`. -/
def loadU16 (s : State) (d : Entry) : UInt16 :=
  let bytes : Bytes 2 := load s.store d.data.1 d.data.2
  (bytes 1).toUInt16 <<< 8 ||| (bytes 0).toUInt16

/-- The branch for coil entries: that for input entries with another log. -/
def readCoil (s : State) (d : Entry) (a : Answers) : State :=
  let s := s.readEntry d a
  if s.err = espOk then { s with shown := some (d, rwStr d (s.loadU16 d)) } else s

/-- The branch for holding entries. -/
def writeEntry (s : State) (d : Entry) (a : Answers) : State :=
  let s :=
    if d.val.cid = cidPowerThreshold then
      (s.storeFloat d threshold).setParameter d a threshold
    else s
  if d.val.cid = cidDutyCycle then
    let s := { s with duty := nextDuty s.duty }
    (s.storeFloat d (floatBytes (Binary32.ofNat s.duty))).setParameter d a
      (floatBytes (Binary32.ofNat s.duty))
  else s

/-- The branch of the body of the loop for an entry's register type. -/
def pollEntry (s : State) (d : Entry) (a : Answers) : State :=
  match d.val.mbParamType with
  | .input => s.readEntry d a
  | .holding => s.writeEntry d a
  | .coil => s.readCoil d a
  | _ => s

/-- The body of the `for` loop. -/
def visit (s : State) (cid : Cid) (a : Answers) : State :=
  let s := { s with requested := none, stored := [], shown := none }
  let s := { s with
    err := a.info
    paramDescriptor := if a.info = espOk then some (entryOf cid) else s.paramDescriptor }
  if s.err ≠ espErrNotFound then
    match s.paramDescriptor with
    | none => s
    | some d => s.pollEntry d a
  else s

end State

/-- A visit of the run, with the states around it. -/
structure Visit where
  cid : Cid
  answers : Answers
  before : State
  after : State

/-- The `for` loop over the remaining characteristics: the visits it makes and its last state. -/
def pollLoop (answers : Cid → Answers) : List Cid → State → List Visit × State
  | [], s => ([], s)
  | cid :: cids, s =>
    if s.err ≠ espErrNotFound then
      let after := s.visit cid (answers cid)
      let (visits, last) := pollLoop answers cids after
      (⟨cid, answers cid, s, after⟩ :: visits, last)
    else ([], s)

/-- One pass of the outer loop. -/
def poll (answers : Cid → Answers) (s : State) : List Visit × State :=
  pollLoop answers (List.finRange 7) s

/-- The state before a pass. -/
def statesFrom (answers : Nat → Cid → Answers) (s : State) : Nat → State
  | 0 => s
  | pass + 1 => (poll (answers pass) (statesFrom answers s pass)).2

/-- The visits of a pass of `master_read`, which starts with any bytes in the structures. -/
def visits (answers : Nat → Cid → Answers) (store : Store) (pass : Nat) : List Visit :=
  (poll (answers pass) (statesFrom answers { store } pass)).1

end PowerMonitor.MasterRead
