import PowerMonitor.DelayedCopy
import PowerMonitor.Motor
import PowerMonitor.RegisterMap

/-! The two firmwares together: `master_read` on the master, the Modbus connection, and the
RTU's registers with the tasks `readINA` and `runMotor`, in any order of their steps. A request
of the master reaches the RTU or not, and what the RTU answers reaches the master or not; the
RTU carries out what reached it in one step. -/
namespace PowerMonitor.ControlLoop
open EspIdf Dictionary ByteMemory MasterRead MasterVisit FailedTransfers ModbusStack RegisterMap

/-- The word of the `float` with these bytes. -/
def floatWord (bytes : FloatBytes) : UInt32 :=
  UInt32.ofNat ((List.ofFn bytes).foldr (fun b n => b.toNat + 256 * n) 0)

/-- The RTU, once its Modbus stack runs. -/
structure Rtu where
  store : Store
  build : Build
  hw : Motor.Hardware
  /-- `runMotor` found `coils_port0` set and is about to read `holding_data1`. -/
  driving : Bool := false

/-- The structures as `setup_reg_data` leaves them; what it does not set was zero before. -/
def setupStore : Store := fun area k => if area = .coil ∧ k < 2 then 0x01 else 0

namespace Rtu

/-- What `runMotor` sees. -/
def motor (r : Rtu) : Motor.State :=
  { regs := ⟨floatWord (holdingData1 r.store), r.store .coil 0⟩, hw := r.hw, driving := r.driving }

/-- `runMotor` up to its next read of a register. -/
def runMotor (r : Rtu) : Rtu :=
  let after := Motor.runMotor r.motor
  { r with hw := after.hw, driving := after.driving }

/-- `input_reg_params.input_data<k> = word` in `readINA`. -/
def readINA (r : Rtu) (k : Fin 3) (word : UInt32) : Rtu :=
  { r with store := ByteMemory.store r.store .input (4 * k) (floatBytes word) }

/-- Where the stack finds what the request for an entry names. -/
def locateEntry (r : Rtu) (d : Entry) : Option (Area × Nat) :=
  r.build.stack.locate (slaveInitAreas r.build.layout) d.val.mbParamType
    d.val.mbRegStart.toNat d.val.mbSize.toNat

/-- The stack carries out a request to set an entry. -/
def setEntry (r : Rtu) (d : Entry) (bytes : FloatBytes) : Rtu :=
  match r.locateEntry d with
  | some place => { r with store := r.build.stack.write r.store place bytes }
  | none => r

/-- The bytes the answer for an entry has: two for a register, and one for eight coils. -/
def answerSize (d : Entry) : Nat :=
  match d.val.mbParamType with
  | .holding | .input => 2 * d.val.mbSize.toNat
  | _ => (d.val.mbSize.toNat + 7) / 8

/-- What the master's stack then has in its buffer: the answer, with other bytes behind it. -/
def getEntry (r : Rtu) (d : Entry) (others : FloatBytes) : FloatBytes :=
  match r.locateEntry d with
  | some place => r.build.stack.read r.store place (answerSize d) others
  | none => others

end Rtu

/-- A code of the Modbus stack other than `ESP_OK`. -/
abbrev Failure : Type := { code : EspErr // code ≠ espOk }

theorem timeout_fails : espErrTimeout ≠ espOk := by decide

/-- The code of a request without an answer. -/
def timeout : Failure := ⟨espErrTimeout, timeout_fails⟩

/-- What becomes of the request of a visit. -/
inductive Fate where
  /-- The RTU carries it out and the master gets the answer. -/
  | answered (others : FloatBytes)
  /-- The RTU carries it out and the answer is lost. -/
  | unanswered (failure : Failure)
  /-- It does not reach the RTU. -/
  | lost (failure : Failure)

namespace Fate

def code : Fate → EspErr
  | answered _ => espOk
  | unanswered failure => failure.val
  | lost failure => failure.val

/-- The request reached the RTU. -/
def served : Fate → Bool
  | answered _ => true
  | unanswered _ => true
  | lost _ => false

end Fate

/-- What decides a visit of the master. -/
structure Turn where
  /-- The code of `mbc_master_get_cid_info`. -/
  info : EspErr
  fate : Fate

/-- The state of both firmwares. -/
structure System where
  master : MasterRead.State
  /-- The characteristic the `for` loop of `master_read` is at. -/
  cid : Cid := 0
  rtu : Rtu

namespace System

/-- The entry the next visit of the master requests. -/
def requests (s : System) (turn : Turn) : Option Entry :=
  used s.master s.cid ⟨turn.info, turn.fate.code, fun _ => 0⟩

/-- The bytes a get of the next visit delivers; they matter in an answered one only. -/
def received (s : System) (turn : Turn) : FloatBytes :=
  match turn.fate, s.requests turn with
  | .answered others, some d => s.rtu.getEntry d others
  | _, _ => fun _ => 0

/-- What the Modbus stack tells the master in its next visit. -/
def answers (s : System) (turn : Turn) : Answers :=
  ⟨turn.info, turn.fate.code, s.received turn⟩

/-- What the next request of the master does to the RTU. -/
def carryOut (s : System) (turn : Turn) : Rtu :=
  match s.requests turn with
  | some d =>
    if d.val.mbParamType = .holding ∧ turn.fate.served = true then
      s.rtu.setEntry d (writtenBytes s.master d)
    else s.rtu
  | none => s.rtu

/-- `master_read` from one condition of its `for` loop to the next. -/
def visit (s : System) (turn : Turn) : System :=
  if s.master.err ≠ espErrNotFound then
    { master := s.master.visit s.cid (s.answers turn), cid := s.cid + 1, rtu := s.carryOut turn }
  else s

end System

/-- A step of one of the tasks. -/
inductive Event where
  | master (turn : Turn)
  | motor
  | sensor (k : Fin 3) (word : UInt32)

def step (s : System) : Event → System
  | .master turn => s.visit turn
  | .motor => { s with rtu := s.rtu.runMotor }
  | .sensor k word => { s with rtu := s.rtu.readINA k word }

/-- What is not known when the RTU's Modbus stack starts: the bytes of the master's structures,
what the RTU is built with, and what its motor task has done until then. -/
structure Launch where
  store : Store
  build : Build
  hw : Motor.Hardware

/-- The system then. -/
def Launch.start (launch : Launch) : System where
  master := { store := launch.store }
  rtu := { store := setupStore, build := launch.build, hw := launch.hw }

/-- The system after `t` steps. -/
def run (launch : Launch) (schedule : ℕ → Event) (t : ℕ) : System :=
  DelayedCopy.states step launch.start schedule t

/-! ## What a step does -/

variable {s : System} {e : Event} {turn : Turn} {d other : Entry}

/-- The step is a visit of the master that requests the entry. -/
def Requests (s : System) (e : Event) (turn : Turn) (d : Entry) : Prop :=
  e = .master turn ∧ s.master.err ≠ espErrNotFound ∧ s.requests turn = some d

/-- The RTU carries out a request to set the entry. -/
def Sets (s : System) (e : Event) (d : Entry) : Prop :=
  ∃ turn, Requests s e turn d ∧ d.val.mbParamType = .holding ∧ turn.fate.served = true

/-- The master gets an answer for the entry. -/
def Gets (s : System) (e : Event) (d : Entry) : Prop :=
  ∃ turn others, Requests s e turn d ∧ d.val.mbParamType ≠ .holding ∧ turn.fate = .answered others

/-- `runMotor` reads `holding_data1` and passes it on to the motor. -/
def Drives (s : System) (e : Event) : Prop := e = .motor ∧ s.rtu.driving = true

@[simp] theorem float_word_bytes (w : UInt32) : floatWord (floatBytes w) = w := by
  have bound := w.toNat_lt
  apply UInt32.toNat_inj.mp
  have bytes : (List.ofFn (floatBytes w)).foldr (fun b n => b.toNat + 256 * n) 0 = w.toNat := by
    simp only [List.ofFn_succ, List.ofFn_zero, List.foldr_cons, List.foldr_nil, float_bytes_toNat,
      Fin.val_zero, Fin.val_succ]
    omega
  rw [floatWord, bytes, UInt32.ofNat_toNat]

private theorem float_word_toNat (bytes : FloatBytes) :
    (floatWord bytes).toNat = (bytes 0).toNat + 256 * ((bytes 1).toNat +
      256 * ((bytes 2).toNat + 256 * (bytes 3).toNat)) := by
  have byte0 := (bytes 0).toNat_lt
  have byte1 := (bytes 1).toNat_lt
  have byte2 := (bytes 2).toNat_lt
  have byte3 := (bytes 3).toNat_lt
  simp only [floatWord, List.ofFn_succ, List.ofFn_zero, List.foldr_cons, List.foldr_nil,
    UInt32.toNat_ofNat', Fin.succ_zero_eq_one, Fin.succ_one_eq_two, Fin.reduceSucc]
  omega

/-- Any four bytes are those of a `float`. -/
theorem float_bytes_word (bytes : FloatBytes) : floatBytes (floatWord bytes) = bytes := by
  have byte0 := (bytes 0).toNat_lt
  have byte1 := (bytes 1).toNat_lt
  have byte2 := (bytes 2).toNat_lt
  have byte3 := (bytes 3).toNat_lt
  funext i
  apply UInt8.toNat_inj.mp
  rw [float_bytes_toNat, float_word_toNat]
  fin_cases i <;> simp <;> omega

private theorem locate_entry_eq (r : Rtu) (d : Entry) : r.locateEntry d = some d.data :=
  locate_entry r.build d

theorem set_entry_eq (r : Rtu) (d : Entry) (bytes : FloatBytes) :
    r.setEntry d bytes = { r with store := ByteMemory.store r.store d.data.1 d.data.2 bytes } := by
  unfold Rtu.setEntry
  rw [locate_entry_eq]
  dsimp only
  rw [write_eq]

theorem get_entry_eq (r : Rtu) (d : Entry) (others : FloatBytes) :
    r.getEntry d others = overlay others (load r.store d.data.1 d.data.2) (Rtu.answerSize d) := by
  unfold Rtu.getEntry
  rw [locate_entry_eq]
  dsimp only
  rw [read_eq]

theorem step_stopped (turn : Turn) (stops : s.master.err = espErrNotFound) :
    step s (.master turn) = s := if_neg (not_not.mpr stops)

theorem step_visit (turn : Turn) (goes : s.master.err ≠ espErrNotFound) :
    step s (.master turn) =
      { master := s.master.visit s.cid (s.answers turn), cid := s.cid + 1,
        rtu := s.carryOut turn } := if_pos goes

/-- What a step does to the RTU. -/
inductive RtuStep (s : System) : Event → Rtu → Prop
  | set (turn : Turn) (d : Entry) (sets : Sets s (.master turn) d) : RtuStep s (.master turn)
      { s.rtu with
        store := ByteMemory.store s.rtu.store d.data.1 d.data.2 (writtenBytes s.master d) }
  | keep (turn : Turn) (none : ∀ d, ¬ Sets s (.master turn) d) : RtuStep s (.master turn) s.rtu
  | motor : RtuStep s .motor s.rtu.runMotor
  | sensor (k : Fin 3) (word : UInt32) : RtuStep s (.sensor k word) (s.rtu.readINA k word)

theorem rtu_step (s : System) (e : Event) : RtuStep s e (step s e).rtu := by
  cases e with
  | motor => exact .motor
  | sensor k word => exact .sensor k word
  | master turn =>
    by_cases stopped : s.master.err = espErrNotFound
    · rw [step_stopped turn stopped]
      refine .keep turn ?_
      rintro d ⟨_, ⟨_, goes, _⟩, _⟩
      exact goes stopped
    rw [step_visit turn stopped]
    unfold System.carryOut
    dsimp only
    split
    · rename_i d requested
      split
      · rename_i served
        rw [set_entry_eq]
        exact .set turn d ⟨turn, ⟨rfl, stopped, requested⟩, served⟩
      · rename_i refused
        refine .keep turn ?_
        rintro other ⟨turn', ⟨same, _, requested'⟩, served⟩
        obtain rfl := Event.master.inj same
        obtain rfl := Option.some.inj (requested.symm.trans requested')
        exact refused served
    · rename_i none
      refine .keep turn ?_
      rintro other ⟨turn', ⟨same, _, requested'⟩, served⟩
      obtain rfl := Event.master.inj same
      exact nomatch none.symm.trans requested'

/-- What a step does to the master. -/
inductive MasterStep (s : System) : Event → MasterRead.State → Prop
  | request (turn : Turn) (d : Entry) (m : MasterRead.State)
      (requests : Requests s (.master turn) turn d)
      (did : Did (branchState s.master s.cid (s.answers turn)) m d (s.answers turn)) :
      MasterStep s (.master turn) m
  | unused (turn : Turn) (goes : s.master.err ≠ espErrNotFound) (none : s.requests turn = none) :
      MasterStep s (.master turn) (branchState s.master s.cid (s.answers turn))
  | stopped (turn : Turn) (stops : s.master.err = espErrNotFound) :
      MasterStep s (.master turn) s.master
  | motor : MasterStep s .motor s.master
  | sensor (k : Fin 3) (word : UInt32) : MasterStep s (.sensor k word) s.master

theorem master_step (s : System) (e : Event) : MasterStep s e (step s e).master := by
  cases e with
  | motor => exact .motor
  | sensor k word => exact .sensor k word
  | master turn =>
    by_cases stopped : s.master.err = espErrNotFound
    · rw [step_stopped turn stopped]
      exact .stopped turn stopped
    · rw [step_visit turn stopped]
      cases requested : s.requests turn with
      | none =>
        dsimp only
        rw [visit_unused (show used s.master s.cid (s.answers turn) = none from requested)]
        exact .unused turn stopped requested
      | some d =>
        exact .request turn d _ ⟨rfl, stopped, requested⟩
          (visit_did (show used s.master s.cid (s.answers turn) = some d from requested))

end PowerMonitor.ControlLoop
