import PowerMonitor.SignalledQueue

/-! The RTU's event loop, `modbus_server` (`rtu/main/main.c`), against the accesses of a Modbus
master. The stack raises the event bit of an access and queues its record in one step. The
loop fetches all bits at once, and an access may fall between that and its next call. -/
namespace PowerMonitor.ModbusServer
open SignalledQueue

/-- The event bits of `MB_READ_WRITE_MASK`, which are those of all accesses. -/
inductive MbEvent where
  | holdingRegRd
  | holdingRegWr
  | inputRegRd
  | discreteRd
  | coilsRd
  | coilsWr
  deriving DecidableEq, Repr

/-- `mb_param_info_t`. -/
structure MbParamInfo where
  timeStamp : UInt32
  mbOffset : UInt16
  /-- The event bit of the access, which the log prints as `TYPE`. -/
  type : MbEvent
  address : UInt32
  size : UInt32
  deriving DecidableEq, Repr

/-- The record of one access. The serial number tells accesses with equal fields apart. -/
structure AccessRecord where
  serial : Nat
  info : MbParamInfo
  deriving DecidableEq, Repr

/-- A log line: the kind of access it announces, and the `reg_info` it prints. -/
structure Report where
  kind : MbEvent
  regInfo : Option AccessRecord
  deriving DecidableEq, Repr

/-- The stack's event bits and queue, and the loop. The current batch is the value of `event`
while an iteration lasts. -/
structure State where
  box : Box MbEvent AccessRecord := {}
  /-- `reg_info`, which nothing initialises. -/
  regInfo : Option AccessRecord := none
  /-- The lines logged, oldest first. -/
  reports : List Report := []
  /-- The records of all accesses, oldest first. -/
  accesses : List AccessRecord := []
  /-- An `ESP_ERROR_CHECK` failed, which restarts the device. -/
  aborted : Bool := false

namespace State

def report (s : State) (kind : MbEvent) : State :=
  { s with reports := s.reports ++ [⟨kind, s.regInfo⟩] }

/-- `ESP_ERROR_CHECK(mbc_slave_get_param_info(&reg_info, MB_PAR_INFO_GET_TOUT))`. -/
def getParamInfo (s : State) : State :=
  match s.box.queue with
  | [] => { s with aborted := true }
  | record :: _ => { s with regInfo := some record, box := s.box.pop }

def getAndReport (s : State) (kind : MbEvent) : State :=
  let s := s.getParamInfo
  if s.aborted then s else s.report kind

/-- The `else if` chain of an iteration. -/
def handle (s : State) (event : Finset MbEvent) : State :=
  if .holdingRegRd ∈ event then s.getAndReport .holdingRegRd
  else if .holdingRegWr ∈ event then s.report .holdingRegWr
  else if .inputRegRd ∈ event then s.getAndReport .inputRegRd
  else if .discreteRd ∈ event then s.getAndReport .discreteRd
  else if .coilsRd ∈ event then s.getAndReport .coilsRd
  else if .coilsWr ∈ event then s.getAndReport .coilsWr
  else s

end State

/-- An access by the master, or the loop going on to its next call. -/
inductive Event where
  | access (info : MbParamInfo)
  | server
  deriving DecidableEq, Repr

/-- `modbus_server` up to its next call of the stack: `mbc_slave_check_event`, which waits for
a bit, or what the iteration does with the bits it got. -/
def modbusServer (s : State) : State :=
  match s.box.batch with
  | none => { s with box := s.box.fetch }
  | some event => { s with box := s.box.finish }.handle event.val

def access (capacity : Option Nat) (info : MbParamInfo) (s : State) : State :=
  let record := ⟨s.accesses.length, info⟩
  { s with
    box := s.box.post capacity info.type record
    accesses := s.accesses ++ [record] }

def step (capacity : Option Nat) (s : State) (e : Event) : State :=
  if s.aborted then s
  else
    match e with
    | .access info => access capacity info s
    | .server => modbusServer s

/-- A run from the start of the RTU, with a queue of the given capacity. -/
def run (capacity : Option Nat) (events : List Event) : State :=
  events.foldl (step capacity) {}

variable {s : State} {capacity : Option Nat} {event : Batch MbEvent} {info : MbParamInfo}

@[simp] theorem run_nil (capacity : Option Nat) : run capacity [] = {} := rfl

theorem run_snoc (capacity : Option Nat) (events : List Event) (e : Event) :
    run capacity (events ++ [e]) = step capacity (run capacity events) e := by
  simp [run]

theorem run_append (capacity : Option Nat) (events more : List Event) :
    run capacity (events ++ more) = more.foldl (step capacity) (run capacity events) := by
  simp [run]

/-- The iteration takes a record from the queue: it does not for a holding write. -/
def TakesRecord (event : Batch MbEvent) : Prop :=
  .holdingRegRd ∈ event.val ∨ .holdingRegWr ∉ event.val

instance : DecidablePred TakesRecord := fun _ => inferInstanceAs (Decidable (_ ∨ _))

/-- What an iteration does with its bits: it logs a holding write without a new record, or
it takes the next record and logs it as one of the kinds it was told of. -/
theorem handle_cases (s : State) (event : Batch MbEvent) :
    (¬ TakesRecord event ∧ .holdingRegWr ∈ event.val ∧
      s.handle event.val = s.report .holdingRegWr) ∨
    (TakesRecord event ∧ ∃ kind ∈ event.val, kind ≠ .holdingRegWr ∧
      s.handle event.val = s.getAndReport kind) := by
  obtain ⟨event, nonempty⟩ := event
  unfold State.handle TakesRecord
  by_cases holdingRd : MbEvent.holdingRegRd ∈ event
  · exact Or.inr ⟨Or.inl holdingRd, _, holdingRd, by decide, if_pos holdingRd⟩
  by_cases holdingWr : MbEvent.holdingRegWr ∈ event
  · exact Or.inl ⟨by simp [holdingRd, holdingWr], holdingWr, by simp [holdingRd, holdingWr]⟩
  refine Or.inr ⟨Or.inr holdingWr, ?_⟩
  simp only [holdingRd, holdingWr, if_false]
  by_cases inputRd : MbEvent.inputRegRd ∈ event
  · exact ⟨_, inputRd, by decide, if_pos inputRd⟩
  by_cases discreteRd : MbEvent.discreteRd ∈ event
  · exact ⟨_, discreteRd, by decide, by simp only [inputRd, discreteRd, if_true, if_false]⟩
  by_cases coilsRd : MbEvent.coilsRd ∈ event
  · exact ⟨_, coilsRd, by decide, by
      simp only [inputRd, discreteRd, coilsRd, if_true, if_false]⟩
  by_cases coilsWr : MbEvent.coilsWr ∈ event
  · exact ⟨_, coilsWr, by decide, by
      simp only [inputRd, discreteRd, coilsRd, coilsWr, if_true, if_false]⟩
  obtain ⟨kind, member⟩ := nonempty
  cases kind <;> contradiction

/-- A record that is there is taken and logged. -/
theorem get_and_report_of_queue (s : State) (kind : MbEvent) (alive : s.aborted = false)
    (queued : s.box.queue = record :: rest) :
    s.getAndReport kind =
      { s with
        regInfo := some record
        box := s.box.pop
        reports := s.reports ++ [⟨kind, some record⟩] } := by
  simp [State.getAndReport, State.getParamInfo, queued, alive, State.report]

theorem get_and_report_of_empty (s : State) (kind : MbEvent) (empty : s.box.queue = []) :
    s.getAndReport kind = { s with aborted := true } := by
  simp [State.getAndReport, State.getParamInfo, empty]

/-- The loop between two iterations only fetches the bits. -/
theorem step_check (alive : s.aborted = false) (idle : s.box.batch = none) :
    step capacity s .server = { s with box := s.box.fetch } := by
  simp [step, alive, modbusServer, idle]

theorem step_access (alive : s.aborted = false) :
    step capacity s (.access info) = access capacity info s := by
  simp [step, alive]

/-- A restarted device stays out of the run. -/
theorem step_aborted (aborted : s.aborted = true) (e : Event) : step capacity s e = s := by
  simp [step, aborted]

/-- Everything the end of an iteration can do. -/
theorem step_handle_cases (capacity : Option Nat) (alive : s.aborted = false)
    (busy : s.box.batch = some event) :
    (¬ TakesRecord event ∧ .holdingRegWr ∈ event.val ∧ step capacity s .server =
      { s with box := s.box.finish, reports := s.reports ++ [⟨.holdingRegWr, s.regInfo⟩] }) ∨
    (TakesRecord event ∧ s.box.queue = [] ∧
      step capacity s .server = { s with box := s.box.finish, aborted := true }) ∨
    (TakesRecord event ∧ ∃ kind ∈ event.val, kind ≠ .holdingRegWr ∧ ∃ record rest,
      s.box.queue = record :: rest ∧ step capacity s .server =
        { s with
          box := s.box.finish.pop
          regInfo := some record
          reports := s.reports ++ [⟨kind, some record⟩] }) := by
  have same : step capacity s .server = { s with box := s.box.finish }.handle event.val := by
    simp [step, alive, modbusServer, busy]
  rw [same]
  rcases handle_cases { s with box := s.box.finish } event with
    ⟨keeps, written, logged⟩ | ⟨takes, kind, member, other, logged⟩
  · exact Or.inl ⟨keeps, written, logged⟩
  · cases queued : s.box.queue with
    | nil =>
      exact Or.inr (Or.inl ⟨takes, rfl, logged.trans (get_and_report_of_empty _ kind queued)⟩)
    | cons record rest =>
      exact Or.inr (Or.inr ⟨takes, kind, member, other, record, rest, rfl,
        logged.trans (get_and_report_of_queue _ kind alive queued)⟩)

/-- An iteration ends with the bits raised in it. -/
theorem step_ends_iteration (capacity : Option Nat) (alive : s.aborted = false)
    (busy : s.box.batch = some event) :
    (step capacity s .server).box.batch = none ∧
      (step capacity s .server).box.raised = s.box.raised := by
  rcases step_handle_cases capacity alive busy with
    ⟨_, _, logged⟩ | ⟨_, _, logged⟩ | ⟨_, _, _, _, _, _, _, logged⟩ <;>
  · rw [logged]
    exact ⟨rfl, rfl⟩

end PowerMonitor.ModbusServer
