import PowerMonitor.EventHistory
import PowerMonitor.ModbusServer

/-! Whether `modbus_server` ever asks an empty queue for a record, which would restart the RTU.
Between iterations there is a record for every batch of event bits, and with room for two there
always is. With room for one, an access inside an iteration can lose its record and leave its
bit; the loop then starves when nothing comes before it asks again. -/
namespace PowerMonitor.NotificationQueue
open SignalledQueue EventHistory ModbusServer

/-- A turn of a run in which no access falls inside an iteration. An iteration that finds no bit
raised waits in `mbc_slave_check_event`. -/
inductive Turn where
  | access (info : MbParamInfo)
  | iteration
  deriving DecidableEq, Repr

def Turn.events : Turn → List Event
  | .access info => [.access info]
  | .iteration => [.server, .server]

/-- The device is up, and the queue holds a record for every batch of bits. -/
structure Supplied (s : State) : Prop where
  alive : s.aborted = false
  covered : s.box.Covered

variable {s : State} {capacity : Nat} {events : List Event}

private theorem supplied_start : Supplied {} := ⟨rfl, Nat.le_refl _⟩

/-- **One event**, unless an access falls inside an iteration on a queue of one record. -/
theorem supplied_step (supplied : Supplied s) (e : Event)
    (roomy : ∀ info, e = .access info → 1 < capacity ∨ 0 < capacity ∧ s.box.batch = none) :
    Supplied (step (some capacity) s e) := by
  obtain ⟨alive, covered⟩ := supplied
  cases e with
  | access info =>
    rw [step_access alive]
    refine ⟨alive, covered.post fun n bound => ?_⟩
    obtain rfl := Option.some.inj bound
    exact roomy info rfl
  | server =>
    cases batch : s.box.batch with
    | none =>
      rw [step_check alive batch]
      exact ⟨alive, covered.fetch batch⟩
    | some event =>
      rcases step_handle_cases (some capacity) alive batch with
        ⟨_, _, logged⟩ | ⟨_, empty, _⟩ | ⟨_, _, _, _, _, _, _, logged⟩
      · rw [logged]
        exact ⟨alive, (covered.finish batch).1⟩
      · exact absurd empty (covered.queue_ne_nil (by simp [Box.batches_finish batch]))
      · rw [logged]
        exact ⟨alive, (covered.finish batch).2⟩

/-- With room for two records, accesses may come at any time. -/
theorem supplied_run (several : 1 < capacity) (events : List Event) :
    Supplied (run (some capacity) events) := by
  have stepped : ∀ s e, Supplied s → Supplied (step (some capacity) s e) :=
    fun s e supplied => supplied_step supplied e fun _ _ => Or.inl several
  exact foldl_invariant stepped events supplied_start

/-- A whole iteration leaves none under way. -/
theorem idle_after_iteration (supplied : Supplied s) (idle : s.box.batch = none) :
    (step (some capacity) (step (some capacity) s .server) .server).box.batch = none := by
  rw [step_check supplied.alive idle]
  by_cases raised : s.box.raised.Nonempty
  · have busy : s.box.fetch.batch = some ⟨s.box.raised, raised⟩ := by simp [Box.fetch, raised]
    exact (step_ends_iteration (s := { s with box := s.box.fetch }) (some capacity) supplied.alive
      busy).1
  · have quiet : s.box.fetch = s.box := by simp [Box.fetch, raised]
    rw [quiet, step_check supplied.alive idle, quiet]
    exact idle

/-- **One turn**, from a state between two iterations to another. -/
private theorem supplied_turn (positive : 0 < capacity) (supplied : Supplied s)
    (idle : s.box.batch = none) (turn : Turn) :
    Supplied (turn.events.foldl (step (some capacity)) s) ∧
      (turn.events.foldl (step (some capacity)) s).box.batch = none := by
  cases turn with
  | access info =>
    have accessed : Supplied (step (some capacity) s (.access info)) :=
      supplied_step supplied _ fun _ _ => Or.inr ⟨positive, idle⟩
    refine ⟨accessed, ?_⟩
    simp only [Turn.events, List.foldl_cons, List.foldl_nil, step_access supplied.alive]
    exact idle
  | iteration =>
    have first : Supplied (step (some capacity) s .server) :=
      supplied_step supplied .server fun _ access => nomatch access
    have second : Supplied (step (some capacity) (step (some capacity) s .server) .server) :=
      supplied_step first .server fun _ access => nomatch access
    exact ⟨second, idle_after_iteration supplied idle⟩

private theorem supplied_turns (positive : 0 < capacity) (turns : List Turn) :
    Supplied (run (some capacity) (turns.flatMap Turn.events)) := by
  have turned : ∀ s turn, (Supplied s ∧ s.box.batch = none) →
      Supplied (Turn.events turn |>.foldl (step (some capacity)) s) ∧
        (Turn.events turn |>.foldl (step (some capacity)) s).box.batch = none :=
    fun s turn rested => supplied_turn positive rested.1 rested.2 turn
  rw [run, List.foldl_flatMap]
  exact (foldl_invariant turned turns ⟨supplied_start, rfl⟩).1

/-- On a queue that holds any record at all, every record the loop asks for is there, whatever
accesses come between its iterations; on one that holds two, also when they come inside them. -/
theorem never_aborts (positive : 0 < capacity) :
    (∀ turns : List Turn, (run (some capacity) (turns.flatMap Turn.events)).aborted = false) ∧
      (1 < capacity → ∀ events, (run (some capacity) events).aborted = false) :=
  ⟨fun turns => (supplied_turns positive turns).alive,
    fun several events => (supplied_run several events).alive⟩

/-- The shipped queue of twenty records. -/
theorem shipped_queue_never_aborts :
    (∀ turns : List Turn, (run (some 20) (turns.flatMap Turn.events)).aborted = false) ∧
      (1 < 20 → ∀ events, (run (some 20) events).aborted = false) :=
  never_aborts (by decide)

/-! ## A queue of one record -/

/-- An iteration that takes a record is under way, and the bits raised in it make the next
iteration take one too. -/
def Starving (s : State) : Prop :=
  ∃ event next, s.box.batches = [event, next] ∧ TakesRecord event ∧ TakesRecord next

/-- The loop takes a record, fetches the bits raised meanwhile and asks for a record again,
with no access in between. -/
def AsksTwice (capacity : Nat) (events : List Event) : Prop :=
  ∃ before after, events = before ++ [.server, .server, .server] ++ after ∧
    Starving (run (some capacity) before)

/-- The queue of one record is full, or nothing is left to do, or one batch is left without
a record; the loop gets there by taking the only record of a starving state. -/
def Served (events : List Event) (s : State) : Prop :=
  s.box.queue.length = 1 ∨ s.box.queue = [] ∧ (s.box.batches = [] ∨
    ∃ next, s.box.batches = [next] ∧ (TakesRecord next →
      ∃ before, Starving (run (some 1) before) ∧
        (s.box.batch = none ∧ events = before ++ [.server] ∨
          s.box.batch ≠ none ∧ events = before ++ [.server, .server])))

private theorem served_access (served : Served events s) (info : MbParamInfo) :
    Served (events ++ [.access info]) (access (some 1) info s) := by
  refine Or.inl ?_
  rcases served with full | ⟨empty, _⟩
  · simp [access, Box.post, Box.HasRoom, full]
  · simp [access, Box.post, Box.HasRoom, empty]

private theorem served_check (alive : s.aborted = false) (idle : s.box.batch = none)
    (served : Served events s) :
    Served (events ++ [.server]) (step (some 1) s .server) := by
  rw [step_check alive idle]
  rcases served with full | ⟨empty, none | ⟨next, single, came⟩⟩
  · exact Or.inl (by simpa using full)
  · exact Or.inr ⟨by simpa using empty, Or.inl (by simpa [Box.batches_fetch idle] using none)⟩
  · refine Or.inr ⟨by simpa using empty, Or.inr ⟨next, by
      simpa [Box.batches_fetch idle] using single, fun takes => ?_⟩⟩
    obtain ⟨before, starving, ⟨_, rfl⟩ | ⟨busy, _⟩⟩ := came takes
    · refine ⟨before, starving, Or.inr ⟨?_, by simp⟩⟩
      have raised : s.box.raised.Nonempty := by
        by_contra quiet
        simp [Box.batches, idle, quiet] at single
      simp [Box.fetch, raised]
    · exact absurd idle busy

/-- An empty queue is asked only by a loop that asks twice. -/
private theorem asks_twice_of_empty {event : Batch MbEvent} (busy : s.box.batch = some event)
    (takes : TakesRecord event) (empty : s.box.queue = []) (served : Served events s) :
    AsksTwice 1 (events ++ [.server]) := by
  have front := Box.batches_finish busy
  rcases served with full | ⟨_, none | ⟨next, single, came⟩⟩
  · simp [empty] at full
  · simp [front] at none
  · rw [front] at single
    obtain ⟨rfl, _⟩ := List.cons.inj single
    obtain ⟨before, starving, ⟨idle, _⟩ | ⟨_, rfl⟩⟩ := came takes
    · simp [busy] at idle
    · exact ⟨before, [], by simp, starving⟩

/-- An iteration that takes the only record leaves one batch at most, and then it started in a
starving state. -/
private theorem served_take {event : Batch MbEvent} {record : AccessRecord}
    {rest : List AccessRecord} {s' : State} (busy : s.box.batch = some event)
    (takes : TakesRecord event) (same : s = run (some 1) events) (served : Served events s)
    (queued : s.box.queue = record :: rest) (taken : s'.box = s.box.finish.pop) :
    Served (events ++ [.server]) s' := by
  have front := Box.batches_finish busy
  have only : s.box.queue.length = 1 := by
    rcases served with full | ⟨empty, _⟩
    · exact full
    · simp [queued] at empty
  refine Or.inr ⟨by simpa [taken, queued] using only, ?_⟩
  rw [taken, Box.pop_batches]
  have few := Box.batches_length_le_two s.box
  rw [front] at few
  cases left : s.box.finish.batches with
  | nil => exact Or.inl rfl
  | cons next others =>
    have none : others = [] := by simpa [left] using few
    subst none
    refine Or.inr ⟨next, rfl, fun nextTakes => ⟨events, ?_, Or.inl ⟨rfl, rfl⟩⟩⟩
    exact ⟨event, next, by rw [← same, front, left], takes, nextTakes⟩

private theorem served_handle {event : Batch MbEvent} (alive : s.aborted = false)
    (busy : s.box.batch = some event) (same : s = run (some 1) events)
    (served : Served events s) :
    ((step (some 1) s .server).aborted = true ∧ AsksTwice 1 (events ++ [.server])) ∨
      ((step (some 1) s .server).aborted = false ∧
        Served (events ++ [.server]) (step (some 1) s .server)) := by
  have front := Box.batches_finish busy
  rcases step_handle_cases (some 1) alive busy with
    ⟨_, _, logged⟩ | ⟨takes, empty, logged⟩ | ⟨takes, _, _, _, record, rest, queued, logged⟩
  · rw [logged]
    refine Or.inr ⟨alive, ?_⟩
    rcases served with full | ⟨empty, none | ⟨next, single, _⟩⟩
    · exact Or.inl full
    · simp [front] at none
    · rw [front] at single
      exact Or.inr ⟨empty, Or.inl (List.cons.inj single).2⟩
  · rw [logged]
    exact Or.inl ⟨rfl, asks_twice_of_empty busy takes empty served⟩
  · rw [logged]
    exact Or.inr ⟨alive, served_take busy takes same served queued rfl⟩

/-- A run on a queue of one record aborts only by asking twice. -/
theorem served_run (events : List Event) :
    ((run (some 1) events).aborted = true ∧ AsksTwice 1 events) ∨
      ((run (some 1) events).aborted = false ∧ Served events (run (some 1) events)) := by
  induction events using List.reverseRecOn with
  | nil => exact Or.inr ⟨rfl, Or.inr ⟨rfl, Or.inl rfl⟩⟩
  | append_singleton events e ih =>
    rw [run_snoc]
    rcases ih with ⟨aborted, before, after, rfl, starving⟩ | ⟨alive, served⟩
    · rw [step_aborted aborted]
      exact Or.inl ⟨aborted, before, after ++ [e], by simp, starving⟩
    · cases e with
      | access info =>
        rw [step_access alive]
        exact Or.inr ⟨alive, served_access served info⟩
      | server =>
        cases batch : (run (some 1) events).box.batch with
        | none =>
          refine Or.inr ⟨?_, served_check alive batch served⟩
          rw [step_check alive batch]
          exact alive
        | some event => exact served_handle alive batch rfl served

private theorem foldl_aborted (aborted : s.aborted = true) (more : List Event) :
    more.foldl (step (some capacity)) s = s := by
  induction more with
  | nil => rfl
  | cons e more ih => rw [List.foldl_cons, step_aborted aborted, ih]

theorem aborts_on_empty {event : Batch MbEvent} (alive : s.aborted = false)
    (busy : s.box.batch = some event) (takes : TakesRecord event) (empty : s.box.queue = []) :
    (step (some capacity) s .server).aborted = true := by
  rcases step_handle_cases (some capacity) alive busy with
    ⟨keeps, _, _⟩ | ⟨_, _, logged⟩ | ⟨_, _, _, _, _, _, queued, _⟩
  · exact absurd takes keeps
  · rw [logged]
  · rw [empty] at queued
    cases queued

/-- The loop in a starving state whose queue holds one record aborts in three steps. -/
theorem starving_aborts (capacity : Nat) (alive : s.aborted = false) (starving : Starving s)
    (single : s.box.queue.length = 1) :
    ([Event.server, .server, .server].foldl (step (some capacity)) s).aborted = true := by
  obtain ⟨event, next, batches, takes, nextTakes⟩ := starving
  obtain ⟨busy, raised⟩ := Box.of_batches_eq_pair batches
  rcases step_handle_cases (some capacity) alive busy with
    ⟨keeps, _, _⟩ | ⟨_, empty, _⟩ | ⟨_, kind, _, _, record, rest, queued, logged⟩
  · exact absurd takes keeps
  · simp [empty] at single
  · have none : rest = [] := by simpa [queued] using single
    have nonempty : s.box.finish.pop.raised.Nonempty := by
      rw [Box.pop, Box.finish_raised, raised]
      exact next.property
    have fetched : s.box.finish.pop.fetch.batch = some next := by
      rw [Box.fetch, dif_pos nonempty]
      exact congrArg some (Subtype.ext raised)
    simp only [List.foldl_cons, List.foldl_nil, logged]
    rw [step_check (s := { s with
      box := s.box.finish.pop
      regInfo := some record
      reports := s.reports ++ [⟨kind, some record⟩] }) alive rfl]
    exact aborts_on_empty alive fetched nextTakes (by simp [queued, none])

/-- A run on a queue of one record that asks twice aborts. -/
theorem aborts_of_asks_twice (asks : AsksTwice 1 events) :
    (run (some 1) events).aborted = true := by
  obtain ⟨before, after, rfl, starving⟩ := asks
  rw [run_append, run_append]
  rcases served_run before with ⟨aborted, _⟩ | ⟨alive, served⟩
  · rw [foldl_aborted aborted, foldl_aborted aborted]
    exact aborted
  · have single : (run (some 1) before).box.queue.length = 1 := by
      obtain ⟨event, next, batches, _⟩ := starving
      rcases served with full | ⟨_, none | ⟨other, one, _⟩⟩
      · exact full
      · simp [batches] at none
      · simp [batches] at one
    have aborted := starving_aborts 1 alive starving single
    rw [foldl_aborted aborted]
    exact aborted

/-- With accesses at any time, every record the loop asks for is there exactly when the queue
holds two, or the loop never asks twice after an access that came between its fetching the bits
of an iteration and taking the record. -/
theorem never_aborts_iff (positive : 0 < capacity) (events : List Event) :
    (run (some capacity) events).aborted = false ↔
      1 < capacity ∨ ¬ AsksTwice capacity events := by
  by_cases several : 1 < capacity
  · exact iff_of_true (supplied_run several events).alive (Or.inl several)
  · obtain rfl : capacity = 1 := by omega
    have same : (run (some 1) events).aborted = true ↔ AsksTwice 1 events := by
      refine ⟨fun aborted => ?_, aborts_of_asks_twice⟩
      rcases served_run events with ⟨_, asks⟩ | ⟨alive, _⟩
      · exact asks
      · rw [alive] at aborted
        cases aborted
    rw [← same, Bool.not_eq_true]
    simp

/-- An access inside the iteration of another loses its record on a queue of one and leaves its
bit, for which the next iteration finds nothing. -/
example : (run (some 1) [.access ⟨41704766, 1, .inputRegRd, 0x3ffcb878, 2⟩, .server,
    .access ⟨41719746, 1, .holdingRegRd, 0x3ffcb9b4, 2⟩, .server, .server, .server]).aborted =
    true := by decide

end PowerMonitor.NotificationQueue
