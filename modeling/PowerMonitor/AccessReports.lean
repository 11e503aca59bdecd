import PowerMonitor.EventHistory
import PowerMonitor.ModbusServer

/-! What the log of `modbus_server` says about the accesses. A report describes the access it
announces as long as every access is fetched by itself and has its record taken; a second
access before the next fetch, or a holding write, leaves the reports one record behind. -/
namespace PowerMonitor.AccessReports
open SignalledQueue EventHistory ModbusServer

/-- The `reg_info` of every report. -/
def printed (s : State) : List (Option AccessRecord) := s.reports.map (·.regInfo)

/-- The log describes the accesses so far: each report an access of its kind, no access
twice, and every access once the loop has caught up. -/
structure Truthful (s : State) : Prop where
  ofKind : ∀ r ∈ s.reports, ∃ record ∈ s.accesses,
    r.regInfo = some record ∧ record.info.type = r.kind
  once : (printed s).Nodup
  complete : s.box.batch = none → s.box.raised = ∅ →
    ∀ record ∈ s.accesses, some record ∈ printed s

/-- The access is not a holding write, and finds the event bits of all accesses before it
fetched. -/
def FetchedAlone (before : List Event) (e : Event) : Prop :=
  ∀ info, e = .access info → info.type ≠ .holdingRegWr ∧ (run none before).box.raised = ∅

/-- The loop left to itself: the rest of an iteration, and one more. -/
def catchUp : List Event := [.server, .server, .server]

/-- What holds of every run on a queue without a bound. -/
structure Tracked (s : State) : Prop where
  serials : s.accesses.map (·.serial) = List.range s.accesses.length
  alive : s.aborted = false
  covered : s.box.Covered
  taken : ∃ taken, s.accesses = taken ++ s.box.queue ∧
    ∀ record, some record ∈ printed s → record ∈ taken
  held : ∀ record, s.regInfo = some record → some record ∈ printed s

/-- The reports are in step with the accesses: every record to come has a batch of its own. -/
structure InStep (s : State) : Prop where
  inOrder : printed s ++ s.box.queue.map some = s.accesses.map some
  ofKind : ∀ r ∈ s.reports, ∀ record, r.regInfo = some record → record.info.type = r.kind
  batches : s.box.batches = s.box.queue.map fun record => Batch.single record.info.type
  reads : ∀ record ∈ s.box.queue, record.info.type ≠ .holdingRegWr

/-- A report without a record, or with one that was reported before. -/
def Misreported (s : State) : Prop := none ∈ printed s ∨ ¬ (printed s).Nodup

/-- The log is wrong, or will be: there is a record without a batch, or a holding write is
due as a batch of its own. -/
def Doomed (s : State) : Prop :=
  Misreported s ∨ s.box.batches.length < s.box.queue.length ∨
    Batch.single .holdingRegWr ∈ s.box.batches

variable {s : State} {events : List Event} {info : MbParamInfo}

theorem Tracked.accesses_nodup (tracked : Tracked s) : s.accesses.Nodup := by
  apply List.Nodup.of_map (·.serial)
  rw [tracked.serials]
  exact List.nodup_range

private theorem tracked_access (tracked : Tracked s) : Tracked (access none info s) := by
  obtain ⟨taken, split, earlier⟩ := tracked.taken
  refine ⟨?_, tracked.alive, tracked.covered.post (by simp), ⟨taken, ?_, earlier⟩, tracked.held⟩
  · simp [access, tracked.serials, List.range_succ]
  · simp [access, split]

private theorem tracked_server (tracked : Tracked s) : Tracked (step none s .server) := by
  obtain ⟨taken, split, earlier⟩ := tracked.taken
  cases batch : s.box.batch with
  | none =>
    rw [step_check tracked.alive batch]
    exact ⟨tracked.serials, tracked.alive, tracked.covered.fetch batch,
      ⟨taken, by simpa using split, earlier⟩, tracked.held⟩
  | some event =>
    have busy : s.box.batches ≠ [] := by simp [Box.batches_finish batch]
    rcases step_handle_cases none tracked.alive batch with
      ⟨_, _, logged⟩ | ⟨_, empty, _⟩ | ⟨_, kind, _, _, record, rest, queued, logged⟩
    · rw [logged]
      refine ⟨tracked.serials, tracked.alive, (tracked.covered.finish batch).1,
        ⟨taken, split, fun record member => ?_⟩, fun record same => ?_⟩
      · simp only [printed, List.map_append, List.mem_append, List.map_singleton,
          List.mem_singleton] at member
        rcases member with before | here
        · exact earlier record before
        · exact earlier record (tracked.held record here.symm)
      · exact List.mem_map.mpr (by
          obtain ⟨r, member, printed⟩ := List.mem_map.mp (tracked.held record same)
          exact ⟨r, List.mem_append_left _ member, printed⟩)
    · exact absurd empty (tracked.covered.queue_ne_nil busy)
    · rw [logged]
      refine ⟨tracked.serials, tracked.alive, (tracked.covered.finish batch).2,
        ⟨taken ++ [record], by simp [split, queued], fun other member => ?_⟩,
        fun other same => ?_⟩
      · simp only [printed, List.map_append, List.mem_append, List.map_singleton,
          List.mem_singleton, Option.some.injEq] at member ⊢
        exact member.imp (earlier other) id
      · simp [printed, ← same]

/-- **One event.** -/
private theorem tracked_step (tracked : Tracked s) (e : Event) : Tracked (step none s e) := by
  cases e with
  | access info =>
    rw [step_access tracked.alive]
    exact tracked_access tracked
  | server => exact tracked_server tracked

theorem tracked_run (events : List Event) : Tracked (run none events) := by
  have start : Tracked {} := by
    refine ⟨rfl, rfl, Nat.le_refl _, ⟨[], rfl, fun record member => ?_⟩, fun record same => ?_⟩
    · simp [printed] at member
    · cases same
  exact foldl_invariant (fun s e (tracked : Tracked s) => tracked_step tracked e) events start

/-! ## A run in step -/

private theorem in_step_access (inStep : InStep s) (reads : info.type ≠ .holdingRegWr)
    (fetched : s.box.raised = ∅) : InStep (access none info s) := by
  refine ⟨?_, inStep.ofKind, ?_, fun record member => ?_⟩
  · have inOrder := inStep.inOrder
    simp only [printed] at inOrder
    simp [access, printed, ← inOrder]
  · simp [access, Box.batches_post_quiet fetched, inStep.batches]
  · simp only [access, Box.post_queue_unbounded, List.mem_append, List.mem_singleton] at member
    rcases member with earlier | rfl
    · exact inStep.reads record earlier
    · exact reads

/-- In step, the batch of an iteration is that of the oldest record, and the others follow. -/
private theorem in_step_due (inStep : InStep s) (busy : s.box.batch = some event) :
    ∃ next rest, s.box.queue = next :: rest ∧ event = Batch.single next.info.type ∧
      s.box.finish.batches = rest.map fun record => Batch.single record.info.type := by
  have due := inStep.batches
  rw [Box.batches_finish busy] at due
  cases queued : s.box.queue with
  | nil => simp [queued] at due
  | cons next rest =>
    rw [queued, List.map_cons] at due
    obtain ⟨own, later⟩ := List.cons.inj due
    exact ⟨next, rest, rfl, own, later⟩

private theorem in_step_server (tracked : Tracked s) (inStep : InStep s) :
    InStep (step none s .server) := by
  cases batch : s.box.batch with
  | none =>
    rw [step_check tracked.alive batch]
    exact ⟨by simpa [printed] using inStep.inOrder, inStep.ofKind,
      by simpa [Box.batches_fetch batch] using inStep.batches, by simpa using inStep.reads⟩
  | some event =>
    obtain ⟨next, rest, queued, rfl, later⟩ := in_step_due inStep batch
    have reads : next.info.type ≠ .holdingRegWr := inStep.reads next (by simp [queued])
    rcases step_handle_cases none tracked.alive batch with
      ⟨keeps, _, _⟩ | ⟨_, empty, _⟩ | ⟨_, kind, member, _, record, others, front, logged⟩
    · exact absurd (Or.inr (by simpa [Batch.single] using reads.symm)) keeps
    · rw [queued] at empty
      cases empty
    · rw [queued] at front
      obtain ⟨rfl, rfl⟩ := List.cons.inj front
      have same : next.info.type = kind := (Finset.mem_singleton.mp member).symm
      rw [logged]
      refine ⟨?_, fun r member record held => ?_, ?_, fun record member => ?_⟩
      · have inOrder := inStep.inOrder
        simp only [printed, queued] at inOrder
        simpa [printed, queued] using inOrder
      · rcases List.mem_append.mp member with before | here
        · exact inStep.ofKind r before record held
        · obtain rfl := List.mem_singleton.mp here
          obtain rfl := Option.some.inj held
          exact same
      · simpa [queued] using later
      · exact inStep.reads record (by simpa [queued] using Or.inr (by simpa [queued] using member))

theorem in_step_run (alone : AtEach FetchedAlone events) : InStep (run none events) := by
  induction events using List.reverseRecOn with
  | nil => exact ⟨rfl, (fun r member => nomatch member), rfl, (fun record member => nomatch member)⟩
  | append_singleton events e ih =>
    obtain ⟨earlier, last⟩ := at_each_snoc.mp alone
    have tracked := tracked_run events
    rw [run_snoc]
    cases e with
    | access info =>
      rw [step_access tracked.alive]
      exact in_step_access (ih earlier) (last info rfl).1 (last info rfl).2
    | server => exact in_step_server tracked (ih earlier)

/-- A run in step has a truthful log. -/
theorem truthful_of_in_step (tracked : Tracked s) (inStep : InStep s) : Truthful s := by
  have order := inStep.inOrder
  refine ⟨fun r member => ?_, ?_, fun idle quiet record member => ?_⟩
  · have known : r.regInfo ∈ s.accesses.map some := by
      rw [← order]
      exact List.mem_append_left _ (List.mem_map_of_mem member)
    obtain ⟨record, recorded, held⟩ := List.mem_map.mp known
    exact ⟨record, recorded, held.symm, inStep.ofKind r member record held.symm⟩
  · have distinct : (s.accesses.map some).Nodup :=
      tracked.accesses_nodup.map (Option.some_injective _)
    rw [← order] at distinct
    exact (List.nodup_append.mp distinct).1
  · have none : s.box.queue = [] := by
      have batches := inStep.batches
      rw [Box.batches_eq_nil_iff.mpr ⟨idle, quiet⟩] at batches
      exact List.map_eq_nil_iff.mp batches.symm
    rw [none, List.map_nil, List.append_nil] at order
    rw [order]
    exact List.mem_map_of_mem member

/-! ## A run out of step -/

/-- A wrong report stays in the log. -/
theorem Misreported.grow {s' : State} (misreported : Misreported s)
    (grown : printed s' = printed s ++ more) : Misreported s' := by
  unfold Misreported
  rw [grown]
  rcases misreported with unfilled | repeated
  · exact Or.inl (List.mem_append_left _ unfilled)
  · exact Or.inr fun distinct => repeated (List.nodup_append.mp distinct).1

/-- An access that joins bits not fetched yet leaves fewer batches than records. -/
theorem doomed_of_raised (tracked : Tracked s) (raised : s.box.raised ≠ ∅) (info : MbParamInfo) :
    Doomed (access none info s) := by
  have covered : s.box.batches.length ≤ s.box.queue.length := tracked.covered
  refine Or.inr (Or.inl ?_)
  simp only [access, Box.post_queue_unbounded, List.length_append, List.length_singleton,
    Box.batches_post_raised raised]
  omega

private theorem doomed_access (tracked : Tracked s) (doomed : Doomed s) (info : MbParamInfo) :
    Doomed (access none info s) := by
  rcases doomed with misreported | behind | due
  · exact Or.inl misreported
  · have few := Box.batches_post_le none info.type ⟨s.accesses.length, info⟩ s.box
    refine Or.inr (Or.inl ?_)
    simp only [access, Box.post_queue_unbounded, List.length_append, List.length_singleton]
    omega
  · by_cases quiet : s.box.raised = ∅
    · exact Or.inr (Or.inr (by simp [access, Box.batches_post_quiet quiet, due]))
    · exact doomed_of_raised tracked quiet info

/-- Reporting `reg_info` without a new record prints nothing, or a record once more. -/
private theorem misreported_of_report {s' : State} (tracked : Tracked s)
    (reported : printed s' = printed s ++ [s.regInfo]) : Misreported s' := by
  unfold Misreported
  rw [reported]
  cases known : s.regInfo with
  | none => exact Or.inl (List.mem_append_right _ (List.mem_singleton_self _))
  | some record =>
    refine Or.inr fun distinct => ?_
    have twice := tracked.held record known
    exact (List.nodup_append.mp distinct).2.2 _ twice _ (List.mem_singleton_self _) rfl

private theorem doomed_server (tracked : Tracked s) (doomed : Doomed s) :
    Doomed (step none s .server) := by
  cases batch : s.box.batch with
  | none =>
    rw [step_check tracked.alive batch]
    unfold Doomed
    rw [Box.fetch_queue, Box.batches_fetch batch]
    exact doomed
  | some event =>
    have front := Box.batches_finish batch
    rcases step_handle_cases none tracked.alive batch with
      ⟨_, _, logged⟩ | ⟨_, empty, _⟩ | ⟨takes, kind, _, _, record, rest, queued, logged⟩
    · rw [logged]
      exact Or.inl (misreported_of_report tracked List.map_append)
    · exact absurd empty (tracked.covered.queue_ne_nil (by simp [front]))
    · rw [logged]
      rcases doomed with misreported | behind | due
      · exact Or.inl (misreported.grow List.map_append)
      · rw [front, queued, List.length_cons, List.length_cons] at behind
        refine Or.inr (Or.inl ?_)
        simp only [Box.pop_queue, Box.pop_batches, Box.finish_queue, queued, List.tail_cons]
        omega
      · rw [front] at due
        rcases List.mem_cons.mp due with rfl | later
        · exact absurd takes (by decide)
        · exact Or.inr (Or.inr later)

theorem doomed_run (doomed : Doomed (run none events)) (more : List Event) :
    Doomed (run none (events ++ more)) := by
  induction more using List.reverseRecOn with
  | nil => simpa using doomed
  | append_singleton more e ih =>
    have tracked := tracked_run (events ++ more)
    rw [← List.append_assoc, run_snoc]
    cases e with
    | access info =>
      rw [step_access tracked.alive]
      exact doomed_access tracked ih info
    | server => exact doomed_server tracked ih

/-- An access that is not fetched alone, or is a holding write, dooms the log. -/
theorem doomed_of_access (tracked : Tracked s)
    (violation : info.type = .holdingRegWr ∨ s.box.raised ≠ ∅) : Doomed (access none info s) := by
  by_cases quiet : s.box.raised = ∅
  · have write : info.type = .holdingRegWr := violation.resolve_right (not_not.mpr quiet)
    exact Or.inr (Or.inr (by simp [access, Box.batches_post_quiet quiet, write]))
  · exact doomed_of_raised tracked quiet info

/-- Once the loop has caught up, a doomed log is wrong. -/
theorem not_truthful_of_doomed (tracked : Tracked s) (doomed : Doomed s)
    (idle : s.box.batch = none) (quiet : s.box.raised = ∅) : ¬ Truthful s := by
  intro truthful
  have none : s.box.batches = [] := Box.batches_eq_nil_iff.mpr ⟨idle, quiet⟩
  rcases doomed with (unfilled | repeated) | behind | due
  · obtain ⟨r, member, empty⟩ := List.mem_map.mp unfilled
    obtain ⟨record, _, held, _⟩ := truthful.ofKind r member
    rw [empty] at held
    cases held
  · exact repeated truthful.once
  · obtain ⟨taken, split, earlier⟩ := tracked.taken
    rw [none, List.length_nil] at behind
    obtain ⟨record, queued⟩ := List.exists_mem_of_length_pos behind
    have reported := truthful.complete idle quiet record (by simp [split, queued])
    have distinct := tracked.accesses_nodup
    rw [split] at distinct
    exact (List.nodup_append.mp distinct).2.2 _ (earlier record reported) _ queued rfl
  · rw [none] at due
    cases due

/-! ## Catching up -/

/-- The loop waits: it is between two iterations and no bit is raised. -/
def Waits (s : State) : Prop := s.box.batch = none ∧ s.box.raised = ∅

private theorem waits_server (tracked : Tracked s) (waits : Waits s) : step none s .server = s := by
  rw [step_check tracked.alive waits.1]
  simp [Box.fetch, waits.2]

private theorem waits_after_two (tracked : Tracked s) (idle : s.box.batch = none) :
    Waits (step none (step none s .server) .server) := by
  have next := tracked_server tracked
  by_cases raised : s.box.raised.Nonempty
  · have fetched : (step none s .server).box = s.box.fetch := by
      rw [step_check tracked.alive idle]
    have busy : (step none s .server).box.batch = some ⟨s.box.raised, raised⟩ := by
      rw [fetched, Box.fetch, dif_pos raised]
    have none := step_ends_iteration none next.alive busy
    refine ⟨none.1, none.2.trans ?_⟩
    rw [fetched, Box.fetch, dif_pos raised]
  · have waits : Waits s := ⟨idle, Finset.not_nonempty_iff_eq_empty.mp raised⟩
    rw [waits_server tracked waits, waits_server tracked waits]
    exact waits

private theorem waits_after_catch_up (events : List Event) :
    Waits (run none (events ++ catchUp)) := by
  have tracked := tracked_run events
  rw [run_append]
  simp only [catchUp, List.foldl_cons, List.foldl_nil]
  cases batch : (run none events).box.batch with
  | none =>
    have waits := waits_after_two tracked batch
    rw [waits_server (tracked_server (tracked_server tracked)) waits]
    exact waits
  | some event =>
    exact waits_after_two (tracked_server tracked) (step_ends_iteration none tracked.alive batch).1

/-- In every state of a run, and while the loop then catches up, the log describes the
accesses exactly when no access is a holding write and every access finds the event bits of
those before it fetched. -/
theorem reports_describe_accesses_iff (events : List Event) :
    (∀ before, before <+: events ++ catchUp → Truthful (run none before)) ↔
      AtEach FetchedAlone events := by
  constructor
  · intro truthful before e after split
    rintro info rfl
    by_contra violation
    have wrong : info.type = .holdingRegWr ∨ (run none before).box.raised ≠ ∅ := by
      by_contra fine
      exact violation (by simpa [not_or] using fine)
    have doomed : Doomed (run none (before ++ [.access info])) := by
      rw [run_snoc, step_access (tracked_run before).alive]
      exact doomed_of_access (tracked_run before) wrong
    have whole : events ++ catchUp = (before ++ [.access info]) ++ (after ++ catchUp) := by
      simp [split]
    have caught := waits_after_catch_up events
    refine not_truthful_of_doomed (tracked_run _) ?_ caught.1 caught.2
      (truthful _ (List.prefix_refl _))
    rw [whole]
    exact doomed_run doomed _
  · intro alone before earlier
    have all : AtEach FetchedAlone (events ++ catchUp) := by
      refine at_each_append alone fun _ e member info same => ?_
      subst same
      simp [catchUp] at member
    exact truthful_of_in_step (tracked_run before) (in_step_run (at_each_earlier all earlier))

/-- A holding write, and one iteration: the report prints a `reg_info` that was never filled. -/
theorem holding_write_prints_nothing :
    ¬ ∀ events : List Event, Truthful (run none events) := by
  intro truthful
  have log := truthful [.access ⟨0, 0, .holdingRegWr, 0x3ffcb9b4, 2⟩, .server, .server]
  obtain ⟨record, _, held, _⟩ := log.ofKind ⟨.holdingRegWr, none⟩ (by decide)
  cases held

end PowerMonitor.AccessReports
