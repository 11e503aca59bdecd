import Mathlib.Data.Finset.Insert

/-! A queue with signals. A post raises the signal of its kind and appends a record, which
is lost when the queue is full; signals of one kind coalesce. The consumer fetches all the
raised signals at once, works on them as one batch, and takes records one at a time. How
many batches there are to work on is compared with how many records are left for them. -/
namespace PowerMonitor.SignalledQueue

variable {κ ρ : Type}

/-- Signals fetched together; a fetch waits for at least one. -/
abbrev Batch (κ : Type) : Type := { signals : Finset κ // signals.Nonempty }

/-- The batch of a single signal. -/
def Batch.single (kind : κ) : Batch κ := ⟨{kind}, Finset.singleton_nonempty kind⟩

/-- The signals raised and not fetched, the batch the consumer works on, and the records. -/
structure Box (κ ρ : Type) where
  raised : Finset κ := ∅
  batch : Option (Batch κ) := none
  queue : List ρ := []

namespace Box

/-- The queue takes another record; `none` is a queue without a bound. -/
def HasRoom (capacity : Option Nat) (b : Box κ ρ) : Prop := ∀ n ∈ capacity, b.queue.length < n

instance (capacity : Option Nat) (b : Box κ ρ) : Decidable (b.HasRoom capacity) :=
  inferInstanceAs (Decidable (∀ n ∈ capacity, b.queue.length < n))

/-- Nothing is fetched as long as no signal is raised. -/
def fetch (b : Box κ ρ) : Box κ ρ :=
  if raised : b.raised.Nonempty then { b with raised := ∅, batch := some ⟨b.raised, raised⟩ }
  else b

/-- The consumer is done with its batch. -/
def finish (b : Box κ ρ) : Box κ ρ := { b with batch := none }

/-- The oldest record is taken. -/
def pop (b : Box κ ρ) : Box κ ρ := { b with queue := b.queue.tail }

/-- The batches to work on, the current one first. -/
def batches (b : Box κ ρ) : List (Batch κ) :=
  b.batch.toList ++ if raised : b.raised.Nonempty then [⟨b.raised, raised⟩] else []

/-- There is a record for every batch to work on. -/
def Covered (b : Box κ ρ) : Prop := b.batches.length ≤ b.queue.length

variable {b : Box κ ρ} {capacity : Option Nat} {kind : κ} {record : ρ}

@[simp] theorem fetch_queue (b : Box κ ρ) : b.fetch.queue = b.queue := by
  unfold fetch
  split <;> rfl

@[simp] theorem finish_queue (b : Box κ ρ) : b.finish.queue = b.queue := rfl

@[simp] theorem finish_raised (b : Box κ ρ) : b.finish.raised = b.raised := rfl

@[simp] theorem finish_batch (b : Box κ ρ) : b.finish.batch = none := rfl

@[simp] theorem pop_batches (b : Box κ ρ) : b.pop.batches = b.batches := rfl

@[simp] theorem pop_queue (b : Box κ ρ) : b.pop.queue = b.queue.tail := rfl

/-- Fetching turns the raised signals into the current batch. -/
theorem batches_fetch (idle : b.batch = none) : b.fetch.batches = b.batches := by
  by_cases raised : b.raised.Nonempty
  · simp [fetch, batches, raised, idle]
  · simp [fetch, raised]

theorem batches_finish {current : Batch κ} (busy : b.batch = some current) :
    b.batches = current :: b.finish.batches := by
  unfold batches
  rw [busy]
  rfl

theorem batches_eq_nil_iff : b.batches = [] ↔ b.batch = none ∧ b.raised = ∅ := by
  by_cases raised : b.raised.Nonempty
  · simp [batches, raised, raised.ne_empty]
  · simp [batches, Finset.not_nonempty_iff_eq_empty.mp raised]

theorem batches_length_le_two (b : Box κ ρ) : b.batches.length ≤ 2 := by
  unfold batches
  cases b.batch <;> split <;> simp

/-- Two batches to work on are the current one and the raised signals. -/
theorem of_batches_eq_pair {current next : Batch κ} (two : b.batches = [current, next]) :
    b.batch = some current ∧ b.raised = next.val := by
  unfold batches at two
  cases batch : b.batch with
  | none =>
    have few := congrArg List.length two
    rw [batch] at few
    split at few <;> simp at few
  | some event =>
    rw [batch] at two
    split at two
    · simp only [Option.toList_some, List.cons_append, List.nil_append, List.cons.injEq,
        and_true] at two
      exact ⟨congrArg some two.1, congrArg Subtype.val two.2⟩
    · simp at two

theorem Covered.queue_ne_nil (covered : b.Covered) (busy : b.batches ≠ []) : b.queue ≠ [] := by
  rintro empty
  have none := covered
  rw [Covered, empty, List.length_nil, Nat.le_zero, List.length_eq_zero_iff] at none
  exact busy none

theorem Covered.fetch (covered : b.Covered) (idle : b.batch = none) : b.fetch.Covered := by
  unfold Covered
  rw [batches_fetch idle, fetch_queue]
  exact covered

/-- Finishing a batch frees the record it may have taken. -/
theorem Covered.finish {current : Batch κ} (covered : b.Covered) (busy : b.batch = some current) :
    b.finish.Covered ∧ b.finish.pop.Covered := by
  have fewer : b.batches.length = b.finish.batches.length + 1 := by
    rw [batches_finish busy, List.length_cons]
  unfold Covered at covered ⊢
  constructor
  · rw [finish_queue]
    omega
  · rw [pop_batches, pop_queue, finish_queue, List.length_tail]
    omega

section Post
variable [DecidableEq κ]

def post (capacity : Option Nat) (kind : κ) (record : ρ) (b : Box κ ρ) : Box κ ρ :=
  { b with
    raised := insert kind b.raised
    queue := if b.HasRoom capacity then b.queue ++ [record] else b.queue }

@[simp] theorem post_batch (capacity : Option Nat) (kind : κ) (record : ρ) (b : Box κ ρ) :
    (b.post capacity kind record).batch = b.batch := rfl

@[simp] theorem post_queue_unbounded (kind : κ) (record : ρ) (b : Box κ ρ) :
    (b.post none kind record).queue = b.queue ++ [record] := by
  simp [post, HasRoom]

/-- A post to a quiet box makes a batch of its own. -/
theorem batches_post_quiet (quiet : b.raised = ∅) :
    (b.post capacity kind record).batches = b.batches ++ [Batch.single kind] := by
  simp [batches, post, quiet, Batch.single]

/-- A post to a box with raised signals joins their batch. -/
theorem batches_post_raised (raised : b.raised ≠ ∅) :
    (b.post capacity kind record).batches.length = b.batches.length := by
  simp [batches, post, Finset.nonempty_iff_ne_empty.mpr raised]

theorem batches_post_le (capacity : Option Nat) (kind : κ) (record : ρ) (b : Box κ ρ) :
    (b.post capacity kind record).batches.length ≤ b.batches.length + 1 := by
  by_cases quiet : b.raised = ∅
  · simp [batches_post_quiet quiet]
  · simp [batches_post_raised quiet]

/-- A post keeps a record for every batch unless the queue holds a single record and the
consumer is busy. -/
theorem Covered.post (covered : b.Covered)
    (roomy : ∀ n ∈ capacity, 1 < n ∨ 0 < n ∧ b.batch = none) :
    (b.post capacity kind record).Covered := by
  by_cases room : b.HasRoom capacity
  · have grown := batches_post_le capacity kind record b
    have kept : (b.post capacity kind record).queue.length = b.queue.length + 1 := by
      simp [Box.post, room]
    unfold Covered at covered ⊢
    omega
  · obtain ⟨n, bound, full⟩ : ∃ n ∈ capacity, n ≤ b.queue.length := by
      simpa [HasRoom] using room
    have kept : (b.post capacity kind record).queue = b.queue := by simp [Box.post, room]
    unfold Covered
    rw [kept]
    rcases roomy n bound with several | ⟨positive, idle⟩
    · have few := batches_length_le_two (b.post capacity kind record)
      omega
    · have single : (b.post capacity kind record).batches.length ≤ 1 := by
        simp only [batches, post_batch, idle, Option.toList_none, List.nil_append]
        split <;> simp
      omega

end Post

end Box

end PowerMonitor.SignalledQueue
