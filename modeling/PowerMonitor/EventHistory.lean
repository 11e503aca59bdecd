import Mathlib.Data.List.Induction

/-! Histories of events. A condition on each event of a history may look at the events before
it; an invariant of a machine is carried over a history, and an earlier state to a later one,
by what a single event preserves. -/
namespace PowerMonitor.EventHistory

variable {ε ε' σ σ' : Type}

/-- Every event of the history meets the condition, given the events before it. -/
def AtEach (meets : List ε → ε → Prop) (events : List ε) : Prop :=
  ∀ before e after, events = before ++ e :: after → meets before e

theorem at_each_snoc {meets : List ε → ε → Prop} {events : List ε} {e : ε} :
    AtEach meets (events ++ [e]) ↔ AtEach meets events ∧ meets events e := by
  constructor
  · intro all
    refine ⟨?_, all events e [] rfl⟩
    rintro before first after rfl
    exact all before first (after ++ [e]) (by simp)
  · rintro ⟨earlier, last⟩ before first after split
    rcases List.eq_nil_or_concat after with rfl | ⟨rest, final, rfl⟩
    · obtain ⟨rfl, same⟩ := List.append_inj' split rfl
      obtain rfl := List.singleton_inj.mp same
      exact last
    · rw [List.concat_eq_append, ← List.cons_append, ← List.append_assoc] at split
      exact earlier before first rest (List.append_inj' split rfl).1

theorem at_each_congr {meets other : List ε → ε → Prop} {events : List ε}
    (agree : ∀ before, ∀ e ∈ events, (meets before e ↔ other before e)) :
    AtEach meets events ↔ AtEach other events := by
  constructor
  · rintro all before e after rfl
    exact (agree before e (by simp)).mp (all before e after rfl)
  · rintro all before e after rfl
    exact (agree before e (by simp)).mpr (all before e after rfl)

/-- A condition that does not look at the earlier events is one on the members. -/
theorem at_each_iff_mem {holds : ε → Prop} {events : List ε} :
    AtEach (fun _ => holds) events ↔ ∀ e ∈ events, holds e := by
  constructor
  · intro all e member
    obtain ⟨before, after, split⟩ := List.append_of_mem member
    exact all before e after split
  · rintro all before e after rfl
    exact all e (by simp)

/-- More events none of which has to meet anything. -/
theorem at_each_append {meets : List ε → ε → Prop} {events more : List ε}
    (earlier : AtEach meets events) (free : ∀ before, ∀ e ∈ more, meets before e) :
    AtEach meets (events ++ more) := by
  induction more using List.reverseRecOn with
  | nil => simpa using earlier
  | append_singleton more e ih =>
    rw [← List.append_assoc, at_each_snoc]
    exact ⟨ih fun before first member => free before first (by simp [member]),
      free _ e (by simp)⟩

theorem at_each_earlier {meets : List ε → ε → Prop} {before events : List ε}
    (all : AtEach meets events) (earlier : before <+: events) : AtEach meets before := by
  obtain ⟨rest, rfl⟩ := earlier
  rintro first e after rfl
  exact all first e (after ++ rest) (by simp)

/-- What every event preserves holds after any history. -/
theorem foldl_invariant {step : σ → ε → σ} {holds : σ → Prop}
    (preserved : ∀ s e, holds s → holds (step s e)) (events : List ε) {s : σ} (start : holds s) :
    holds (events.foldl step s) := by
  induction events generalizing s with
  | nil => exact start
  | cons e events ih => exact ih (preserved s e start)

/-- What does not hold at the start and holds in the end begins to hold with some event. -/
theorem exists_first (step : σ → ε → σ) (holds : σ → Prop) (events : List ε) {s : σ}
    (start : ¬ holds s) (reached : holds (events.foldl step s)) :
    ∃ before e after, events = before ++ e :: after ∧ ¬ holds (before.foldl step s) ∧
      holds ((before ++ [e]).foldl step s) := by
  induction events generalizing s with
  | nil => exact absurd reached start
  | cons e events ih =>
    by_cases now : holds (step s e)
    · exact ⟨[], e, events, rfl, start, now⟩
    · obtain ⟨before, first, after, split, earlier, begins⟩ := ih now reached
      exact ⟨e :: before, first, after, by rw [split]; rfl, earlier, begins⟩

/-- Events that change nothing visible can be left out of a history: two runs stay alike when a
visible event keeps them alike and a hidden one can be made by one of them alone. -/
theorem foldl_filter {step : σ → ε → σ} {r : σ → σ → Prop} {visible : ε → Bool}
    (together : ∀ s s' e, visible e = true → r s s' → r (step s e) (step s' e))
    (alone : ∀ s s' e, visible e = false → r s s' → r (step s e) s')
    (events : List ε) {s s' : σ} (start : r s s') :
    r (events.foldl step s) ((events.filter visible).foldl step s') := by
  induction events generalizing s s' with
  | nil => exact start
  | cons e events ih =>
    cases seen : visible e with
    | true =>
      rw [List.filter_cons_of_pos seen]
      exact ih (together s s' e seen start)
    | false =>
      rw [List.filter_cons_of_neg (by simp [seen])]
      exact ih (alone s s' e seen start)

/-! ## Simulation -/

/-- A view of one machine steps as another machine does: in every state that meets the invariant,
each event that may happen is one event of the other machine, or changes nothing in the view. -/
structure Simulates (step : σ → ε → σ) (step' : σ' → ε' → σ') (view : σ → σ')
    (event : σ → ε → Option ε') (holds : σ → Prop) (may : ε → Prop) : Prop where
  preserved : ∀ s e, may e → holds s → holds (step s e)
  matched : ∀ s e, may e → holds s → view (step s e) =
    match event s e with
    | some e' => step' (view s) e'
    | none => view s

/-- The history the other machine has meanwhile. -/
def seen (step : σ → ε → σ) (event : σ → ε → Option ε') (s : σ) : List ε → List ε'
  | [] => []
  | e :: events => (event s e).toList ++ seen step event (step s e) events

/-- The view of a run is a run. -/
theorem Simulates.run {step : σ → ε → σ} {step' : σ' → ε' → σ'} {view : σ → σ'}
    {event : σ → ε → Option ε'} {holds : σ → Prop} {may : ε → Prop}
    (simulates : Simulates step step' view event holds may) (events : List ε)
    (allowed : ∀ e ∈ events, may e) {s : σ} (start : holds s) :
    view (events.foldl step s) = (seen step event s events).foldl step' (view s) := by
  induction events generalizing s with
  | nil => rfl
  | cons e events ih =>
    have here : may e := allowed e List.mem_cons_self
    have later := ih (fun e' member => allowed e' (List.mem_cons_of_mem e member))
      (simulates.preserved s e here start)
    rw [List.foldl_cons, later, seen, List.foldl_append, simulates.matched s e here start]
    cases event s e with
    | none => rfl
    | some e' => rfl

end PowerMonitor.EventHistory
