import Mathlib.Data.Set.Basic
import Mathlib.Order.Monotone.Basic

/-! Copies of a changing value. A copy is refreshed from its source in some steps and kept in
the others, so it shows the values of the source late and with gaps, but never out of order. A
copy of a copy is a copy of the first source.

The states of a run are counted from 0; step `t` leads from state `t` to state `t + 1`. -/
namespace PowerMonitor.DelayedCopy

variable {α β σ ε : Type} {refresh : ℕ → Prop} {source middle copy : ℕ → α}

/-- The states of a machine that is given a step for every moment. -/
def states (step : σ → ε → σ) (start : σ) (schedule : ℕ → ε) : ℕ → σ
  | 0 => start
  | t + 1 => step (states step start schedule t) (schedule t)

/-- What every step preserves holds in every state of a run. -/
theorem states_invariant {step : σ → ε → σ} {motive : σ → Prop} {start : σ} (schedule : ℕ → ε)
    (preserved : ∀ s e, motive s → motive (step s e)) (first : motive start) (t : ℕ) :
    motive (states step start schedule t) := by
  induction t with
  | zero => exact first
  | succ t ih => exact preserved _ _ ih

/-- What every step keeps from some state on is kept ever after. -/
theorem states_stable {step : σ → ε → σ} {start : σ} (schedule : ℕ → ε) {view : σ → β}
    {holds : σ → Prop} (preserved : ∀ s e, holds s → holds (step s e))
    (kept : ∀ s e, holds s → view (step s e) = view s)
    (reached : holds (states step start schedule k)) (later : k ≤ t) :
    view (states step start schedule t) = view (states step start schedule k) := by
  suffices holds (states step start schedule t) ∧
      view (states step start schedule t) = view (states step start schedule k) from this.2
  induction t, later using Nat.le_induction with
  | base => exact ⟨reached, rfl⟩
  | succ t later ih => exact ⟨preserved _ _ ih.1, (kept _ _ ih.1).trans ih.2⟩

/-- The steps of a run so far, as a list. -/
theorem states_eq_foldl {step : σ → ε → σ} {start : σ} (schedule : ℕ → ε) (t : ℕ) :
    states step start schedule t = ((List.range t).map schedule).foldl step start := by
  induction t with
  | zero => rfl
  | succ t ih => rw [List.range_succ, List.map_append, List.foldl_append, ← ih]; rfl

/-- A list of steps, as a run that goes on somehow. -/
theorem states_getD {step : σ → ε → σ} {start : σ} (events : List ε) (later : ε) :
    states step start (fun k => events.getD k later) events.length =
      events.foldl step start := by
  rw [states_eq_foldl]
  congr 1
  apply List.ext_getElem
  · simp
  · intro k _ within
    simp [within]

/-- In a step the copy takes the source's new value, or keeps its own. -/
structure Refreshed (refresh : ℕ → Prop) (source copy : ℕ → α) : Prop where
  taken : ∀ t, refresh t → copy (t + 1) = source (t + 1)
  kept : ∀ t, ¬ refresh t → copy (t + 1) = copy t

/-- The copy shows what the last refresh took, if there was one. -/
theorem Refreshed.last (refreshed : Refreshed refresh source copy) (t : ℕ) :
    (∀ k < t, ¬ refresh k) ∧ copy t = copy 0 ∨
      ∃ k < t, refresh k ∧ (∀ j, k < j → j < t → ¬ refresh j) ∧ copy t = source (k + 1) := by
  induction t with
  | zero => exact Or.inl ⟨fun k before => absurd before (Nat.not_lt_zero k), rfl⟩
  | succ t ih =>
    by_cases now : refresh t
    · exact Or.inr ⟨t, Nat.lt_succ_self t, now, fun j _ _ => by omega, refreshed.taken t now⟩
    · rw [refreshed.kept t now]
      have still (j : ℕ) (before : j < t → ¬ refresh j) (bound : j < t + 1) : ¬ refresh j := by
        rcases Nat.lt_succ_iff_lt_or_eq.mp bound with earlier | rfl
        · exact before earlier
        · exact now
      rcases ih with ⟨none, same⟩ | ⟨k, before, refreshes, none, same⟩
      · exact Or.inl ⟨fun k bound => still k (none k) bound, same⟩
      · exact Or.inr ⟨k, Nat.lt_succ_of_lt before, refreshes,
          fun j after bound => still j (none j after) bound, same⟩

/-- The state the latest refresh before `t` led to, or 0. -/
def latest (refresh : ℕ → Prop) [DecidablePred refresh] : ℕ → ℕ
  | 0 => 0
  | t + 1 => if refresh t then t + 1 else latest refresh t

/-- At every moment the copy shows the source as it was at a moment no later, and these moments
are in order; until it shows any of them, it holds one of the initial values. -/
structure Trails (initial : Set α) (sampled : ℕ → ℕ) (source copy : ℕ → α) : Prop where
  inOrder : Monotone sampled
  past : ∀ t, sampled t ≤ t
  unsampled : ∀ t, sampled t = 0 → copy t ∈ initial
  shows : ∀ t, sampled t ≠ 0 → copy t = source (sampled t)

theorem latest_le (refresh : ℕ → Prop) [DecidablePred refresh] (t : ℕ) : latest refresh t ≤ t := by
  induction t with
  | zero => exact Nat.le_refl 0
  | succ t ih =>
    unfold latest
    split
    · exact Nat.le_refl _
    · exact Nat.le_succ_of_le ih

theorem latest_mono (refresh : ℕ → Prop) [DecidablePred refresh] : Monotone (latest refresh) := by
  apply monotone_nat_of_le_succ
  intro t
  have before := latest_le refresh t
  conv => rhs; unfold latest
  split
  · exact Nat.le_succ_of_le before
  · exact Nat.le_refl _

/-- Nothing older is shown after a refresh. -/
theorem latest_fresh [DecidablePred refresh] (refreshed : refresh k) (later : k < t) :
    k < latest refresh t := by
  have here : latest refresh (k + 1) = k + 1 := by simp [latest, refreshed]
  calc k < latest refresh (k + 1) := by omega
    _ ≤ latest refresh t := latest_mono refresh later

/-- A refreshed copy trails its source from its own initial value. -/
theorem trails_of_refreshed [DecidablePred refresh] (refreshed : Refreshed refresh source copy) :
    Trails {copy 0} (latest refresh) source copy := by
  refine ⟨latest_mono refresh, latest_le refresh, fun t => ?_, fun t => ?_⟩
  · induction t with
    | zero => exact fun _ => rfl
    | succ t ih =>
      intro none
      unfold latest at none
      split at none
      · cases none
      · rename_i idle
        rw [refreshed.kept t idle]
        exact ih none
  · induction t with
    | zero => exact fun some => absurd rfl some
    | succ t ih =>
      intro some
      unfold latest at some ⊢
      split at some
      · rename_i refreshes
        rw [if_pos refreshes]
        exact refreshed.taken t refreshes
      · rename_i idle
        rw [if_neg idle, refreshed.kept t idle]
        exact ih some

namespace Trails

variable {initial initial' : Set α} {sampled sampled' : ℕ → ℕ}

/-- A copy of a copy. -/
theorem trans (first : Trails initial sampled source middle)
    (second : Trails initial' sampled' middle copy) :
    Trails (initial ∪ initial') (sampled ∘ sampled') source copy := by
  refine ⟨first.inOrder.comp second.inOrder, fun t => ?_, fun t none => ?_, fun t some => ?_⟩
  · exact Nat.le_trans (first.past _) (second.past t)
  · by_cases unset : sampled' t = 0
    · exact Or.inr (second.unsampled t unset)
    · rw [second.shows t unset]
      exact Or.inl (first.unsampled _ none)
  · have set : sampled' t ≠ 0 := by
      intro unset
      have past := first.past (sampled' t)
      rw [unset] at past
      exact some (by simpa [unset] using past)
    rw [second.shows t set]
    exact first.shows _ some

/-- A function of the copy trails that function of the source. -/
theorem map (f : α → β) (trails : Trails initial sampled source copy) :
    Trails (f '' initial) sampled (f ∘ source) (f ∘ copy) where
  inOrder := trails.inOrder
  past := trails.past
  unsampled t none := ⟨copy t, trails.unsampled t none, rfl⟩
  shows t some := congrArg f (trails.shows t some)

theorem weaken (trails : Trails initial sampled source copy) (more : initial ⊆ initial') :
    Trails initial' sampled source copy :=
  ⟨trails.inOrder, trails.past, fun t none => more (trails.unsampled t none), trails.shows⟩

/-- What holds of the initial values and of the source always holds of the copy. -/
theorem invariant {motive : α → Prop} (trails : Trails initial sampled source copy)
    (first : ∀ a ∈ initial, motive a) (always : ∀ t, motive (source t)) (t : ℕ) :
    motive (copy t) := by
  by_cases none : sampled t = 0
  · exact first _ (trails.unsampled t none)
  · rw [trails.shows t none]
    exact always _

/-- Once the source has stopped changing and was sampled, the copy equals it. -/
theorem settled (trails : Trails initial sampled source copy)
    (still : ∀ t, k ≤ t → source t = source k) (fresh : k < sampled t) : copy t = source k := by
  rw [trails.shows t (by omega)]
  exact still _ (Nat.le_of_lt fresh)

end Trails

/-- A refresh of the middle copy followed by one of the last shows the source as it was then or
later. -/
theorem latest_through {refresh' : ℕ → Prop} [DecidablePred refresh] [DecidablePred refresh']
    (first : refresh k) (second : refresh' m) (between : k ≤ m) (later : m < t) :
    k < (latest refresh ∘ latest refresh') t :=
  latest_fresh first (Nat.lt_of_le_of_lt between (latest_fresh second later))

end PowerMonitor.DelayedCopy
