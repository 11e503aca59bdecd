import PowerMonitor.DelayedCopy
import Mathlib.Data.Nat.Count

/-! Progress of a machine towards a goal. Steps of one kind, whenever they come, bring it nearer,
and the others do not take it away again; so it is there after enough steps of that kind,
however many others come between. -/
namespace PowerMonitor.Progress
open DelayedCopy

variable {σ ε : Type} {step : σ → ε → σ} {start : σ} {schedule : ℕ → ε}
  {may : ε → Prop} {helps : ε → Prop} {near : ℕ → σ → Prop}

/-- The machine is near a goal: at most so many steps that help lead to it. -/
structure Approaches (step : σ → ε → σ) (may helps : ε → Prop) (near : ℕ → σ → Prop) : Prop where
  kept : ∀ m s e, may e → near m s → near m (step s e)
  nearer : ∀ m s e, may e → helps e → near (m + 1) s → near m (step s e)

/-- What the helping steps so far have left to go. -/
theorem Approaches.left [DecidablePred helps] (approaches : Approaches step may helps near)
    (close : near m (states step start schedule k)) (later : k ≤ t)
    (allowed : ∀ j, k ≤ j → j < t → may (schedule j)) :
    near (m - (Nat.count (fun j => helps (schedule j)) t -
        Nat.count (fun j => helps (schedule j)) k))
      (states step start schedule t) := by
  induction t, later using Nat.le_induction with
  | base => simpa using close
  | succ t later ih =>
    have before := ih fun j after earlier => allowed j after (Nat.lt_succ_of_lt earlier)
    have now := allowed t later (Nat.lt_succ_self t)
    have grown := Nat.count_monotone (fun j => helps (schedule j)) later
    rw [Nat.count_succ]
    generalize Nat.count (fun j => helps (schedule j)) t = passed at before grown ⊢
    generalize Nat.count (fun j => helps (schedule j)) k = first at before grown ⊢
    by_cases helping : helps (schedule t)
    · rw [if_pos helping]
      cases rest : m - (passed - first) with
      | zero =>
        have none : m - (passed + 1 - first) = 0 := by omega
        rw [none]
        rw [rest] at before
        exact approaches.kept _ _ _ now before
      | succ rest' =>
        have fewer : m - (passed + 1 - first) = rest' := by omega
        rw [fewer]
        rw [rest] at before
        exact approaches.nearer _ _ _ now helping before
    · rw [if_neg helping, Nat.add_zero]
      exact approaches.kept _ _ _ now before

/-- The machine is at the goal after enough steps that help. -/
theorem Approaches.reached [DecidablePred helps] (approaches : Approaches step may helps near)
    (close : near m (states step start schedule k)) (later : k ≤ t)
    (allowed : ∀ j, k ≤ j → j < t → may (schedule j))
    (enough : Nat.count (fun j => helps (schedule j)) k + m ≤
      Nat.count (fun j => helps (schedule j)) t) :
    near 0 (states step start schedule t) := by
  have left := approaches.left close later allowed
  rwa [Nat.sub_eq_zero_of_le (by omega)] at left

end PowerMonitor.Progress
