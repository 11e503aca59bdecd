import PowerMonitor.MasterVisit

/-! Rules for the passes of `master_read`: what a visit in a run is, and what holds in every
state of a run when every visit preserves it. -/
namespace PowerMonitor.PollRun
open EspIdf ByteMemory MasterRead

variable {answers : Nat → Cid → Answers} {store : Store} {pass : Nat} {v : Visit}

theorem poll_loop_cons (answers : Cid → Answers) (cid : Cid) (cids : List Cid) (s : State)
    (goes : s.err ≠ espErrNotFound) :
    pollLoop answers (cid :: cids) s =
      (⟨cid, answers cid, s, s.visit cid (answers cid)⟩ ::
          (pollLoop answers cids (s.visit cid (answers cid))).1,
        (pollLoop answers cids (s.visit cid (answers cid))).2) := by
  simp [pollLoop, goes]

theorem poll_loop_stop (answers : Cid → Answers) (cids : List Cid) (s : State)
    (stops : s.err = espErrNotFound) : pollLoop answers cids s = ([], s) := by
  cases cids <;> simp [pollLoop, stops]

/-- A visit of the loop runs its body on the answers for its characteristic. -/
theorem poll_loop_visit (answers : Cid → Answers) (cids : List Cid) (s : State)
    (member : v ∈ (pollLoop answers cids s).1) :
    v.answers = answers v.cid ∧ v.after = v.before.visit v.cid v.answers := by
  induction cids generalizing s with
  | nil => cases member
  | cons cid cids ih =>
    by_cases stops : s.err = espErrNotFound
    · rw [poll_loop_stop answers _ s stops] at member
      cases member
    · rw [poll_loop_cons answers cid cids s stops] at member
      rcases List.mem_cons.mp member with rfl | later
      · exact ⟨rfl, rfl⟩
      · exact ih _ later

/-- What every visit of the loop preserves holds around all of them. -/
theorem poll_loop_invariant (holds : State → Prop) (answers : Cid → Answers) (cids : List Cid)
    (s : State) (start : holds s)
    (preserved : ∀ v ∈ (pollLoop answers cids s).1, holds v.before → holds v.after) :
    (∀ v ∈ (pollLoop answers cids s).1, holds v.before ∧ holds v.after) ∧
      holds (pollLoop answers cids s).2 := by
  induction cids generalizing s with
  | nil => exact ⟨(fun v member => nomatch member), start⟩
  | cons cid cids ih =>
    by_cases stops : s.err = espErrNotFound
    · rw [poll_loop_stop answers _ s stops]
      exact ⟨(fun v member => nomatch member), start⟩
    · rw [poll_loop_cons answers cid cids s stops] at preserved ⊢
      have next := preserved _ List.mem_cons_self start
      obtain ⟨later, last⟩ := ih _ next
        (fun v member => preserved v (List.mem_cons_of_mem _ member))
      refine ⟨fun v member => ?_, last⟩
      rcases List.mem_cons.mp member with rfl | rest
      · exact ⟨start, next⟩
      · exact later v rest

theorem visit_of_mem (member : v ∈ visits answers store pass) :
    v.answers = answers pass v.cid ∧ v.after = v.before.visit v.cid v.answers :=
  poll_loop_visit _ _ _ member

/-- What holds at the start and is preserved by every visit of a run holds around all of
them. -/
theorem visits_invariant (holds : State → Prop) (start : holds { store })
    (preserved : ∀ pass, ∀ v ∈ visits answers store pass, holds v.before → holds v.after)
    (pass : Nat) : ∀ v ∈ visits answers store pass, holds v.before ∧ holds v.after := by
  have states : ∀ pass, holds (statesFrom answers { store } pass) := by
    intro pass
    induction pass with
    | zero => exact start
    | succ pass ih =>
      exact (poll_loop_invariant holds (answers pass) (List.finRange 7) _ ih (preserved pass)).2
  exact (poll_loop_invariant holds (answers pass) (List.finRange 7) _ (states pass)
    (preserved pass)).1

end PowerMonitor.PollRun
