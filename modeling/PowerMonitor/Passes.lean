import PowerMonitor.ControlLoop
import PowerMonitor.PollRun

/-! The master among the other tasks is still `master_read`: what the steps of the system make it
do are passes over the characteristics, one after the other, the last one unfinished. -/
namespace PowerMonitor.Passes
open EspIdf MasterRead PollRun ControlLoop

variable {answers answers' : Nat → Cid → Answers} {s : MasterRead.State} {cid : Cid}

/-- The loop makes the last visit when those before it have not stopped it. -/
theorem poll_loop_snoc (answers : Cid → Answers) (cids : List Cid) (cid : Cid)
    (s : MasterRead.State) : (pollLoop answers (cids ++ [cid]) s).2 =
      if (pollLoop answers cids s).2.err ≠ espErrNotFound then
        (pollLoop answers cids s).2.visit cid (answers cid)
      else (pollLoop answers cids s).2 := by
  induction cids generalizing s with
  | nil => by_cases stops : s.err = espErrNotFound <;> simp [pollLoop, stops]
  | cons first cids ih =>
    by_cases stops : s.err = espErrNotFound
    · simp [poll_loop_stop answers _ s stops, stops]
    · rw [List.cons_append, poll_loop_cons answers first _ s stops,
        poll_loop_cons answers first _ s stops]
      exact ih _

/-- The loop asks for the answers of its own characteristics only. -/
private theorem poll_loop_congr {answers answers' : Cid → Answers} {cids : List Cid}
    (same : ∀ cid ∈ cids, answers cid = answers' cid) (s : MasterRead.State) :
    pollLoop answers cids s = pollLoop answers' cids s := by
  induction cids generalizing s with
  | nil => rfl
  | cons cid cids ih =>
    by_cases stops : s.err = espErrNotFound
    · rw [poll_loop_stop _ _ s stops, poll_loop_stop _ _ s stops]
    · rw [poll_loop_cons _ _ _ s stops, poll_loop_cons _ _ _ s stops,
        same cid List.mem_cons_self,
        ih fun other member => same other (List.mem_cons_of_mem _ member)]

private theorem states_from_congr (pass : Nat) (same : ∀ p < pass, answers p = answers' p) :
    statesFrom answers s pass = statesFrom answers' s pass := by
  induction pass with
  | zero => rfl
  | succ pass ih =>
    unfold statesFrom
    rw [ih fun p earlier => same p (Nat.lt_succ_of_lt earlier), same pass (Nat.lt_succ_self pass)]

/-- The state in a pass before a characteristic. -/
def within (answers : Nat → Cid → Answers) (store : Store) (pass : Nat) (cid : Cid) :
    MasterRead.State :=
  (pollLoop (answers pass) ((List.finRange 7).take cid) (statesFrom answers { store } pass)).2

/-- The answers with those of one visit given. -/
def withAnswers (answers : Nat → Cid → Answers) (pass : Nat) (cid : Cid) (a : Answers) :
    Nat → Cid → Answers :=
  fun p c => if p = pass ∧ c = cid then a else answers p c

/-- The answers of a visit do not matter before it. -/
private theorem within_earlier (answers : Nat → Cid → Answers) (store : Store) (pass : Nat)
    (cid : Cid) (a : Answers) :
    within (withAnswers answers pass cid a) store pass cid = within answers store pass cid := by
  unfold within
  have earlier : statesFrom (withAnswers answers pass cid a) { store } pass =
      statesFrom answers { store } pass := by
    apply states_from_congr
    intro p before
    funext c
    exact if_neg fun both => by omega
  rw [earlier]
  congr 1
  apply poll_loop_congr
  intro c member
  apply if_neg
  rintro ⟨_, rfl⟩
  have notBefore : ∀ c : Cid, c ∉ (List.finRange 7).take c := by decide
  exact notBefore c member

/-- One visit more. -/
private theorem within_next (answers : Nat → Cid → Answers) (store : Store) (pass : Nat) (cid : Cid)
    (goes : (within answers store pass cid).err ≠ espErrNotFound) :
    ∃ pass', within answers store pass' (cid + 1) =
      (within answers store pass cid).visit cid (answers pass cid) := by
  have upTo : ∀ c : Cid, (List.finRange 7).take (c.val + 1) = (List.finRange 7).take c ++ [c] := by
    decide
  have visited : (pollLoop (answers pass) ((List.finRange 7).take (cid.val + 1))
      (statesFrom answers { store } pass)).2 =
        (within answers store pass cid).visit cid (answers pass cid) := by
    rw [upTo, poll_loop_snoc]
    exact if_pos goes
  by_cases last : cid = 6
  · subst last
    exact ⟨pass + 1, visited⟩
  · have next : ∀ c : Cid, c ≠ 6 → (c + 1).val = c.val + 1 := by decide
    refine ⟨pass, ?_⟩
    rw [within, next cid last, visited]

/-- In every run of the system the state of the master is one of `master_read`: within some
pass, before the characteristic it is at, for some answers of the Modbus stack. -/
theorem master_runs_passes (launch : Launch) (schedule : ℕ → Event) (t : ℕ) :
    ∃ answers pass, (run launch schedule t).master =
      within answers launch.store pass (run launch schedule t).cid := by
  induction t with
  | zero => exact ⟨fun _ _ => ⟨espOk, espOk, fun _ => 0⟩, 0, rfl⟩
  | succ t ih =>
    show ∃ answers pass, (step (run launch schedule t) (schedule t)).master =
      within answers launch.store pass (step (run launch schedule t) (schedule t)).cid
    generalize run launch schedule t = s at ih ⊢
    obtain ⟨answers, pass, same⟩ := ih
    cases schedule t with
    | motor => exact ⟨answers, pass, same⟩
    | sensor k word => exact ⟨answers, pass, same⟩
    | master turn =>
      by_cases stopped : s.master.err = espErrNotFound
      · rw [step_stopped turn stopped]
        exact ⟨answers, pass, same⟩
      · rw [step_visit turn stopped]
        have same' := within_earlier answers launch.store pass s.cid (s.answers turn)
        rw [← same] at same'
        obtain ⟨pass', next⟩ := within_next (withAnswers answers pass s.cid (s.answers turn))
          launch.store pass s.cid (by rw [same']; exact stopped)
        refine ⟨withAnswers answers pass s.cid (s.answers turn), pass', ?_⟩
        dsimp only
        rw [next, same', withAnswers, if_pos ⟨rfl, rfl⟩]

end PowerMonitor.Passes
