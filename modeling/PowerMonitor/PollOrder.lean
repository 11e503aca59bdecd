import PowerMonitor.PollRun

/-! Which characteristics the passes of `master_read` visit, and with which entries. `err` is
the guard of the inner loop and is never reset, so one `ESP_ERR_NOT_FOUND` ends all polling;
`param_descriptor` is never cleared, so a failed lookup polls with the entry left before. -/
namespace PowerMonitor.PollOrder
open EspIdf MasterRead MasterVisit PollRun

/-- A pass visits all characteristics in order, and requests only entries that were delivered
for the characteristic in that visit. -/
structure PollsEvery (pass : List Visit) : Prop where
  inOrder : pass.map (·.cid) = List.finRange 7
  fresh : ∀ v ∈ pass, ∀ d, v.after.requested = some d →
    v.answers.info = espOk ∧ d = entryOf v.cid

/-- The visit of `cid` in `pass` comes after that of `other` in `earlier`. -/
def After (pass : Nat) (cid : Cid) (earlier : Nat) (other : Cid) : Prop :=
  earlier < pass ∨ earlier = pass ∧ other < cid

/-- No call answers `ESP_ERR_NOT_FOUND`, and no lookup fails after one that succeeded. -/
structure Undisturbed (answers : Nat → Cid → Answers) : Prop where
  lookup : ∀ pass cid, (answers pass cid).info ≠ espErrNotFound
  request : ∀ pass cid, (answers pass cid).info = espOk →
    (answers pass cid).transfer ≠ espErrNotFound
  steady : ∀ pass cid earlier other, After pass cid earlier other →
    (answers earlier other).info = espOk → (answers pass cid).info = espOk

section Loop
variable {answers : Cid → Answers} {cids : List Cid} {cid : Cid} {s : State}

/-- After a loop an entry is kept when one was before it or a lookup in it succeeded. -/
private theorem poll_loop_descriptor (answers : Cid → Answers) (cids : List Cid) (s : State) :
    (pollLoop answers cids s).2.paramDescriptor.isSome ↔
      s.paramDescriptor.isSome ∨ ∃ v ∈ (pollLoop answers cids s).1, v.answers.info = espOk := by
  induction cids generalizing s with
  | nil => simp [pollLoop]
  | cons cid cids ih =>
    by_cases stops : s.err = espErrNotFound
    · simp [poll_loop_stop answers _ s stops]
    · rw [poll_loop_cons answers cid cids s stops]
      simp only [ih, visit_descriptor, List.mem_cons, exists_eq_or_imp]
      by_cases found : (answers cid).info = espOk <;> simp [found]

/-- A visit leaves the guard open when neither of its calls answers `ESP_ERR_NOT_FOUND`. -/
private theorem visit_goes (lookup : (answers cid).info ≠ espErrNotFound)
    (request : (answers cid).info = espOk → (answers cid).transfer ≠ espErrNotFound)
    (steady : s.paramDescriptor.isSome → (answers cid).info = espOk) :
    (s.visit cid (answers cid)).err ≠ espErrNotFound := by
  rw [visit_err]
  split
  · rename_i requested
    apply request
    by_contra failed
    simp only [used, lookup, ↓reduceIte, failed] at requested
    exact failed (steady requested)
  · exact lookup

/-- A visit requests the entry just delivered when no lookup fails after a success. -/
private theorem visit_fresh (steady : s.paramDescriptor.isSome → (answers cid).info = espOk)
    (requested : (s.visit cid (answers cid)).requested = some d) :
    (answers cid).info = espOk ∧ d = entryOf cid := by
  rw [visit_requested] at requested
  unfold used at requested
  split at requested
  · cases requested
  · split at requested
    · rename_i ok
      exact ⟨ok, (Option.some.inj requested).symm⟩
    · rename_i failed
      exact absurd (steady (by simp [requested])) failed

/-- A loop that is not disturbed makes all its visits, on fresh entries, and leaves the guard
open. -/
private theorem poll_loop_undisturbed (goes : s.err ≠ espErrNotFound)
    (lookup : ∀ cid ∈ cids, (answers cid).info ≠ espErrNotFound)
    (request : ∀ cid ∈ cids, (answers cid).info = espOk →
      (answers cid).transfer ≠ espErrNotFound)
    (steady : cids.Pairwise fun first second =>
      (answers first).info = espOk → (answers second).info = espOk)
    (carried : s.paramDescriptor.isSome → ∀ cid ∈ cids, (answers cid).info = espOk) :
    (pollLoop answers cids s).1.map (·.cid) = cids ∧
      (∀ v ∈ (pollLoop answers cids s).1, ∀ d, v.after.requested = some d →
        v.answers.info = espOk ∧ d = entryOf v.cid) ∧
      (pollLoop answers cids s).2.err ≠ espErrNotFound := by
  induction cids generalizing s with
  | nil => exact ⟨rfl, (fun v member => nomatch member), goes⟩
  | cons cid cids ih =>
    rw [poll_loop_cons answers cid cids s goes]
    have here := List.mem_cons_self (a := cid) (l := cids)
    obtain ⟨later, rest⟩ := List.pairwise_cons.mp steady
    obtain ⟨order, fresh, last⟩ := ih
      (visit_goes (lookup cid here) (request cid here) fun kept => carried kept cid here)
      (fun other member => lookup other (List.mem_cons_of_mem _ member))
      (fun other member => request other (List.mem_cons_of_mem _ member)) rest
      (fun kept other member => by
        rw [visit_descriptor] at kept
        split at kept
        · rename_i ok
          exact later other member ok
        · exact carried kept other (List.mem_cons_of_mem _ member))
    refine ⟨by simp [order], fun v member d requested => ?_, last⟩
    rcases List.mem_cons.mp member with rfl | member
    · exact visit_fresh (fun kept => carried kept cid here) requested
    · exact fresh v member d requested

/-- A loop that makes its first visit had the guard open. -/
private theorem goes_of_full
    (full : (pollLoop answers (cid :: cids) s).1.map (·.cid) = cid :: cids) :
    s.err ≠ espErrNotFound := by
  intro stops
  rw [poll_loop_stop answers _ s stops] at full
  cases full

/-- A loop that makes all its visits and leaves the guard open had it open throughout. -/
private theorem poll_loop_complete (full : (pollLoop answers cids s).1.map (·.cid) = cids)
    (last : (pollLoop answers cids s).2.err ≠ espErrNotFound) :
    ∀ v ∈ (pollLoop answers cids s).1, v.after.err ≠ espErrNotFound := by
  induction cids generalizing s with
  | nil => exact fun v member => nomatch member
  | cons cid cids ih =>
    have goes := goes_of_full full
    rw [poll_loop_cons answers cid cids s goes] at full last ⊢
    have rest := ih (List.cons.inj full).2 last
    intro v member
    rcases List.mem_cons.mp member with rfl | member
    · -- The next visit, or else the end of the loop, finds the guard open.
      intro stops
      rw [poll_loop_stop answers _ _ stops] at last
      exact last stops
    · exact rest v member

/-- A loop on fresh entries has no failing lookup after a successful one. -/
private theorem poll_loop_steady (full : (pollLoop answers cids s).1.map (·.cid) = cids)
    (lookup : ∀ cid ∈ cids, (answers cid).info ≠ espErrNotFound)
    (fresh : ∀ v ∈ (pollLoop answers cids s).1, ∀ d, v.after.requested = some d →
      v.answers.info = espOk ∧ d = entryOf v.cid) :
    (cids.Pairwise fun first second =>
        (answers first).info = espOk → (answers second).info = espOk) ∧
      (s.paramDescriptor.isSome → ∀ cid ∈ cids, (answers cid).info = espOk) := by
  induction cids generalizing s with
  | nil => simp
  | cons cid cids ih =>
    have goes := goes_of_full full
    rw [poll_loop_cons answers cid cids s goes] at full fresh
    obtain ⟨pairwise, carried⟩ := ih (List.cons.inj full).2
      (fun other member => lookup other (List.mem_cons_of_mem _ member))
      (fun v member => fresh v (List.mem_cons_of_mem _ member))
    have now : s.paramDescriptor.isSome → (answers cid).info = espOk := by
      intro kept
      by_contra failed
      obtain ⟨d, descriptor⟩ := Option.isSome_iff_exists.mp kept
      refine failed (fresh _ List.mem_cons_self d ?_).1
      dsimp only
      rw [visit_requested]
      simp [used, lookup cid List.mem_cons_self, failed, descriptor]
    refine ⟨List.pairwise_cons.mpr ⟨fun other member ok => ?_, pairwise⟩,
      fun kept other member => ?_⟩
    · exact carried (by simp [visit_descriptor, ok]) other member
    · rcases List.mem_cons.mp member with rfl | member
      · exact now kept
      · exact carried (by simp [visit_descriptor, now kept]) other member

end Loop

variable {answers : Nat → Cid → Answers} {store : Store} {pass : Nat}

/-- The state before a pass of a run. -/
abbrev stateAt (answers : Nat → Cid → Answers) (store : Store) (pass : Nat) : State :=
  statesFrom answers { store } pass

private theorem state_at_succ : stateAt answers store (pass + 1) =
    (pollLoop (answers pass) (List.finRange 7) (stateAt answers store pass)).2 := rfl

/-- A pass of an undisturbed run that starts with the guard open and with no entry but one
delivered in an earlier pass. -/
theorem undisturbed_pass (calm : Undisturbed answers) {s : State} (goes : s.err ≠ espErrNotFound)
    (source : s.paramDescriptor.isSome →
      ∃ earlier < pass, ∃ other, (answers earlier other).info = espOk) :
    PollsEvery (poll (answers pass) s).1 ∧ (poll (answers pass) s).2.err ≠ espErrNotFound := by
  have steady : (List.finRange 7).Pairwise fun first second =>
      (answers pass first).info = espOk → (answers pass second).info = espOk :=
    (List.pairwise_lt_finRange 7).imp fun before =>
      calm.steady pass _ pass _ (Or.inr ⟨rfl, before⟩)
  have carried : s.paramDescriptor.isSome →
      ∀ cid ∈ List.finRange 7, (answers pass cid).info = espOk := by
    intro kept cid _
    obtain ⟨earlier, before, other, ok⟩ := source kept
    exact calm.steady pass cid earlier other (Or.inl before) ok
  obtain ⟨order, fresh, last⟩ := poll_loop_undisturbed goes (fun cid _ => calm.lookup pass cid)
    (fun cid _ => calm.request pass cid) steady carried
  exact ⟨⟨order, fresh⟩, last⟩

/-- Before each pass of an undisturbed run the guard is open, and an entry that is kept was
delivered in an earlier pass. -/
theorem undisturbed_state (store : Store) (calm : Undisturbed answers) (pass : Nat) :
    (stateAt answers store pass).err ≠ espErrNotFound ∧
      ((stateAt answers store pass).paramDescriptor.isSome →
        ∃ earlier < pass, ∃ other, (answers earlier other).info = espOk) := by
  induction pass with
  | zero =>
    exact ⟨by simp [stateAt, statesFrom, espOk, espErrNotFound], fun kept => nomatch kept⟩
  | succ pass ih =>
    obtain ⟨goes, source⟩ := ih
    refine ⟨(undisturbed_pass calm goes source).2, fun kept => ?_⟩
    rw [state_at_succ, poll_loop_descriptor] at kept
    rcases kept with kept | ⟨v, member, ok⟩
    · obtain ⟨earlier, before, other, ok⟩ := source kept
      exact ⟨earlier, by omega, other, ok⟩
    · rw [(poll_loop_visit _ _ _ member).1] at ok
      exact ⟨pass, by omega, v.cid, ok⟩

/-- A characteristic is visited in a pass that visits all of them. -/
theorem visited (every : PollsEvery (visits answers store pass)) (cid : Cid) :
    ∃ v ∈ visits answers store pass, v.cid = cid := by
  apply List.mem_map.mp
  rw [every.inOrder]
  exact List.mem_finRange cid

/-- A pass with visits found the guard open. -/
private theorem state_goes (every : PollsEvery (visits answers store pass)) :
    (stateAt answers store pass).err ≠ espErrNotFound := by
  intro stops
  have order := every.inOrder
  rw [visits, poll, poll_loop_stop _ _ _ stops] at order
  cases order

/-- When every pass polls every characteristic, no call answers `ESP_ERR_NOT_FOUND`. -/
theorem answers_of_polls_every (every : ∀ pass, PollsEvery (visits answers store pass))
    (pass : Nat) (cid : Cid) : (answers pass cid).info ≠ espErrNotFound ∧
      ((answers pass cid).info = espOk → (answers pass cid).transfer ≠ espErrNotFound) := by
  obtain ⟨v, member, rfl⟩ := visited (every pass) cid
  have after := poll_loop_complete (every pass).inOrder (state_goes (every (pass + 1))) v member
  obtain ⟨asked, ran⟩ := visit_of_mem member
  rw [ran, asked, visit_err] at after
  refine ⟨fun missing => ?_, fun ok missing => ?_⟩
  · exact after (by simp [used, missing])
  · exact after (by simp [used, ok, missing, espOk, espErrNotFound])

/-- An entry is kept in all passes after one in which a lookup succeeded. -/
private theorem descriptor_kept (every : ∀ pass, PollsEvery (visits answers store pass))
    (ok : (answers earlier other).info = espOk) (before : earlier < pass) :
    (stateAt answers store pass).paramDescriptor.isSome := by
  induction pass with
  | zero => omega
  | succ pass ih =>
    rw [state_at_succ, poll_loop_descriptor]
    by_cases same : earlier = pass
    · subst same
      obtain ⟨v, member, rfl⟩ := visited (every earlier) other
      exact Or.inr ⟨v, member, by rw [(visit_of_mem member).1, ok]⟩
    · exact Or.inl (ih (by omega))

/-- Every pass visits all characteristics in order, on entries delivered in the visit, exactly
when no call ever answers `ESP_ERR_NOT_FOUND` and no lookup fails after one that succeeded. -/
theorem polls_every_iff (answers : Nat → Cid → Answers) (store : Store) :
    (∀ pass, PollsEvery (visits answers store pass)) ↔ Undisturbed answers := by
  constructor
  · intro every
    refine ⟨fun pass cid => (answers_of_polls_every every pass cid).1,
      fun pass cid => (answers_of_polls_every every pass cid).2, ?_⟩
    intro pass cid earlier other after ok
    obtain ⟨pairwise, carried⟩ := poll_loop_steady (every pass).inOrder
      (fun cid _ => (answers_of_polls_every every pass cid).1) (every pass).fresh
    rcases after with before | ⟨rfl, before⟩
    · exact carried (descriptor_kept every ok before) cid (List.mem_finRange cid)
    · have places := List.pairwise_iff_getElem.mp pairwise other.val cid.val (by simp) (by simp)
        before
      simpa using places (by simpa using ok)
  · intro calm pass
    obtain ⟨goes, source⟩ := undisturbed_state store calm pass
    exact (undisturbed_pass calm goes source).1

/-- The request of the first visit answers `ESP_ERR_NOT_FOUND`; every other call succeeds. -/
def voltageNotFound : Nat → Cid → Answers := fun pass cid =>
  ⟨espOk, if pass = 0 ∧ cid = 0 then espErrNotFound else espOk, fun _ => 0⟩

/-- The pass ends there and no later pass visits anything. -/
theorem voltage_not_found_ends_polling :
    ¬ ∀ pass, PollsEvery (visits voltageNotFound (fun _ _ => 0) pass) := by
  intro every
  have second := (every 1).inOrder
  rw [show (visits voltageNotFound (fun _ _ => 0) 1).map (·.cid) = [] by decide] at second
  cases second

end PowerMonitor.PollOrder
