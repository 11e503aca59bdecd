import Mathlib.Data.List.Nodup
import Mathlib.Data.List.Count

/-! Keys enrolled at first sight. A pass over a list of keys enrolls every key that is not
known yet and that a resolver answers; a key the resolver does not answer is tried again at
its next occurrence, and misses again. The pass is compared with the distinct keys of the
list, and passes are composed. -/
namespace PowerMonitor.FirstSight

variable {κ ν : Type} [DecidableEq κ]

/-- The keys one pass enrolls, in the order it meets them. -/
def fresh (known : List κ) (answer : κ → Option ν) : List κ → List κ
  | [] => []
  | key :: keys =>
    if key ∈ known ∨ answer key = none then fresh known answer keys
    else key :: fresh (key :: known) answer keys

/-- Filtering commutes with keeping first occurrences. -/
private theorem filter_eraseDups (keep : κ → Bool) (keys : List κ) :
    (keys.filter keep).eraseDups = keys.eraseDups.filter keep := by
  cases keys with
  | nil => rfl
  | cons key keys =>
    have rest := filter_eraseDups keep (keys.filter fun other => !other == key)
    by_cases kept : keep key = true
    · rw [List.filter_cons_of_pos kept, List.eraseDups_cons, List.eraseDups_cons,
        List.filter_cons_of_pos kept, ← rest, List.filter_filter, List.filter_filter]
      simp only [Bool.and_comm]
    · rw [List.filter_cons_of_neg kept, List.eraseDups_cons, List.filter_cons_of_neg kept, ← rest,
        List.filter_filter]
      congr 1
      apply List.filter_congr
      intro other _
      by_cases same : other = key
      · subst same; simpa using kept
      · simp [same]
termination_by keys.length
decreasing_by
  have bound := List.length_filter_le (fun other => !other == key) keys
  simp only [List.length_cons]
  omega

/-- The first occurrence of the head, then those of the other keys. -/
private theorem eraseDups_cons_filter (key : κ) (keys : List κ) :
    (key :: keys).eraseDups = key :: keys.eraseDups.filter fun other => !other == key := by
  rw [List.eraseDups_cons, filter_eraseDups]

theorem nodup_eraseDups (keys : List κ) : keys.eraseDups.Nodup := by
  induction keys with
  | nil => simp
  | cons key keys ih =>
    rw [eraseDups_cons_filter, List.nodup_cons]
    exact ⟨by simp, ih.filter _⟩

/-- A pass enrolls the distinct keys that were unknown and are answered. -/
theorem fresh_eq_filter (known : List κ) (answer : κ → Option ν) (keys : List κ) :
    fresh known answer keys =
      keys.eraseDups.filter fun key => decide (key ∉ known) && (answer key).isSome := by
  induction keys generalizing known with
  | nil => rfl
  | cons key keys ih =>
    rw [eraseDups_cons_filter]
    by_cases skipped : key ∈ known ∨ answer key = none
    · rw [fresh, if_pos skipped, ih, List.filter_cons_of_neg, List.filter_filter]
      · apply List.filter_congr
        intro other _
        by_cases same : other = key
        · subst same
          rcases skipped with held | missed
          · simp [held]
          · simp [missed]
        · simp [same]
      · rcases skipped with held | missed
        · simp [held]
        · simp [missed]
    · rw [fresh, if_neg skipped, ih, List.filter_cons_of_pos, List.filter_filter]
      · congr 1
        apply List.filter_congr
        intro other _
        simp only [List.mem_cons, not_or]
        by_cases same : other = key <;> simp [same]
      · obtain ⟨unknown, answered⟩ := not_or.mp skipped
        simpa [unknown, Option.isSome_iff_ne_none] using answered

theorem mem_fresh {known : List κ} {answer : κ → Option ν} {keys : List κ} {key : κ} :
    key ∈ fresh known answer keys ↔ key ∈ keys ∧ key ∉ known ∧ (answer key).isSome := by
  simp [fresh_eq_filter, List.mem_eraseDups]

theorem fresh_nodup (known : List κ) (answer : κ → Option ν) (keys : List κ) :
    (fresh known answer keys).Nodup := by
  rw [fresh_eq_filter]
  exact (nodup_eraseDups keys).filter _

/-- A pass enrolls no more keys than the list has distinct ones. -/
theorem fresh_length_le (known : List κ) (answer : κ → Option ν) (keys : List κ) :
    (fresh known answer keys).length ≤ keys.eraseDups.length := by
  rw [fresh_eq_filter]
  exact List.length_filter_le _ _

/-- The key is held once a pass with this resolver is over. -/
def held (known : List κ) (answer : κ → Option ν) (key : κ) : Bool :=
  decide (key ∈ known) || (answer key).isSome

@[simp] theorem held_eq_true {known : List κ} {answer : κ → Option ν} {key : κ} :
    held known answer key = true ↔ key ∈ known ∨ (answer key).isSome := by
  simp [held]

/-- Enrolling an answered key on the way does not change what is held at the end. -/
theorem held_cons {known : List κ} {answer : κ → Option ν} {key : κ}
    (answered : (answer key).isSome) : held (key :: known) answer = held known answer := by
  funext other
  by_cases same : other = key
  · subst same; simp [held, answered]
  · simp [held, same]

end PowerMonitor.FirstSight
