/-! The first element of a list that meets a condition, and the searches of the list library
that stop there. -/
namespace PowerMonitor.FirstMatch

variable {α β : Type} {meets other : α → Prop} {x y : α} {l : List α}

/-- The element meets the condition and nothing before it in the list does. -/
def IsFirst (meets : α → Prop) (l : List α) (x : α) : Prop :=
  ∃ before after, l = before ++ x :: after ∧ meets x ∧ ∀ y ∈ before, ¬ meets y

/-- Conditions that agree on the list have the same first element. -/
theorem is_first_congr (agree : ∀ y ∈ l, (meets y ↔ other y)) :
    IsFirst meets l x ↔ IsFirst other l x := by
  constructor
  · rintro ⟨before, after, rfl, met, earlier⟩
    exact ⟨before, after, rfl, (agree x (by simp)).mp met,
      fun y member => mt (agree y (by simp [member])).mpr (earlier y member)⟩
  · rintro ⟨before, after, rfl, met, earlier⟩
    exact ⟨before, after, rfl, (agree x (by simp)).mpr met,
      fun y member => mt (agree y (by simp [member])).mp (earlier y member)⟩

theorem find?_eq_some_iff_first (p : α → Bool) :
    l.find? p = some x ↔ IsFirst (p · = true) l x := by
  rw [List.find?_eq_some_iff_append, IsFirst]
  constructor
  · rintro ⟨met, before, after, rfl, earlier⟩
    exact ⟨before, after, rfl, met, fun y member => by simpa using earlier y member⟩
  · rintro ⟨before, after, rfl, met, earlier⟩
    exact ⟨met, before, after, rfl, fun y member => by simpa using earlier y member⟩

/-- A search for an offer takes the first element that makes one. -/
theorem findSome?_eq_some_iff_first (offer : α → Option β) (b : β) :
    l.findSome? offer = some b ↔
      ∃ x, IsFirst (fun y => (offer y).isSome = true) l x ∧ offer x = some b := by
  rw [List.findSome?_eq_some_iff]
  constructor
  · rintro ⟨before, x, after, rfl, offered, earlier⟩
    exact ⟨x, ⟨before, after, rfl, by simp [offered], fun y member => by simp [earlier y member]⟩,
      offered⟩
  · rintro ⟨x, ⟨before, after, rfl, -, earlier⟩, offered⟩
    exact ⟨before, x, after, rfl, offered, fun y member => by simpa using earlier y member⟩

end PowerMonitor.FirstMatch
