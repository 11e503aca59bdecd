import Mathlib.Data.List.Basic
import Mathlib.Data.List.Induction

/-! How a path is resolved. A position in a tree is the list of the names that lead to it, the
deepest first; a step stays, goes up or goes down. A walk that starts anywhere climbs so many
levels above its start and then descends by names, and where it ends is read off these. -/
namespace PowerMonitor.PathResolution

variable {α : Type}

inductive Step (α : Type) where
  | stay
  | up
  | down (name : α)
  deriving DecidableEq, Repr

/-- One step from a position; above the root is the root. -/
def Step.from (pos : List α) : Step α → List α
  | .stay => pos
  | .up => pos.tail
  | .down name => name :: pos

def walk (steps : List (Step α)) (pos : List α) : List α := steps.foldl Step.from pos

/-- What a walk does wherever it starts: the levels it climbs above its start, and the names
by which it then descends, the deepest first. -/
structure Way (α : Type) where
  climbs : Nat
  names : List α
  deriving DecidableEq, Repr

def Way.extend : Way α → Step α → Way α
  | w, .stay => w
  | ⟨climbs, []⟩, .up => ⟨climbs + 1, []⟩
  | ⟨climbs, _ :: names⟩, .up => ⟨climbs, names⟩
  | ⟨climbs, names⟩, .down name => ⟨climbs, name :: names⟩

def way (steps : List (Step α)) : Way α := steps.foldl Way.extend ⟨0, []⟩

theorem walk_append (first second : List (Step α)) (pos : List α) :
    walk (first ++ second) pos = walk second (walk first pos) := List.foldl_append

/-- Where a walk ends. -/
private theorem walk_eq (steps : List (Step α)) (pos : List α) :
    walk steps pos = (way steps).names ++ pos.drop (way steps).climbs := by
  induction steps using List.reverseRecOn with
  | nil => simp [walk, way]
  | append_singleton steps step ih =>
    have walked : walk (steps ++ [step]) pos = Step.from (walk steps pos) step := by
      simp [walk]
    have extended : way (steps ++ [step]) = (way steps).extend step := by simp [way]
    rw [walked, extended, ih]
    rcases way steps with ⟨climbs, names⟩
    cases step with
    | stay => rfl
    | down name => rfl
    | up =>
      cases names with
      | nil => simp [Step.from, Way.extend]
      | cons name names => rfl

private theorem suffix_cancel_iff (first names pos : List α) :
    first ++ pos <:+ names ++ pos ↔ first <:+ names := by
  constructor
  · rintro ⟨above, same⟩
    exact ⟨above, List.append_cancel_right (by rw [List.append_assoc, same])⟩
  · rintro ⟨above, rfl⟩
    exact ⟨above, by rw [List.append_assoc]⟩

/-- A walk ends below its start exactly when it descends by the names it climbed over. -/
theorem below_start_iff (pos names : List α) (climbs : Nat) :
    pos <:+ names ++ pos.drop climbs ↔ pos.take climbs <:+ names := by
  have whole : pos.take climbs ++ pos.drop climbs = pos := List.take_append_drop climbs pos
  rw [← suffix_cancel_iff (pos.take climbs) names (pos.drop climbs), whole]

/-- Names lead from a position below a target exactly when the position is below it already, or
is above it and the names begin with those that are missing. -/
theorem below_target_iff (target names pos : List α) :
    target <:+ names ++ pos ↔
      target <:+ pos ∨ ∃ missing, target = missing ++ pos ∧ missing <:+ names := by
  constructor
  · intro below
    rcases List.suffix_or_suffix_of_suffix below (List.suffix_append names pos) with here | under
    · exact Or.inl here
    · obtain ⟨missing, rfl⟩ := under
      exact Or.inr ⟨missing, rfl, (suffix_cancel_iff missing names pos).mp below⟩
  · rintro (here | ⟨missing, rfl, leads⟩)
    · exact here.trans (List.suffix_append names pos)
    · exact (suffix_cancel_iff missing names pos).mpr leads

/-! ## Paths as texts -/

/-- What a segment between two slashes means. -/
def stepOf (segment : List Char) : Step (List Char) :=
  if segment = [] ∨ segment = ['.'] then .stay
  else if segment = ['.', '.'] then .up
  else .down segment

def steps (path : List Char) : List (Step (List Char)) := (path.splitOn '/').map stepOf

/-- The position a path leads to from the root. -/
def place (path : List Char) : List (List Char) := walk (steps path) []

private theorem steps_append_slash (first second : List Char) :
    steps (first ++ '/' :: second) = steps first ++ steps second := by
  simp [steps, List.splitOn_append_cons_self]

/-- The part of a text before its first slash, and the part from there on. -/
def lead (path : List Char) : List Char := path.takeWhile (· ≠ '/')

def rest (path : List Char) : List Char := path.dropWhile (· ≠ '/')

private theorem lead_append_rest (path : List Char) : lead path ++ rest path = path :=
  List.takeWhile_append_dropWhile

private theorem rest_cases (path : List Char) :
    rest path = [] ∨ ∃ more, rest path = '/' :: more := by
  induction path with
  | nil => exact Or.inl rfl
  | cons c path ih =>
    by_cases slash : c = '/'
    · subst slash
      exact Or.inr ⟨path, rfl⟩
    · simpa [rest, slash] using ih

/-- A text appended to a path runs together with its last segment up to the first slash; the
rest goes its own way from there. -/
theorem place_append (path more : List Char) :
    place (path ++ more) = (way (steps (rest more))).names ++
      (place (path ++ lead more)).drop (way (steps (rest more))).climbs := by
  have split : path ++ more = path ++ lead more ++ rest more := by
    rw [List.append_assoc, lead_append_rest]
  rw [split, ← walk_eq]
  rcases rest_cases more with none | ⟨tail, slash⟩
  · rw [none, List.append_nil]
    rfl
  · rw [slash, place, steps_append_slash, walk_append]
    rfl

end PowerMonitor.PathResolution
