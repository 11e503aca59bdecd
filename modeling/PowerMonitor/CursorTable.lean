import Mathlib.Data.List.Induction

/-! A table filled through a cursor. Every operation writes the slot under the cursor; a
push also moves the cursor on. Which slots a run of operations decides, and with which
value, is settled here once for any element type. -/
namespace PowerMonitor.CursorTable

variable {α : Type}

/-- A write at the cursor, which stays or moves on. -/
inductive Op (α : Type) where
  | hold (value : α)
  | push (value : α)
  deriving DecidableEq, Repr

/-- The table and the position of its cursor. -/
structure Cursor (α : Type) where
  table : List α
  pos : Nat
  deriving DecidableEq, Repr

def Op.apply (c : Cursor α) : Op α → Cursor α
  | .hold value => { c with table := c.table.set c.pos value }
  | .push value => ⟨c.table.set c.pos value, c.pos + 1⟩

def run (ops : List (Op α)) (c : Cursor α) : Cursor α := ops.foldl Op.apply c

/-- The values pushed, in order. -/
def pushed (ops : List (Op α)) : List α :=
  ops.filterMap fun
    | .push value => some value
    | .hold _ => none

/-- The value left under the cursor when the last operation did not move it. -/
def trailing (ops : List (Op α)) : Option α :=
  match ops.getLast? with
  | some (.hold value) => some value
  | _ => none

@[simp] theorem run_nil (c : Cursor α) : run [] c = c := rfl

@[simp] theorem run_cons (op : Op α) (ops : List (Op α)) (c : Cursor α) :
    run (op :: ops) c = run ops (op.apply c) := rfl

theorem run_append (first second : List (Op α)) (c : Cursor α) :
    run (first ++ second) c = run second (run first c) := List.foldl_append

@[simp] theorem pushed_hold (value : α) (ops : List (Op α)) :
    pushed (.hold value :: ops) = pushed ops := rfl

@[simp] theorem pushed_push (value : α) (ops : List (Op α)) :
    pushed (.push value :: ops) = value :: pushed ops := rfl

@[simp] theorem pushed_nil : pushed ([] : List (Op α)) = [] := rfl

@[simp] theorem trailing_hold (ops : List (Op α)) (value : α) :
    trailing (ops ++ [.hold value]) = some value := by simp [trailing]

@[simp] theorem trailing_push (ops : List (Op α)) (value : α) :
    trailing (ops ++ [.push value]) = none := by simp [trailing]

theorem run_table_length (ops : List (Op α)) (c : Cursor α) :
    (run ops c).table.length = c.table.length := by
  induction ops generalizing c with
  | nil => rfl
  | cons op ops ih => cases op <;> simp [ih, Op.apply]

theorem run_pos (ops : List (Op α)) (c : Cursor α) :
    (run ops c).pos = c.pos + (pushed ops).length := by
  induction ops generalizing c with
  | nil => rfl
  | cons op ops ih =>
    cases op with
    | hold value => simp [ih, Op.apply]
    | push value => simp only [run_cons, Op.apply, ih, pushed_push, List.length_cons]; omega

/-- A run from slot zero decides the slots below the cursor by its pushes and, when it ends
in a hold, the slot under the cursor. Every later slot is as before. -/
theorem slot_after_run (ops : List (Op α)) (table : List α)
    (room : (pushed ops).length < table.length) (k : Nat) :
    (run ops ⟨table, 0⟩).table[k]? =
      if k < (pushed ops).length then (pushed ops)[k]?
      else if k = (pushed ops).length then (trailing ops).or table[k]?
      else table[k]? := by
  induction ops using List.reverseRecOn with
  | nil =>
    have none : trailing ([] : List (Op α)) = none := rfl
    simp [none]
  | append_singleton ops op ih =>
    have pos := run_pos ops ⟨table, 0⟩
    have size := run_table_length ops ⟨table, 0⟩
    simp only [Nat.zero_add] at pos
    cases op with
    | hold value =>
      have same : pushed (ops ++ [.hold value]) = pushed ops := by simp [pushed]
      rw [same] at room ⊢
      simp only [run_append, run_cons, run_nil, Op.apply, trailing_hold, List.getElem?_set, pos,
        size, room, ih room]
      by_cases under : (pushed ops).length = k
      · simp [under]
      · have other : k ≠ (pushed ops).length := fun eq => under eq.symm
        simp [under, other]
    | push value =>
      have grown : pushed (ops ++ [.push value]) = pushed ops ++ [value] := by simp [pushed]
      rw [grown] at room ⊢
      simp only [List.length_append, List.length_singleton] at room ⊢
      have fits : (pushed ops).length < table.length := by omega
      simp only [run_append, run_cons, run_nil, Op.apply, trailing_push, List.getElem?_set, pos,
        size, fits, ih fits, Option.none_or]
      rcases Nat.lt_trichotomy k (pushed ops).length with below | under | above
      · have notUnder : (pushed ops).length ≠ k := by omega
        have early : k < (pushed ops).length + 1 := by omega
        simp [notUnder, below, early]
      · subst under
        simp
      · have notUnder : (pushed ops).length ≠ k := by omega
        have late : ¬ k < (pushed ops).length := by omega
        have later : ¬ k < (pushed ops).length + 1 := by omega
        have other : k ≠ (pushed ops).length := by omega
        simp [notUnder, late, later, other]

end PowerMonitor.CursorTable
