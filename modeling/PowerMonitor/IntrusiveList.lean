import Mathlib.Logic.Function.Basic
import Mathlib.Data.List.Nodup

/-! Lists threaded through their elements, as the `LIST_*` macros of `sys/queue.h` keep them, on
a heap where it is an error to touch a cell that is not allocated. Each element holds the place
of the pointer that points to it, so it can be removed without its predecessor. -/
namespace PowerMonitor.IntrusiveList

/-- Where a pointer to an element stands: in the head of the list or in another element. -/
inductive Place (ι : Type)
  | head
  | nextOf (elm : ι)
  deriving DecidableEq

structure Element (ι α : Type) where
  value : α
  leNext : Option ι
  lePrev : Place ι

/-- The head of a list and the allocated cells. -/
structure Heap (ι α : Type) where
  lhFirst : Option ι
  cells : ι → Option (Element ι α)

/-- A cell that was touched without being allocated. -/
structure Dangling (ι : Type) where
  cell : ι
  deriving DecidableEq

namespace Heap
variable {ι α : Type}

/-- `LIST_HEAD_INITIALIZER`, with no cell allocated. -/
def empty : Heap ι α := ⟨none, fun _ => none⟩

def load (h : Heap ι α) (elm : ι) : Except (Dangling ι) (Element ι α) :=
  match h.cells elm with
  | some e => .ok e
  | none => .error ⟨elm⟩

/-- `LIST_NEXT`. -/
def listNext (h : Heap ι α) (elm : ι) : Except (Dangling ι) (Option ι) :=
  (·.leNext) <$> h.load elm

/-- The elements from a pointer on, with the place where the pointer stands. -/
def Linked (h : Heap ι α) : Place ι → Option ι → List (ι × α) → Prop
  | _, ptr, [] => ptr = none
  | place, ptr, (elm, value) :: rest =>
    ptr = some elm ∧ ∃ next, h.cells elm = some ⟨value, next, place⟩ ∧
      h.Linked (.nextOf elm) next rest

/-- The list stands in the heap, and nothing else is allocated. -/
structure Holds (h : Heap ι α) (elems : List (ι × α)) : Prop where
  linked : h.Linked .head h.lhFirst elems
  distinct : (elems.map Prod.fst).Nodup
  allocated : ∀ elm, (h.cells elm).isSome ↔ elm ∈ elems.map Prod.fst

variable {h h' : Heap ι α} {elm : ι} {value : α} {e : Element ι α} {elems rest : List (ι × α)}

theorem load_of_cells (cell : h.cells elm = some e) : h.load elm = .ok e := by
  simp [load, cell]

private theorem load_of_unallocated (cell : h.cells elm = none) : h.load elm = .error ⟨elm⟩ := by
  simp [load, cell]

theorem holds_empty : (empty : Heap ι α).Holds [] :=
  ⟨rfl, List.nodup_nil, fun _ => by simp [empty]⟩

/-- The elements stay linked when their cells stay. -/
theorem Linked.congr {place : Place ι} {ptr : Option ι} (linked : h.Linked place ptr elems)
    (same : ∀ elm ∈ elems.map Prod.fst, h'.cells elm = h.cells elm) :
    h'.Linked place ptr elems := by
  induction elems generalizing place ptr with
  | nil => exact linked
  | cons entry rest ih =>
    obtain ⟨elm, value⟩ := entry
    obtain ⟨here, next, cell, linked⟩ := linked
    simp only [List.map_cons, List.mem_cons, forall_eq_or_imp] at same
    exact ⟨here, next, same.1.trans cell, ih linked same.2⟩

/-- Reading the link of an element that is not in the list any more. -/
theorem list_next_of_unallocated (holds : h.Holds elems) (freed : elm ∉ elems.map Prod.fst) :
    h.listNext elm = .error ⟨elm⟩ := by
  have gone : h.cells elm = none := by
    simpa using (holds.allocated elm).not.mpr freed
  rw [listNext, load_of_unallocated gone]
  rfl

variable [DecidableEq ι]

def store (h : Heap ι α) (elm : ι) (e : Element ι α) : Heap ι α :=
  { h with cells := Function.update h.cells elm (some e) }

/-- Stores a pointer at its place. -/
def setPointer (h : Heap ι α) (place : Place ι) (target : Option ι) :
    Except (Dangling ι) (Heap ι α) :=
  match place with
  | .head => .ok { h with lhFirst := target }
  | .nextOf elm => do
    let e ← h.load elm
    return h.store elm { e with leNext := target }

/-- Stores the place of a pointer in the element it points to. -/
def setPlace (h : Heap ι α) (target : Option ι) (place : Place ι) :
    Except (Dangling ι) (Heap ι α) :=
  match target with
  | none => .ok h
  | some elm => do
    let e ← h.load elm
    return h.store elm { e with lePrev := place }

/-- `LIST_INSERT_HEAD` of a cell allocated for the value. -/
def listInsertHead (h : Heap ι α) (elm : ι) (value : α) : Except (Dangling ι) (Heap ι α) := do
  let allocated := h.store elm ⟨value, h.lhFirst, .head⟩
  let h ← allocated.setPlace h.lhFirst (.nextOf elm)
  h.setPointer .head (some elm)

/-- `LIST_REMOVE`. -/
def listRemove (h : Heap ι α) (elm : ι) : Except (Dangling ι) (Heap ι α) := do
  let e ← h.load elm
  let h ← h.setPlace e.leNext e.lePrev
  h.setPointer e.lePrev e.leNext

/-- The heap without a cell. -/
def without (h : Heap ι α) (elm : ι) : Heap ι α :=
  { h with cells := Function.update h.cells elm none }

def free (h : Heap ι α) (elm : ι) : Except (Dangling ι) (Heap ι α) := do
  let _ ← h.load elm
  return h.without elm

@[simp] theorem store_lhFirst (h : Heap ι α) (elm : ι) (e : Element ι α) :
    (h.store elm e).lhFirst = h.lhFirst := rfl

@[simp] theorem store_cells_same (h : Heap ι α) (elm : ι) (e : Element ι α) :
    (h.store elm e).cells elm = some e := Function.update_self ..

@[simp] theorem store_cells_other {other : ι} (apart : other ≠ elm) (h : Heap ι α)
    (e : Element ι α) : (h.store elm e).cells other = h.cells other :=
  Function.update_of_ne apart ..

@[simp] theorem without_lhFirst (h : Heap ι α) (elm : ι) :
    (h.without elm).lhFirst = h.lhFirst := rfl

@[simp] theorem without_cells_same (h : Heap ι α) (elm : ι) : (h.without elm).cells elm = none :=
  Function.update_self ..

@[simp] theorem without_cells_other {other : ι} (apart : other ≠ elm) (h : Heap ι α) :
    (h.without elm).cells other = h.cells other := Function.update_of_ne apart ..

theorem free_of_cells (cell : h.cells elm = some e) : h.free elm = .ok (h.without elm) := by
  rw [free, load_of_cells cell]
  rfl

/-- Inserting in an empty list. -/
private theorem insert_first (first : h.lhFirst = none) (elm : ι) (value : α) :
    h.listInsertHead elm value =
      .ok { h.store elm ⟨value, none, .head⟩ with lhFirst := some elm } := by
  rw [listInsertHead, first]
  rfl

/-- Inserting in front of another element, which is told its new place. -/
private theorem insert_before {second : ι} (first : h.lhFirst = some second) (apart : second ≠ elm)
    (cell : h.cells second = some e) (value : α) :
    h.listInsertHead elm value =
      .ok { (h.store elm ⟨value, some second, .head⟩).store second { e with lePrev := .nextOf elm }
        with lhFirst := some elm } := by
  have loaded : (h.store elm ⟨value, some second, .head⟩).load second = .ok e :=
    load_of_cells (by rw [store_cells_other apart, cell])
  simp only [listInsertHead, setPlace, first, loaded]
  rfl

/-- An element inserted in a cell that was not in use stands in front of the others. -/
theorem holds_insert (holds : h.Holds elems) (unused : elm ∉ elems.map Prod.fst) (value : α) :
    ∃ h', h.listInsertHead elm value = .ok h' ∧ h'.Holds ((elm, value) :: elems) := by
  cases elems with
  | nil =>
    refine ⟨_, insert_first holds.linked elm value,
      ⟨rfl, none, store_cells_same .., rfl⟩, List.nodup_singleton _, fun other => ?_⟩
    by_cases same : other = elm
    · simp [same]
    · simpa [same] using holds.allocated other
  | cons entry rest =>
    obtain ⟨second, old⟩ := entry
    obtain ⟨first, next, cell, linked⟩ := holds.linked
    have distinct := List.nodup_cons.mp holds.distinct
    have apart : second ≠ elm := fun same => unused (by simp [same])
    refine ⟨_, insert_before first apart cell value, ⟨rfl, some second, ?_, rfl, next, ?_, ?_⟩,
      List.nodup_cons.mpr ⟨unused, holds.distinct⟩, fun other => ?_⟩
    · simp [apart.symm]
    · simp
    · refine linked.congr fun other member => ?_
      have behind : other ≠ second := fun same => distinct.1 (same ▸ member)
      have old : other ≠ elm := fun same => unused (List.mem_cons_of_mem _ (same ▸ member))
      simp [behind, old]
    · by_cases new : other = elm
      · simp [new, apart.symm]
      by_cases same : other = second
      · simp [same]
      · simpa [new, same] using holds.allocated other

/-- Removing the only element. -/
private theorem remove_only (cell : h.cells elm = some ⟨value, none, .head⟩) :
    h.listRemove elm = .ok { h with lhFirst := none } := by
  rw [listRemove, load_of_cells cell]
  rfl

/-- Removing the first of several elements, which makes the second the first. -/
private theorem remove_before {second : ι} (cell : h.cells elm = some ⟨value, some second, .head⟩)
    (after : h.cells second = some e) :
    h.listRemove elm =
      .ok { h.store second { e with lePrev := .head } with lhFirst := some second } := by
  simp only [listRemove, load_of_cells cell, setPlace, bind, Except.bind, load_of_cells after]
  rfl

/-- Removing the first element and freeing its cell leaves the others. -/
theorem holds_remove_first (holds : h.Holds ((elm, value) :: rest)) :
    ∃ removed h', h.listRemove elm = .ok removed ∧ removed.free elm = .ok h' ∧
      h'.Holds rest := by
  obtain ⟨first, next, cell, linked⟩ := holds.linked
  have distinct := List.nodup_cons.mp holds.distinct
  cases rest with
  | nil =>
    obtain rfl : next = none := linked
    refine ⟨_, _, remove_only cell, free_of_cells cell, rfl, List.nodup_nil, fun other => ?_⟩
    by_cases same : other = elm
    · simp [same]
    · simpa [same] using holds.allocated other
  | cons entry rest =>
    obtain ⟨second, old⟩ := entry
    obtain ⟨rfl, afterwards, after, linked⟩ := linked
    have behind := List.nodup_cons.mp distinct.2
    have apart : elm ≠ second := fun same => distinct.1 (by simp [same])
    refine ⟨_, _, remove_before cell after,
      free_of_cells (by rw [store_cells_other apart, cell]), ⟨rfl, afterwards, ?_, ?_⟩,
      distinct.2, fun other => ?_⟩
    · simp [apart.symm]
    · refine linked.congr fun other member => ?_
      have further : other ≠ second := fun same => behind.1 (same ▸ member)
      have gone : other ≠ elm := fun same => distinct.1 (List.mem_cons_of_mem _ (same ▸ member))
      simp [further, gone]
    · by_cases gone : other = elm
      · simpa [gone] using distinct.1
      by_cases same : other = second
      · simp [same, apart.symm]
      · simpa [gone, same] using holds.allocated other

end Heap
end PowerMonitor.IntrusiveList
