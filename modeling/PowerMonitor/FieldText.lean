import Mathlib.Data.List.Basic
import Mathlib.Data.Nat.Notation

/-! Text made of fields: a format for one field, and the two ways to put fields side by side,
with a separator between them or at a fixed width. What was put together reads back. -/
namespace PowerMonitor.FieldText
universe u

/-- How a value is written, and the reader that undoes it. -/
structure Format (α : Type u) where
  write : α → List Char
  read : List Char → Option α
  read_write : ∀ a, read (write a) = some a

namespace Format
variable {α : Type u} (f : Format α) (sep : Char)

/-- The fields with the separator between them. -/
def join (fields : List α) : List Char := [sep].intercalate (fields.map f.write)

/-- Reads what stands between the separators. -/
def split (text : List Char) : Option (List α) := (text.splitOn sep).mapM f.read

/-- The fields one behind the other. -/
def pack (fields : List α) : List Char := (fields.map f.write).flatten

/-- Reads so many fields of one width, and no text behind them. -/
def unpack (width : ℕ) : ℕ → List Char → Option (List α)
  | 0, text => if text = [] then some [] else none
  | count + 1, text =>
    (f.read (text.take width)).bind fun a =>
      (unpack width count (text.drop width)).map (a :: ·)

private theorem mapM_read_write (fields : List α) :
    (fields.map f.write).mapM f.read = some fields := by
  induction fields with
  | nil => rfl
  | cons a fields ih => simp [f.read_write, ih]

/-- Fields that do not contain the separator read back. -/
theorem split_join (free : ∀ a, sep ∉ f.write a) {fields : List α} (some : fields ≠ []) :
    f.split sep (f.join sep fields) = Option.some fields := by
  have apart : ∀ text ∈ fields.map f.write, sep ∉ text := by
    intro text member
    obtain ⟨a, _, rfl⟩ := List.mem_map.mp member
    exact free a
  rw [split, join, List.splitOn_intercalate sep apart (by simpa using some)]
  exact f.mapM_read_write fields

/-- Fields of one width read back. -/
theorem unpack_pack {width : ℕ} (fixed : ∀ a, (f.write a).length = width) (fields : List α) :
    f.unpack width fields.length (f.pack fields) = some fields := by
  induction fields with
  | nil => rfl
  | cons a fields ih =>
    have packed : f.pack (a :: fields) = f.write a ++ f.pack fields := by simp [pack]
    rw [List.length_cons, unpack, packed, List.take_left' (fixed a), List.drop_left' (fixed a), ih,
      f.read_write]
    rfl

theorem pack_length {width : ℕ} (fixed : ∀ a, (f.write a).length = width) (fields : List α) :
    (f.pack fields).length = width * fields.length := by
  induction fields with
  | nil => simp [pack]
  | cons a fields ih =>
    have packed : f.pack (a :: fields) = f.write a ++ f.pack fields := by simp [pack]
    rw [packed, List.length_append, ih, fixed, List.length_cons, Nat.mul_succ, Nat.add_comm]

end Format

end PowerMonitor.FieldText
