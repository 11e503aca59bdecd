import PowerMonitor.MasterRead

/-! The Modbus stack between the two firmwares. It is not part of the repository, which relies on
three of its rules: a request is served from one registered area that has all its registers and
is refused when there is none; a request to set registers stores its bytes where they are; and
the answer to a request to get them has the bytes from there. -/
namespace PowerMonitor.ModbusStack
open Dictionary ByteMemory MasterRead

/-- `mb_register_area_descriptor_t`. -/
structure MbRegisterAreaDescriptor where
  type : MbParamType
  /-- The first register, or the first coil, of the area. -/
  startOffset : Nat
  /-- The structure, and the byte in it the area starts at. -/
  address : Area × Nat
  /-- The number of bytes. -/
  size : Nat
  deriving DecidableEq, Repr

namespace MbRegisterAreaDescriptor

/-- The number of registers, or of coils, of the area. -/
def count (area : MbRegisterAreaDescriptor) : Nat :=
  match area.type with
  | .holding | .input => area.size / 2
  | _ => 8 * area.size

/-- All registers of the request are in the area. -/
def serves (area : MbRegisterAreaDescriptor) (type : MbParamType) (start size : Nat) : Bool :=
  area.type = type ∧ area.startOffset ≤ start ∧ start + size ≤ area.startOffset + area.count

/-- The byte a register, or a coil, is in. -/
def byteOf (area : MbRegisterAreaDescriptor) (start : Nat) : Area × Nat :=
  match area.type with
  | .holding | .input => (area.address.1, area.address.2 + 2 * (start - area.startOffset))
  | _ => (area.address.1, area.address.2 + (start - area.startOffset) / 8)

end MbRegisterAreaDescriptor

/-- A Modbus stack with these rules. -/
structure Stack where
  /-- Where a request starts in the structures; one that is refused gets an exception response. -/
  locate : List MbRegisterAreaDescriptor → MbParamType → Nat → Nat → Option (Area × Nat)
  /-- The structures after a request to set the two registers that start there. -/
  write : Store → Area × Nat → FloatBytes → Store
  /-- The master's buffer after an answer with so many bytes from there. -/
  read : Store → Area × Nat → Nat → FloatBytes → FloatBytes
  located : ∀ {areas type start size place}, locate areas type start size = some place →
    ∃ area ∈ areas, area.serves type start size ∧ area.byteOf start = place
  refused : ∀ {areas type start size}, locate areas type start size = none →
    ∀ area ∈ areas, ¬ area.serves type start size
  written : ∀ store place bytes, load (write store place bytes) place.1 place.2 = bytes
  kept : ∀ store place bytes {area k},
    ¬ (area = place.1 ∧ place.2 ≤ k ∧ k < place.2 + 4) →
      write store place bytes area k = store area k
  answered : ∀ store place others {size : Nat} {i : Fin 4}, i.val < size →
    read store place size others i = store place.1 (place.2 + i)
  behind : ∀ store place others {size : Nat} {i : Fin 4}, ¬ i.val < size →
    read store place size others i = others i

variable {areas : List MbRegisterAreaDescriptor} {type : MbParamType} {start size : Nat}
  {place : Area × Nat}

/-- Where all areas that serve a request mean the same byte, it is served from there. -/
theorem locate_eq_some_iff (stack : Stack)
    (agree : ∀ area ∈ areas, area.serves type start size → area.byteOf start = place) :
    stack.locate areas type start size = some place ↔
      ∃ area ∈ areas, area.serves type start size := by
  constructor
  · intro found
    obtain ⟨area, member, serves, _⟩ := stack.located found
    exact ⟨area, member, serves⟩
  · rintro ⟨area, member, serves⟩
    cases found : stack.locate areas type start size with
    | none => exact absurd serves (stack.refused found area member)
    | some place' =>
      obtain ⟨area', member', serves', same⟩ := stack.located found
      rw [← same, agree area' member' serves']

/-- The rules determine what a write leaves. -/
theorem write_eq (stack : Stack) (store : Store) (place : Area × Nat) (bytes : FloatBytes) :
    stack.write store place bytes = ByteMemory.store store place.1 place.2 bytes := by
  funext area k
  by_cases within : area = place.1 ∧ place.2 ≤ k ∧ k < place.2 + 4
  · obtain ⟨rfl, lower, upper⟩ := within
    have there := congrFun (stack.written store place bytes) ⟨k - place.2, by omega⟩
    have index : place.2 + (k - place.2) = k := by omega
    simp only [load, index] at there
    simp [there, ByteMemory.store, lower, upper]
  · rw [stack.kept store place bytes within, store_outside _ _ within]

/-- They determine what an answer leaves in the buffer. -/
theorem read_eq (stack : Stack) (store : Store) (place : Area × Nat) (size : Nat)
    (others : FloatBytes) :
    stack.read store place size others = overlay others (load store place.1 place.2) size := by
  funext i
  by_cases answered : i.val < size
  · simp [stack.answered store place others answered, overlay, load, answered]
  · simp [stack.behind store place others answered, overlay, answered]

theorem serves_iff (area : MbRegisterAreaDescriptor) (type : MbParamType) (start size : Nat) :
    area.serves type start size = true ↔ area.type = type ∧ area.startOffset ≤ start ∧
      start + size ≤ area.startOffset + area.count := by
  simp [MbRegisterAreaDescriptor.serves]

/-- A stack that takes the first area that serves. -/
def firstArea : Stack where
  locate areas type start size :=
    (areas.find? fun area => area.serves type start size).map (·.byteOf start)
  write store place bytes := ByteMemory.store store place.1 place.2 bytes
  read store place size others := overlay others (load store place.1 place.2) size
  located found := by
    obtain ⟨area, first, same⟩ := Option.map_eq_some_iff.mp found
    have serves := List.find?_some first
    exact ⟨area, List.mem_of_find?_eq_some first, serves, same⟩
  refused none := by
    simpa using none
  written store place bytes := load_store_same _ _ _ _
  kept store place bytes _ _ outside := store_outside _ _ outside
  answered store place _ others _ inside := by simp [overlay, load, inside]
  behind store place _ others _ outside := by simp [overlay, outside]

end PowerMonitor.ModbusStack
