import PowerMonitor.FailedTransfers
import PowerMonitor.ModbusStack
import Mathlib.Tactic.FinCases

/-! The registers of the RTU (`rtu/main/modbus.c`): the areas `slave_init` registers with the
Modbus stack, and where in the structures the stack then finds what a request names.

`modbus_params.h`, which lays out the structures, is not part of the repository. The first four
fields of the registers' structures, and the two ports of the coils', are where the master's
dictionary has them; where the other fields are and how large the structures are is up to the
build. -/
namespace PowerMonitor.RegisterMap
open Dictionary MasterRead FailedTransfers ModbusStack

/-- How a build lays out the structures of the RTU. -/
structure Layout where
  /-- `offsetof` the fifth field of `holding_reg_params` and of `input_reg_params`; three more
  follow it at once. -/
  holdingData4 : Nat
  inputData4 : Nat
  /-- `sizeof(coil_reg_params)` and `sizeof(discrete_reg_params)`. -/
  coilSize : Nat
  discreteSize : Nat
  holdingAligned : holdingData4 % 4 = 0
  inputAligned : inputData4 % 4 = 0
  /-- The numbers of the registers fit a `uint16_t`. -/
  holdingNumbered : holdingData4 < 2 ^ 17
  inputNumbered : inputData4 < 2 ^ 17
  ports : 2 ≤ coilSize

namespace Layout

/-- `offsetof` `holding_data<k>` and `input_data<k>`. -/
def offsetofHolding (l : Layout) (k : Nat) : Nat :=
  if k < 4 then 4 * k else l.holdingData4 + 4 * (k - 4)

def offsetofInput (l : Layout) (k : Nat) : Nat :=
  if k < 4 then 4 * k else l.inputData4 + 4 * (k - 4)

theorem offset_holding_aligned (l : Layout) (k : Nat) : l.offsetofHolding k % 4 = 0 := by
  have aligned := l.holdingAligned
  unfold offsetofHolding
  split <;> omega

theorem offset_input_aligned (l : Layout) (k : Nat) : l.offsetofInput k % 4 = 0 := by
  have aligned := l.inputAligned
  unfold offsetofInput
  split <;> omega

end Layout

/-- `HOLD_OFFSET` and `INPUT_OFFSET` of the RTU, in registers of two bytes. -/
def regOffset (offset : Nat) : Nat := (offset >>> 1) % 2 ^ 16

/-- The descriptors `slave_init` sets, in its order. -/
def slaveInitAreas (l : Layout) : List MbRegisterAreaDescriptor :=
  [⟨.holding, regOffset (l.offsetofHolding 0), (.holding, l.offsetofHolding 0), 4 <<< 2⟩,
   ⟨.holding, regOffset (l.offsetofHolding 4), (.holding, l.offsetofHolding 4), 4 <<< 2⟩,
   ⟨.input, regOffset (l.offsetofInput 0), (.input, l.offsetofInput 0), 4 <<< 2⟩,
   ⟨.input, regOffset (l.offsetofInput 4), (.input, l.offsetofInput 4), 4 <<< 2⟩,
   ⟨.coil, 0x0000, (.coil, 0), l.coilSize⟩,
   ⟨.discrete, 0x0000, (.discrete, 0), l.discreteSize⟩]

/-- What the RTU is built with from outside the repository. -/
structure Build where
  layout : Layout
  stack : Stack

/-- The layout of the object file among the build products of the repository. -/
def committedLayout : Layout where
  holdingData4 := 316
  inputData4 := 316
  coilSize := 2
  discreteSize := 2
  holdingAligned := by decide
  inputAligned := by decide
  holdingNumbered := by decide
  inputNumbered := by decide
  ports := by decide

def committedBuild : Build := ⟨committedLayout, firstArea⟩

/-- The registers of four `float`s from an offset. -/
def InHalf (offset start size : Nat) : Prop :=
  offset / 2 ≤ start ∧ start + size ≤ offset / 2 + 8

/-- The requests the RTU serves, and the bytes they start at. -/
def Served (l : Layout) (type : MbParamType) (start size : Nat) (place : Area × Nat) : Prop :=
  match type with
  | .holding =>
    (InHalf 0 start size ∨ InHalf l.holdingData4 start size) ∧ place = (.holding, 2 * start)
  | .input => (InHalf 0 start size ∨ InHalf l.inputData4 start size) ∧ place = (.input, 2 * start)
  | .coil => start + size ≤ 8 * l.coilSize ∧ place = (.coil, start / 8)
  | .discrete => start + size ≤ 8 * l.discreteSize ∧ place = (.discrete, start / 8)
  | .count | .unknown => False

variable {l : Layout} {type : MbParamType} {start size : Nat} {place place' : Area × Nat}

private theorem reg_offset_eq (numbered : offset < 2 ^ 17) : regOffset offset = offset / 2 := by
  rw [regOffset, Nat.shiftRight_eq_div_pow, Nat.mod_eq_of_lt (by omega)]

/-- The area of four `float`s at an offset. -/
private def floatArea (type : MbParamType) (place : Area × Nat) : MbRegisterAreaDescriptor :=
  ⟨type, place.2 / 2, place, 16⟩

private theorem areas_eq (l : Layout) : slaveInitAreas l =
    [floatArea .holding (.holding, 0), floatArea .holding (.holding, l.holdingData4),
      floatArea .input (.input, 0), floatArea .input (.input, l.inputData4),
      ⟨.coil, 0, (.coil, 0), l.coilSize⟩, ⟨.discrete, 0, (.discrete, 0), l.discreteSize⟩] := by
  have first : regOffset 0 = 0 := rfl
  simp [slaveInitAreas, floatArea, Layout.offsetofHolding, Layout.offsetofInput, first,
    reg_offset_eq l.holdingNumbered, reg_offset_eq l.inputNumbered]

/-- The registers of an area of `float`s. -/
private theorem half_serves (kind : type = .holding ∨ type = .input) (place : Area × Nat) :
    (floatArea type place).serves type start size ↔ InHalf place.2 start size := by
  rw [serves_iff]
  rcases kind with rfl | rfl <;> simp [floatArea, InHalf, MbRegisterAreaDescriptor.count]

private theorem half_byte (kind : type = .holding ∨ type = .input) (aligned : place.2 % 4 = 0)
    (half : InHalf place.2 start size) :
    (floatArea type place).byteOf start = (place.1, 2 * start) := by
  have above := half.1
  have byte : place.2 + 2 * (start - place.2 / 2) = 2 * start := by omega
  rcases kind with rfl | rfl <;> simp [floatArea, MbRegisterAreaDescriptor.byteOf, byte]

/-- Requests that lie in an area are served. -/
private theorem served_of_area (member : area ∈ slaveInitAreas l)
    (serves : area.serves type start size) : Served l type start size (area.byteOf start) := by
  obtain ⟨rfl, _, below⟩ := (serves_iff area type start size).mp serves
  rw [areas_eq] at member
  simp only [List.mem_cons, List.not_mem_nil, or_false] at member
  rcases member with rfl | rfl | rfl | rfl | rfl | rfl
  · have half := (half_serves (Or.inl rfl) _).mp serves
    exact ⟨Or.inl half, half_byte (Or.inl rfl) rfl half⟩
  · have half := (half_serves (Or.inl rfl) _).mp serves
    exact ⟨Or.inr half, half_byte (Or.inl rfl) l.holdingAligned half⟩
  · have half := (half_serves (Or.inr rfl) _).mp serves
    exact ⟨Or.inl half, half_byte (Or.inr rfl) rfl half⟩
  · have half := (half_serves (Or.inr rfl) _).mp serves
    exact ⟨Or.inr half, half_byte (Or.inr rfl) l.inputAligned half⟩
  · exact ⟨by simpa [MbRegisterAreaDescriptor.count] using below,
      by simp [MbRegisterAreaDescriptor.byteOf]⟩
  · exact ⟨by simpa [MbRegisterAreaDescriptor.count] using below,
      by simp [MbRegisterAreaDescriptor.byteOf]⟩

/-- Requests that are served lie in one area. -/
private theorem area_of_served (served : Served l type start size place) :
    ∃ area ∈ slaveInitAreas l, area.serves type start size := by
  simp only [areas_eq, List.mem_cons, List.not_mem_nil, or_false, exists_eq_or_imp,
    exists_eq_left]
  cases type with
  | holding =>
    rcases served.1 with half | half
    · exact Or.inl ((half_serves (Or.inl rfl) _).mpr half)
    · exact Or.inr (Or.inl ((half_serves (Or.inl rfl) _).mpr half))
  | input =>
    rcases served.1 with half | half
    · exact Or.inr (Or.inr (Or.inl ((half_serves (Or.inr rfl) _).mpr half)))
    · exact Or.inr (Or.inr (Or.inr (Or.inl ((half_serves (Or.inr rfl) _).mpr half))))
  | coil => simpa [serves_iff, floatArea, MbRegisterAreaDescriptor.count] using served.1
  | discrete => simpa [serves_iff, floatArea, MbRegisterAreaDescriptor.count] using served.1
  | count => exact served.elim
  | unknown => exact served.elim

private theorem served_unique (served : Served l type start size place)
    (served' : Served l type start size place') : place = place' := by
  cases type with
  | holding => exact served.2.trans served'.2.symm
  | input => exact served.2.trans served'.2.symm
  | coil => exact served.2.trans served'.2.symm
  | discrete => exact served.2.trans served'.2.symm
  | count => exact served.elim
  | unknown => exact served.elim

/-- A request for registers is served exactly when it lies in the first four `float`s of the
structure or in the four from the fifth on, and one for coils or discrete inputs when it lies in
the structure; it then starts at the byte its number says. -/
theorem request_served_iff (b : Build) (type : MbParamType) (start size : Nat)
    (place : Area × Nat) :
    b.stack.locate (slaveInitAreas b.layout) type start size = some place ↔
      Served b.layout type start size place := by
  constructor
  · intro found
    obtain ⟨area, member, serves, rfl⟩ := b.stack.located found
    exact served_of_area member serves
  · intro served
    refine (locate_eq_some_iff b.stack fun area member serves => ?_).mpr (area_of_served served)
    exact served_unique (served_of_area member serves) served

/-- The build in the repository serves registers 158 to 165, and no others behind the first
eight. -/
example : committedBuild.stack.locate (slaveInitAreas committedLayout) .holding 158 8 =
    some (.holding, 316) ∧
    committedBuild.stack.locate (slaveInitAreas committedLayout) .holding 8 1 = none := by
  decide

/-- The master and the RTU mean the same field by an entry. -/
theorem locate_entry (b : Build) (d : Entry) :
    b.stack.locate (slaveInitAreas b.layout) d.val.mbParamType d.val.mbRegStart.toNat
      d.val.mbSize.toNat = some d.data := by
  have ports := b.layout.ports
  have first (start size : Nat) (low : start + size ≤ 8) : InHalf 0 start size :=
    ⟨Nat.zero_le start, low⟩
  obtain ⟨cid, rfl⟩ := entry_of_cid d
  rw [request_served_iff]
  fin_cases cid
  · exact ⟨Or.inl (first 0 2 (by decide)), rfl⟩
  · exact ⟨Or.inl (first 2 2 (by decide)), rfl⟩
  · exact ⟨Or.inl (first 4 2 (by decide)), rfl⟩
  · exact ⟨Or.inl (first 0 2 (by decide)), rfl⟩
  · exact ⟨Or.inl (first 2 2 (by decide)), rfl⟩
  · exact ⟨show 0 + 8 ≤ 8 * b.layout.coilSize by omega, rfl⟩
  · exact ⟨show 8 + 8 ≤ 8 * b.layout.coilSize by omega, rfl⟩

end PowerMonitor.RegisterMap
