import Mathlib.Algebra.Order.Field.Rat
import Mathlib.Data.List.Induction
import Mathlib.Tactic.NormNum

/-! The RTU's power sensor: the INA209 driver (`rtu/main/INA209.c`) and the `readINA` task
(`rtu/main/sensors.c`). The sensor keeps a register pointer that the driver sets before each
read; neither transfer's result is looked at. Published values are exact rationals, before
rounding to `float`. -/
namespace PowerMonitor.PowerSensor

/-- What the bus does for one measurement: a pointer write, then a read of two bytes. -/
structure Transfers where
  /-- The pointer write was acknowledged; otherwise the pointer stays where it was. -/
  pointed : Bool
  /-- The read delivered its bytes; otherwise it delivered none. -/
  delivered : Bool
  /-- The sensor's registers at the time of the read. -/
  registers : UInt8 → UInt16
  /-- What `data` holds on the stack before the read. -/
  stack : UInt8 × UInt8

/-- A word `readWord` returned, with the register whose transfer delivered it, if one did. -/
structure Reading where
  word : UInt16
  origin : Option UInt8
  deriving DecidableEq, Repr

/-- `pointReg`: the sensor's register pointer afterwards. -/
def pointReg (t : Transfers) (regAddr pointer : UInt8) : UInt8 :=
  if t.pointed then regAddr else pointer

/-- `readWord`, high byte first. -/
def readWord (t : Transfers) (pointer : UInt8) : Reading :=
  let sent := t.registers pointer
  let data := if t.delivered then ((sent >>> 8).toUInt8, sent.toUInt8) else t.stack
  { word := data.1.toUInt16 <<< 8 ||| data.2.toUInt16
    origin := if t.delivered then some pointer else none }

/-- The value a measurement returns, the reading it comes from and the pointer it leaves. -/
structure Measured where
  raw : Int
  reading : Reading
  pointer : UInt8
  deriving DecidableEq, Repr

def busVol (t : Transfers) (pointer : UInt8) : Measured :=
  let pointer := pointReg t 0x04 pointer
  let reading := readWord t pointer
  ⟨(reading.word >>> 1).toNat, reading, pointer⟩

def power (t : Transfers) (pointer : UInt8) : Measured :=
  let pointer := pointReg t 0x05 pointer
  let reading := readWord t pointer
  ⟨reading.word.toNat, reading, pointer⟩

def current (t : Transfers) (pointer : UInt8) : Measured :=
  let pointer := pointReg t 0x06 pointer
  let reading := readWord t pointer
  ⟨reading.word.toNat, reading, pointer⟩

/-- An input register, with the reading behind its value; none is behind the initial value. -/
structure Published where
  value : ℚ
  reading : Option Reading
  deriving DecidableEq, Repr

/-- What `setup_reg_data` stores. -/
def Published.initial : Published := ⟨0, none⟩

/-- The state of the task and its sensor between two iterations. -/
structure State where
  pointer : UInt8
  inputData0 : Published := .initial
  inputData1 : Published := .initial
  inputData2 : Published := .initial
  /-- The words the sensor delivered, each with its register, latest first. -/
  delivered : List (UInt8 × UInt16) := []

/-- What the bus does in one iteration. -/
structure Iteration where
  voltage : Transfers
  current : Transfers
  power : Transfers

/-- The delivered words after a measurement that read at `pointer`. -/
def deliver (t : Transfers) (pointer : UInt8) (delivered : List (UInt8 × UInt16)) :
    List (UInt8 × UInt16) :=
  if t.delivered then (pointer, t.registers pointer) :: delivered else delivered

/-- One iteration of `readINA`. -/
def readINA (s : State) (it : Iteration) : State :=
  let v := busVol it.voltage s.pointer
  let i := current it.current v.pointer
  let p := power it.power i.pointer
  { pointer := p.pointer
    inputData0 := ⟨(v.raw : ℚ) / 1000, some v.reading⟩
    inputData1 := ⟨(i.raw : ℚ) / 30, some i.reading⟩
    inputData2 := ⟨(p.raw : ℚ) * (2 / 3), some p.reading⟩
    delivered := deliver it.power p.pointer
      (deliver it.current i.pointer (deliver it.voltage v.pointer s.delivered)) }

def run (iterations : List Iteration) (s : State) : State := iterations.foldl readINA s

/-! ## What is published -/

/-- The scaled decode of a bus voltage word. -/
def voltageOf (word : UInt16) : ℚ := (word >>> 1).toNat / 1000

/-- The scaled decode of a current word. -/
def currentOf (word : UInt16) : ℚ := word.toNat / 30

/-- The scaled decode of a power word. -/
def powerOf (word : UInt16) : ℚ := word.toNat * (2 / 3)

/-- The published value is the initial one or the decode of a word its own register delivered,
and comes from no other reading. -/
def FromRegister (regAddr : UInt8) (decode : UInt16 → ℚ) (delivered : List (UInt8 × UInt16))
    (m : Published) : Prop :=
  m = .initial ∨ ∃ word, (regAddr, word) ∈ delivered ∧ m.reading = some ⟨word, some regAddr⟩ ∧
    m.value = decode word

/-- Every input register is published from its own sensor register. -/
structure OwnRegisters (s : State) : Prop where
  voltage : FromRegister 0x04 voltageOf s.delivered s.inputData0
  current : FromRegister 0x06 currentOf s.delivered s.inputData1
  power : FromRegister 0x05 powerOf s.delivered s.inputData2

/-- The read delivered its bytes, and the pointer write did or the pointer was there before. -/
def Routed (t : Transfers) (regAddr pointer : UInt8) : Prop :=
  t.delivered = true ∧ (t.pointed = true ∨ pointer = regAddr)

/-- All three measurements of an iteration are routed, from the pointer before it. -/
structure RoutedIteration (it : Iteration) (pointer : UInt8) : Prop where
  voltage : Routed it.voltage 0x04 pointer
  current : Routed it.current 0x06 (pointReg it.voltage 0x04 pointer)
  power : Routed it.power 0x05 (pointReg it.current 0x06 (pointReg it.voltage 0x04 pointer))

variable {t : Transfers} {regAddr pointer : UInt8} {s : State} {it : Iteration}

/-- The two bytes of a word, put together again. -/
private theorem word_of_bytes (w : UInt16) :
    (w >>> 8).toUInt8.toUInt16 <<< 8 ||| w.toUInt8.toUInt16 = w := by
  have bound := w.toNat_lt
  have low : w.toNat % 2 ^ 8 < 2 ^ 8 := Nat.mod_lt _ (by decide)
  apply UInt16.toNat_inj.mp
  simp only [UInt16.toNat_or, UInt16.toNat_shiftLeft, UInt8.toNat_toUInt16, UInt16.toNat_toUInt8,
    UInt16.toNat_shiftRight, show UInt16.toNat 8 % 16 = 8 from rfl]
  rw [Nat.shiftRight_eq_div_pow, Nat.mod_eq_of_lt (by omega : w.toNat / 2 ^ 8 < 2 ^ 8),
    Nat.mod_eq_of_lt (by rw [Nat.shiftLeft_eq]; omega), ← Nat.shiftLeft_add_eq_or_of_lt low,
    Nat.shiftLeft_eq]
  omega

private theorem point_reg_eq_iff : pointReg t regAddr pointer = regAddr ↔
    t.pointed = true ∨ pointer = regAddr := by
  unfold pointReg
  split <;> simp_all

/-- A delivered word is the one its register held. -/
theorem read_word_delivered (ok : t.delivered = true) :
    readWord t pointer = ⟨t.registers pointer, some pointer⟩ := by
  simp only [readWord, ok, ↓reduceIte, word_of_bytes]

/-- A measurement's reading is a word of its own register exactly when it is routed. -/
private theorem from_register_iff (t : Transfers) (regAddr pointer : UInt8) (decode : UInt16 → ℚ)
    (delivered all : List (UInt8 × UInt16))
    (later : ∀ entry ∈ deliver t (pointReg t regAddr pointer) delivered, entry ∈ all) :
    FromRegister regAddr decode all
        ⟨decode (readWord t (pointReg t regAddr pointer)).word,
          some (readWord t (pointReg t regAddr pointer))⟩ ↔
      Routed t regAddr pointer := by
  rw [Routed, ← point_reg_eq_iff]
  constructor
  · rintro (none | ⟨word, _, reading, _⟩)
    · simp [Published.initial] at none
    · have origin := congrArg Reading.origin (Option.some.inj reading)
      simp only [readWord] at origin
      split at origin
      · rename_i ok
        exact ⟨ok, Option.some.inj origin⟩
      · cases origin
  · rintro ⟨ok, here⟩
    rw [here] at later ⊢
    refine Or.inr ⟨t.registers regAddr, later _ (by simp [deliver, ok]), ?_, ?_⟩
    · rw [read_word_delivered ok]
    · rw [read_word_delivered ok]

private theorem deliver_mono (t : Transfers) (pointer : UInt8) (delivered : List (UInt8 × UInt16)) :
    ∀ entry ∈ delivered, entry ∈ deliver t pointer delivered := by
  intro entry member
  unfold deliver
  split
  · exact List.mem_cons_of_mem _ member
  · exact member

/-- **One iteration.** It publishes from the right registers exactly when it is routed. -/
theorem own_registers_iff (s : State) (it : Iteration) :
    OwnRegisters (readINA s it) ↔ RoutedIteration it s.pointer := by
  have voltage := from_register_iff it.voltage 0x04 s.pointer voltageOf s.delivered
    (readINA s it).delivered
    (fun entry member => deliver_mono _ _ _ entry (deliver_mono _ _ _ entry member))
  have current := from_register_iff it.current 0x06 (pointReg it.voltage 0x04 s.pointer) currentOf
    _ (readINA s it).delivered
    (fun entry member => deliver_mono _ _ _ entry member)
  have power := from_register_iff it.power 0x05
    (pointReg it.current 0x06 (pointReg it.voltage 0x04 s.pointer)) powerOf _
    (readINA s it).delivered (fun entry member => member)
  constructor
  · intro own
    exact ⟨voltage.mp own.voltage, current.mp own.current, power.mp own.power⟩
  · intro routed
    exact ⟨voltage.mpr routed.voltage, current.mpr routed.current, power.mpr routed.power⟩

private theorem own_registers_initial (pointer : UInt8) : OwnRegisters { pointer } :=
  ⟨Or.inl rfl, Or.inl rfl, Or.inl rfl⟩

/-- Throughout a run every input register is published from its own sensor register exactly
when every measurement's read delivers and its pointer write does too, or finds the pointer
where it should be. -/
theorem published_from_own_registers_iff (pointer : UInt8) (iterations : List Iteration) :
    (∀ before after, iterations = before ++ after → OwnRegisters (run before { pointer })) ↔
      ∀ before it after, iterations = before ++ it :: after →
        RoutedIteration it (run before { pointer }).pointer := by
  constructor
  · rintro own before it after rfl
    rw [← own_registers_iff]
    simpa [run] using own (before ++ [it]) after (by simp)
  · rintro routed before after rfl
    rcases List.eq_nil_or_concat before with rfl | ⟨earlier, it, rfl⟩
    · exact own_registers_initial pointer
    · rw [List.concat_eq_append, run, List.foldl_append]
      exact (own_registers_iff _ _).mpr (routed earlier it after (by simp))

/-- The bus in an iteration in which only the pointer write before the current read fails. -/
def lostPointerWrite : Iteration :=
  let registers : UInt8 → UInt16 := fun regAddr => if regAddr = 0x04 then 0x6400 else 0x0003
  { voltage := ⟨true, true, registers, (0, 0)⟩
    current := ⟨false, true, registers, (0, 0)⟩
    power := ⟨true, true, registers, (0, 0)⟩ }

/-- The published current is then the decode of the bus voltage word. -/
theorem lost_pointer_write_publishes_voltage :
    ¬ ∀ before after, [lostPointerWrite] = before ++ after →
      OwnRegisters (run before { pointer := 0x16 }) := by
  intro own
  have routed := (own_registers_iff _ _).mp (own [lostPointerWrite] [] rfl)
  exact absurd routed.current (by simp [Routed, lostPointerWrite, pointReg])

end PowerMonitor.PowerSensor
