import PowerMonitor.EspIdf
import Mathlib.Algebra.Group.Nat.Defs

/-! The master's parameter dictionary (`master/main/modbus.c`, `device_parameters`): the
descriptor record, the seven entries shipped with the firmware, and what a dictionary is
in general. -/
namespace PowerMonitor.Dictionary

/-- `mb_param_type_t`. -/
inductive MbParamType where
  | holding
  | input
  | coil
  | discrete
  | count
  | unknown
  deriving DecidableEq, Repr

/-- `mb_descr_type_t`. -/
inductive MbDescrType where
  | u8
  | u16
  | u32
  | float
  | ascii
  deriving DecidableEq, Repr

/-- `mb_param_perms_t`. -/
inductive MbParamPerms where
  | read
  | write
  | readWriteTrigger
  deriving DecidableEq, Repr

/-- `mb_parameter_opt_t`. The members are `int`: `OPTS` drops the fraction of its bounds. -/
structure MbParameterOpt where
  opt1 : Int
  opt2 : Int
  opt3 : Int
  deriving DecidableEq, Repr

/-- `mb_parameter_descriptor_t`. -/
structure MbParameterDescriptor where
  cid : UInt16
  paramKey : String
  paramUnits : String
  mbSlaveAddr : UInt8
  mbParamType : MbParamType
  mbRegStart : UInt16
  mbSize : UInt16
  /-- The offset of the field in its instance structure, plus one; zero is no field. -/
  paramOffset : UInt16
  paramType : MbDescrType
  paramSize : Nat
  paramOpts : MbParameterOpt
  access : MbParamPerms
  deriving DecidableEq, Repr

def mbDeviceAddr1 : UInt8 := 1

def cidVoltage : UInt16 := 0
def cidCurrent : UInt16 := 1
def cidPower : UInt16 := 2
def cidPowerThreshold : UInt16 := 3
def cidDutyCycle : UInt16 := 4
def cidMotorState : UInt16 := 5
def cidMotorAlarm : UInt16 := 6

/-- `INPUT_OFFSET(input_data<k>)` and `HOLD_OFFSET(holding_data<k>)`: consecutive floats. -/
def floatOffset (k : UInt16) : UInt16 := 4 * k + 1

/-- `COIL_OFFSET(coils_port<k>)`: consecutive bytes. -/
def coilOffset (k : UInt16) : UInt16 := k + 1

def voltage : MbParameterDescriptor :=
  ⟨cidVoltage, "Voltage", "V", mbDeviceAddr1, .input, 0, 2,
    floatOffset 0, .float, 4, ⟨-32, 32, 0⟩, .readWriteTrigger⟩

def current : MbParameterDescriptor :=
  ⟨cidCurrent, "Current", "mA", mbDeviceAddr1, .input, 2, 2,
    floatOffset 1, .float, 4, ⟨-3276, 3276, 0⟩, .readWriteTrigger⟩

def power : MbParameterDescriptor :=
  ⟨cidPower, "Power", "mW", mbDeviceAddr1, .input, 4, 2,
    floatOffset 2, .float, 4, ⟨-104854, 104854, 0⟩, .readWriteTrigger⟩

def powerThreshold : MbParameterDescriptor :=
  ⟨cidPowerThreshold, "Power Threshold", "mW", mbDeviceAddr1, .holding, 0, 2,
    floatOffset 0, .float, 4, ⟨-104854, 104854, 0⟩, .readWriteTrigger⟩

def dutyCycle : MbParameterDescriptor :=
  ⟨cidDutyCycle, "Duty Cycle", "%", mbDeviceAddr1, .holding, 2, 2,
    floatOffset 1, .float, 4, ⟨0, 100, 0⟩, .readWriteTrigger⟩

def motorState : MbParameterDescriptor :=
  ⟨cidMotorState, "Motor State", "on/off", mbDeviceAddr1, .coil, 0, 8,
    coilOffset 0, .u16, 2, ⟨1, 0, 1⟩, .readWriteTrigger⟩

def motorAlarm : MbParameterDescriptor :=
  ⟨cidMotorAlarm, "Motor Alarm", "on/off", mbDeviceAddr1, .coil, 8, 8,
    coilOffset 1, .u16, 2, ⟨1, 0, 1⟩, .readWriteTrigger⟩

/-- `device_parameters`, in the order of the source. -/
def deviceParameters : List MbParameterDescriptor :=
  [voltage, current, power, powerThreshold, dutyCycle, motorState, motorAlarm]

/-- A dictionary the master can be built with. `num_device_parameters` is a `uint16_t`
holding the number of entries, so the number fits. -/
structure ParameterDictionary where
  entries : List MbParameterDescriptor
  fits : entries.length < 2 ^ 16

namespace ParameterDictionary

/-- `num_device_parameters`. -/
def numDeviceParameters (dict : ParameterDictionary) : Nat := dict.entries.length

/-- The slave address of every entry, in dictionary order. -/
def slaveAddrs (dict : ParameterDictionary) : List UInt8 :=
  dict.entries.map (·.mbSlaveAddr)

/-- The distinct slave addresses, in the order of their first entries. -/
def slaves (dict : ParameterDictionary) : List UInt8 := dict.slaveAddrs.eraseDups

@[simp] theorem slaveAddrs_length (dict : ParameterDictionary) :
    dict.slaveAddrs.length = dict.numDeviceParameters := by
  simp [slaveAddrs, numDeviceParameters]

@[simp] theorem mem_slaves (dict : ParameterDictionary) (addr : UInt8) :
    addr ∈ dict.slaves ↔ addr ∈ dict.slaveAddrs := by
  simp [slaves]

end ParameterDictionary

/-- The dictionary of the shipped firmware. -/
def shipped : ParameterDictionary := ⟨deviceParameters, by decide⟩

end PowerMonitor.Dictionary
