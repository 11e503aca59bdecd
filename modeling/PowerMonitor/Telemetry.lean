import PowerMonitor.Actuation

/-! From the sensor to the master. The RTU's input registers hold what `readINA` last stored in
them, and the master's input fields are copies of the registers, refreshed by every answer it
gets. -/
namespace PowerMonitor.Telemetry
open EspIdf Dictionary ByteMemory MasterRead MasterVisit FailedTransfers ControlLoop DelayedCopy
open Actuation
open Binary32 (ofNat)

def reading (s : System) (k : Fin 3) : FloatBytes := load s.master.store .input (4 * k)

variable {s : System} {e : Event} {turn : Turn} {d : Entry} {k : Fin 3}

end PowerMonitor.Telemetry
