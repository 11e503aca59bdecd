/-! The part of the ESP-IDF interface both firmwares share: `esp_err_t` codes, the
text formats of instance names and addresses, and the records an mDNS query returns.
A C pointer to the head of a chain is the list of its nodes, and `NULL` is `[]`. -/
namespace PowerMonitor.EspIdf

/-- `esp_err_t` is an `int`: the codes share their type with the counts some
functions of the master return. -/
abbrev EspErr := Int

def espOk : EspErr := 0
def espFail : EspErr := -1
def espErrNoMem : EspErr := 0x101
def espErrInvalidArg : EspErr := 0x102
def espErrInvalidState : EspErr := 0x103
def espErrNotFound : EspErr := 0x105
def espErrTimeout : EspErr := 0x107

/-- The digit `%X` prints for a value below sixteen. -/
def upperDigit (d : Nat) : Char := Char.ofNat (if d < 10 then 48 + d else 55 + d)

/-- The digit `%x` prints for a value below sixteen. -/
def lowerDigit (d : Nat) : Char := Char.ofNat (if d < 10 then 48 + d else 87 + d)

/-- `%02X` of a byte. -/
def hex02X (b : UInt8) : String :=
  String.ofList [upperDigit (b.toNat / 16), upperDigit (b.toNat % 16)]

/-- `%04x` of a half word. -/
def hex04x (w : UInt16) : String :=
  String.ofList [lowerDigit (w.toNat / 4096), lowerDigit (w.toNat / 256 % 16),
    lowerDigit (w.toNat / 16 % 16), lowerDigit (w.toNat % 16)]

private theorem upper_digit_injective {a b : Nat} (aSmall : a < 16) (bSmall : b < 16)
    (same : upperDigit a = upperDigit b) : a = b := by
  have table : ∀ x : Fin 16, ∀ y : Fin 16, upperDigit x = upperDigit y → x = y := by decide
  exact congrArg Fin.val (table ⟨a, aSmall⟩ ⟨b, bSmall⟩ same)

/-- Two bytes with the same two-digit text are the same byte. -/
theorem hex02X_injective {a b : UInt8} (same : hex02X a = hex02X b) : a = b := by
  have aBound := a.toNat_lt
  have bBound := b.toNat_lt
  simp only [hex02X, String.ofList_inj, List.cons.injEq, and_true] at same
  have high := upper_digit_injective (by omega) (by omega) same.1
  have low := upper_digit_injective (by omega) (by omega) same.2
  apply UInt8.toNat_inj.mp
  omega

/-- `esp_ip_addr_t`: four octets, or eight blocks of sixteen bits. -/
inductive IpAddr where
  | v4 (a b c d : UInt8)
  | v6 (b1 b2 b3 b4 b5 b6 b7 b8 : UInt16)
  deriving DecidableEq, Repr

/-- `mb_tcp_addr_type_t`, the family the master asks for. -/
inductive MbTcpAddrType where
  | ipv4
  | ipv6
  deriving DecidableEq, Repr

/-- `IPSTR` and `IPV6STR` applied to the address. -/
def IpAddr.text : IpAddr → String
  | .v4 a b c d => s!"{a.toNat}.{b.toNat}.{c.toNat}.{d.toNat}"
  | .v6 b1 b2 b3 b4 b5 b6 b7 b8 =>
    ":".intercalate ([b1, b2, b3, b4, b5, b6, b7, b8].map hex04x)

/-- The address is of the requested family. -/
def IpAddr.isOf : IpAddr → MbTcpAddrType → Bool
  | .v4 .., .ipv4 => true
  | .v6 .., .ipv6 => true
  | _, _ => false

/-- `mdns_ip_protocol_t`. -/
inductive MdnsIpProtocol where
  | v4
  | v6
  | max
  deriving DecidableEq, Repr

/-- The fields of `mdns_result_t` that decide a resolution. -/
structure MdnsResult where
  ipProtocol : MdnsIpProtocol
  instanceName : String
  port : UInt16
  /-- The `mdns_ip_addr_t` chain of the record. -/
  addr : List IpAddr
  deriving DecidableEq, Repr

end PowerMonitor.EspIdf
