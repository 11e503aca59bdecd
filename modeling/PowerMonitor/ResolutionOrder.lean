import PowerMonitor.FirstMatch
import PowerMonitor.SlaveResolution

/-! What `master_resolve_slave` returns, read off the mDNS result list alone: the first usable
record decides, and in it the first address of the requested family. -/
namespace PowerMonitor.ResolutionOrder
open EspIdf SlaveResolution FirstMatch

/-- The upper-case hexadecimal digits. -/
def hexDigits : List Char := "0123456789ABCDEF".toList

/-- `mb_slave_tcp_` followed by the address as two upper-case hexadecimal digits. -/
def instanceNameOf (shortAddr : UInt8) : String :=
  "mb_slave_tcp_" ++ String.ofList
    [hexDigits.getD (shortAddr.toNat / 16) '0', hexDigits.getD (shortAddr.toNat % 16) '0']

/-- A record that yields an address of the requested family for a slave. -/
structure Usable (port : UInt16) (shortAddr : UInt8) (addrType : MbTcpAddrType)
    (r : MdnsResult) : Prop where
  admits : Admits addrType r
  name : r.instanceName = instanceNameOf shortAddr
  port : r.port = port
  address : ∃ a ∈ r.addr, a.isOf addrType = true

/-- The text is that of the first address of the family in the first usable record. -/
def FirstAddress (port : UInt16) (shortAddr : UInt8) (addrType : MbTcpAddrType)
    (result : List MdnsResult) (ip : String) : Prop :=
  ∃ r a, IsFirst (Usable port shortAddr addrType) result r ∧
    IsFirst (fun a => a.isOf addrType = true) r.addr a ∧ ip = a.text

/-- What a call does with a list of results. The empty list is `NULL`, an invalid argument. -/
structure ResolvesFirst (port : UInt16) (shortAddr : UInt8) (addrType : MbTcpAddrType)
    (result : List MdnsResult) (resolvedIp : Option String) (call : EspErr × Option String) :
    Prop where
  ok_iff : call.1 = espOk ↔ ∃ r ∈ result, Usable port shortAddr addrType r
  first : call.1 = espOk → ∃ ip, call.2 = some ip ∧ FirstAddress port shortAddr addrType result ip
  not_found : call.1 ≠ espOk → result ≠ [] → call = (espErrNotFound, none)
  invalid : result = [] → call = (espErrInvalidArg, resolvedIp)

private theorem upper_digit_eq : ∀ d < 16, upperDigit d = hexDigits.getD d '0' := by decide

/-- The printed name is the one the records are told apart by. -/
private theorem slave_name_eq (shortAddr : UInt8) :
    slaveName shortAddr = instanceNameOf shortAddr := by
  have bound := shortAddr.toNat_lt
  rw [slaveName, hex02X, upper_digit_eq _ (by omega), upper_digit_eq _ (by omega), instanceNameOf]

/-- A record offers an address exactly when it is usable. -/
private theorem record_ip_usable (port : UInt16) (shortAddr : UInt8) (addrType : MbTcpAddrType)
    (r : MdnsResult) :
    (recordIp port (slaveName shortAddr) addrType r).isSome = true ↔
      Usable port shortAddr addrType r := by
  unfold recordIp
  split
  · rename_i matching
    rw [Option.isSome_map, List.find?_isSome]
    constructor
    · intro address
      exact ⟨matching.1, matching.2.1.trans (slave_name_eq shortAddr), matching.2.2, address⟩
    · intro usable
      exact usable.address
  · rename_i other
    constructor
    · intro offered
      cases offered
    · intro usable
      exact absurd ⟨usable.admits, usable.name.trans (slave_name_eq shortAddr).symm, usable.port⟩
        other

/-- The address offered is the first of the family. -/
private theorem record_ip_first (offered : recordIp port name addrType r = some ip) :
    ∃ a, IsFirst (fun a => a.isOf addrType = true) r.addr a ∧ ip = a.text := by
  unfold recordIp at offered
  split at offered
  · obtain ⟨a, found, text⟩ := Option.map_eq_some_iff.mp offered
    exact ⟨a, (find?_eq_some_iff_first _).mp found, text.symm⟩
  · cases offered

/-- A list resolves a slave to the first address of its first usable record. -/
theorem resolved_first (found : resolved port addrType result shortAddr = some ip) :
    FirstAddress port shortAddr addrType result ip := by
  have nonzero := resolved_nonzero found
  rw [resolved, if_neg nonzero] at found
  obtain ⟨r, first, offered⟩ := (findSome?_eq_some_iff_first _ _).mp found
  obtain ⟨a, family, text⟩ := record_ip_first offered
  exact ⟨r, a, (is_first_congr fun r _ => record_ip_usable port shortAddr addrType r).mp first,
    family, text⟩

theorem resolved_iff_usable (nonzero : shortAddr ≠ 0) :
    (resolved port addrType result shortAddr).isSome = true ↔
      ∃ r ∈ result, Usable port shortAddr addrType r := by
  rw [resolved, if_neg nonzero, List.findSome?_isSome_iff]
  simp only [record_ip_usable]

/-- For a list that is not empty the call does not look at what `*resolved_ip` held. -/
private theorem resolve_nonempty (nonzero : shortAddr ≠ 0) (nonempty : result ≠ []) :
    masterResolveSlave port shortAddr result resolvedIp addrType =
      match resolved port addrType result shortAddr with
      | some ip => (espOk, some ip)
      | none => (espErrNotFound, none) := by
  have loop : resolveLoop port (slaveName shortAddr) addrType result =
      resolved port addrType result shortAddr := by
    rw [resolve_loop_first, resolved, if_neg nonzero]
  have searched : ¬ (shortAddr = 0 ∨ result = []) := not_or.mpr ⟨nonzero, nonempty⟩
  cases found : resolved port addrType result shortAddr with
  | none => simp only [masterResolveSlave, searched, ↓reduceIte, loop, found]
  | some ip => simp only [masterResolveSlave, searched, ↓reduceIte, loop, found]

/-- **Resolution.** For every list of records the call succeeds exactly when one is usable, and
then with the first address of the first usable one. -/
theorem master_resolve_slave_resolves_first (port : UInt16) (shortAddr : UInt8)
    (addrType : MbTcpAddrType) (result : List MdnsResult) (resolvedIp : Option String)
    (nonzero : shortAddr ≠ 0) :
    ResolvesFirst port shortAddr addrType result resolvedIp
      (masterResolveSlave port shortAddr result resolvedIp addrType) where
  ok_iff := by rw [master_resolve_slave_ok_iff, resolved_iff_usable nonzero]
  first := by
    intro ok
    rcases master_resolve_slave_cases port shortAddr result resolvedIp addrType with
      ⟨ip, found, call⟩ | ⟨missing, failed⟩
    · exact ⟨ip, by rw [call], resolved_first found⟩
    · exact absurd ok failed
  not_found := by
    intro failed nonempty
    have none : resolved port addrType result shortAddr = none := by
      rw [← Option.not_isSome_iff_eq_none]
      exact fun some => failed (master_resolve_slave_ok_iff.mpr some)
    rw [resolve_nonempty nonzero nonempty, none]
  invalid := by
    rintro rfl
    rw [masterResolveSlave, if_pos (Or.inr rfl)]

/-- The record of slave 1 that has only an IPv6 address is passed over for the one after it. -/
theorem resolves_past_other_family :
    ResolvesFirst 502 1 .ipv4
      [⟨.max, "mb_slave_tcp_01", 502, [.v6 0xfe80 0 0 0 0 0 0 1]⟩, recordOfSlave2, recordOfSlave1]
      none (espOk, some "192.168.1.21") :=
  master_resolve_slave_resolves_first 502 1 .ipv4
    [⟨.max, "mb_slave_tcp_01", 502, [.v6 0xfe80 0 0 0 0 0 0 1]⟩, recordOfSlave2, recordOfSlave1]
    none (by decide)

/-- Without any result the error is another one, and the caller's pointer keeps its value. -/
theorem no_results_invalid_argument :
    ¬ ∀ result : List MdnsResult, (¬ ∃ r ∈ result, Usable 502 1 .ipv4 r) →
      masterResolveSlave 502 1 result (some "192.168.1.21") .ipv4 = (espErrNotFound, none) := by
  intro notFound
  have call := notFound [] (by simp)
  rw [masterResolveSlave, if_pos (Or.inr rfl)] at call
  cases call

end PowerMonitor.ResolutionOrder
