import PowerMonitor.Discovery
import PowerMonitor.FieldText

/-! The texts the two firmwares write for others to read. `master_get_slave_ip_str` prints the
addresses that the Modbus stack is given in `slave_ip_address_table`; an RTU puts its MAC
address and its identifier in the TXT record of its service. -/
namespace PowerMonitor.AddressText
open EspIdf Dictionary SlaveResolution SlaveList RegistrationPass QueryService StartUp
open Services Advertisement FieldText

/-- The value of a hexadecimal digit of either case. -/
def digitValue (c : Char) : Option Nat :=
  if '0' ≤ c ∧ c ≤ '9' then some (c.toNat - '0'.toNat)
  else if 'a' ≤ c ∧ c ≤ 'f' then some (c.toNat - 'a'.toNat + 10)
  else if 'A' ≤ c ∧ c ≤ 'F' then some (c.toNat - 'A'.toNat + 10)
  else none

private theorem digit_value_upper {d : Nat} (small : d < 16) :
    digitValue (upperDigit d) = some d := by
  have table : ∀ d : Fin 16, digitValue (upperDigit d) = some d.val := by decide
  exact table ⟨d, small⟩

private theorem digit_value_lower {d : Nat} (small : d < 16) :
    digitValue (lowerDigit d) = some d := by
  have table : ∀ d : Fin 16, digitValue (lowerDigit d) = some d.val := by decide
  exact table ⟨d, small⟩

/-- A hexadecimal numeral. -/
def readHex (text : List Char) : Option Nat :=
  (text.mapM digitValue).map fun digits => digits.foldl (fun n d => 16 * n + d) 0

/-- `%02X`. -/
def byteHex : Format UInt8 where
  write b := (hex02X b).toList
  read text := (readHex text).map UInt8.ofNat
  read_write b := by
    have bound := b.toNat_lt
    have high : b.toNat / 16 < 16 := by omega
    have low : b.toNat % 16 < 16 := by omega
    simp only [hex02X, String.toList_ofList, readHex, List.mapM_cons, List.mapM_nil,
      digit_value_upper high, digit_value_upper low]
    simp [Nat.div_add_mod]

/-- `%04x`. -/
def wordHex : Format UInt16 where
  write w := (hex04x w).toList
  read text := (readHex text).map UInt16.ofNat
  read_write w := by
    have bound := w.toNat_lt
    have first : w.toNat / 4096 < 16 := by omega
    have second : w.toNat / 256 % 16 < 16 := by omega
    have third : w.toNat / 16 % 16 < 16 := by omega
    have fourth : w.toNat % 16 < 16 := by omega
    simp only [hex04x, String.toList_ofList, readHex, List.mapM_cons, List.mapM_nil,
      digit_value_lower first, digit_value_lower second, digit_value_lower third,
      digit_value_lower fourth]
    have whole : 16 * (16 * (16 * (w.toNat / 4096) + w.toNat / 256 % 16) + w.toNat / 16 % 16) +
        w.toNat % 16 = w.toNat := by omega
    simp [whole]

/-- `%d` of an octet. A numeral is read if it is one and its value fits in the octet. -/
def octet : Format UInt8 where
  write b := b.toNat.repr.toList
  read text :=
    if text ≠ [] ∧ text.all Char.isDigit ∧ Nat.ofDigitChars 10 text 0 < 256 then
      some (UInt8.ofNat (Nat.ofDigitChars 10 text 0))
    else none
  read_write b := by
    have digits : (Nat.toDigits 10 b.toNat).all Char.isDigit := List.all_eq_true.mpr
      fun c member => Nat.isDigit_of_mem_toDigits (by decide) (by decide) member
    have some : Nat.toDigits 10 b.toNat ≠ [] := by simp
    rw [Nat.toList_repr, Nat.ofDigitChars_ten_toDigits, if_pos ⟨some, digits, b.toNat_lt⟩]
    simp

/-- Reads the text of an address of a family. -/
def readIp (addrType : MbTcpAddrType) (text : String) : Option IpAddr :=
  match addrType with
  | .ipv4 =>
    match octet.split '.' text.toList with
    | some [a, b, c, d] => some (.v4 a b c d)
    | _ => none
  | .ipv6 =>
    match wordHex.split ':' text.toList with
    | some [b1, b2, b3, b4, b5, b6, b7, b8] => some (.v6 b1 b2 b3 b4 b5 b6 b7 b8)
    | _ => none

private theorem dot_free (b : UInt8) : '.' ∉ octet.write b := by
  intro member
  have digit : Char.isDigit '.' := by
    simp only [octet, Nat.toList_repr] at member
    exact Nat.isDigit_of_mem_toDigits (by decide) (by decide) member
  exact absurd digit (by decide)

private theorem colon_free (w : UInt16) : ':' ∉ wordHex.write w := by
  have table : ∀ d : Fin 16, ':' ≠ lowerDigit d.val := by decide
  have bound := w.toNat_lt
  have apart {d : Nat} (small : d < 16) : ':' ≠ lowerDigit d := table ⟨d, small⟩
  simp only [wordHex, hex04x, String.toList_ofList, List.mem_cons, List.not_mem_nil, or_false]
  rintro (same | same | same | same)
  · exact apart (by omega) same
  · exact apart (by omega) same
  · exact apart (by omega) same
  · exact apart (by omega) same

/-- The text of an address reads back. -/
private theorem read_ip_text {a : IpAddr} {addrType : MbTcpAddrType}
    (family : a.isOf addrType = true) :
    readIp addrType a.text = some a := by
  cases a with
  | v4 a b c d =>
    cases addrType with
    | ipv6 => cases family
    | ipv4 =>
      have text : (IpAddr.v4 a b c d).text.toList = octet.join '.' [a, b, c, d] := by
        have dot : (toString ".").toList = ['.'] := rfl
        simp [IpAddr.text, Format.join, octet, List.intercalate, dot]
      rw [readIp, text, octet.split_join '.' dot_free (by simp)]
  | v6 b1 b2 b3 b4 b5 b6 b7 b8 =>
    cases addrType with
    | ipv4 => cases family
    | ipv6 =>
      have text : (IpAddr.v6 b1 b2 b3 b4 b5 b6 b7 b8).text.toList =
          wordHex.join ':' [b1, b2, b3, b4, b5, b6, b7, b8] := by
        simp [IpAddr.text, Format.join, wordHex, List.intercalate]
      rw [readIp, text, wordHex.split_join ':' colon_free (by simp)]

/-! ## The table the Modbus stack is given -/

section
variable (port : UInt16) (dict : ParameterDictionary) (addrType : MbTcpAddrType)
  (outcome : Outcomes)

/-- One of the first `k` queries resolved a slave of the dictionary to the text. -/
def Offered (k : Nat) (ip : String) : Prop :=
  ∃ j < k, ∃ a ∈ dict.slaveAddrs, queryAnswer port addrType (outcome j) a = some ip

end

/-- The texts in the list and in the table all have the property. -/
structure Filled (offered : String → Prop) (list : List SlaveAddrEntry)
    (table : List (Option String)) : Prop where
  entries : ∀ e ∈ list, ∀ ip, e.ipAddress = some ip → offered ip
  slots : ∀ ip, some ip ∈ table → offered ip

variable {port : UInt16} {dict : ParameterDictionary} {addrType : MbTcpAddrType}
  {outcome : Outcomes} {g : Globals} {k : Nat} {offered : String → Prop}

/-- Writing a slot adds one text at most. -/
private theorem slots_set {table : List (Option String)} {slot : Option String}
    (slots : ∀ ip, some ip ∈ table → offered ip) (new : ∀ ip, slot = some ip → offered ip)
    (i : Nat) : ∀ ip, some ip ∈ table.set i slot → offered ip := by
  intro ip member
  rcases List.mem_or_eq_of_mem_set member with kept | here
  · exact slots ip kept
  · exact new ip here.symm

/-- The loop over the dictionary writes what it resolved or what the list holds. -/
private theorem create_loop_filled (call : CreateCall) (entries : List MbParameterDescriptor)
    (i : Nat) (s : CreateState) (filled : Filled offered s.slaveAddrList s.ipTable)
    (resolves : ∀ d ∈ entries, ∀ ip, answer call d.mbSlaveAddr = some ip → offered ip) :
    Filled offered (createLoop call entries i s).2.slaveAddrList
      (createLoop call entries i s).2.ipTable := by
  induction entries, i, s using create_loop_induction call with
  | done i s => exact filled
  | registered d entries i s it found run ih =>
    have held := filled.entries it (find_some_mem found).1
    rw [run]
    exact ih ⟨filled.entries, slots_set filled.slots held s.ipIndex⟩
      fun d member => resolves d (List.mem_cons_of_mem _ member)
  | unresolved d entries i s slaveIp absent missed run ih =>
    have none : ∀ text, Option.none = some text → offered text := fun _ same => nomatch same
    rw [run]
    exact ih ⟨filled.entries, slots_set filled.slots none s.ipIndex⟩
      fun d member => resolves d (List.mem_cons_of_mem _ member)
  | refused d entries i s ip absent answered denied run =>
    rw [run]
    exact filled
  | registers d entries i s ip absent answered allowed run ih =>
    have new : ∀ text, some ip = some text → offered text := by
      intro text same
      exact resolves d List.mem_cons_self text (answered.trans same)
    rw [run]
    refine ih ⟨fun e member => ?_, slots_set filled.slots new s.ipIndex⟩
      fun d member => resolves d (List.mem_cons_of_mem _ member)
    rcases List.mem_cons.mp member with rfl | before
    · exact new
    · exact filled.entries e before

/-- What earlier queries offered is still offered. -/
private theorem filled_later {later : Nat} (filled : Filled (Offered port dict addrType outcome k)
    g.slaveAddrList g.slaveIpAddressTable) (after : k ≤ later) :
    Filled (Offered port dict addrType outcome later) g.slaveAddrList g.slaveIpAddressTable := by
  have kept (ip : String) (offered : Offered port dict addrType outcome k ip) :
      Offered port dict addrType outcome later ip := by
    obtain ⟨j, early, rest⟩ := offered
    exact ⟨j, by omega, rest⟩
  exact ⟨fun e member ip held => kept ip (filled.entries e member ip held),
    fun ip member => kept ip (filled.slots ip member)⟩

/-- **One query.** -/
private theorem filled_query (filled : Filled (Offered port dict addrType outcome k) g.slaveAddrList
    g.slaveIpAddressTable) :
    Filled (Offered port dict addrType outcome (k + 1))
      (masterQuerySlaveService port dict addrType (outcome k) g).2.slaveAddrList
      (masterQuerySlaveService port dict addrType (outcome k) g).2.slaveIpAddressTable := by
  have kept := filled_later filled (Nat.le_succ k)
  by_cases reaches : Reaches (outcome k)
  · rw [query_reaches reaches]
    refine create_loop_filled _ _ 0 (entryState g) kept fun d member ip found => ?_
    rw [← query_answer_of_reaches reaches] at found
    exact ⟨k, Nat.lt_succ_self k, d.mbSlaveAddr, List.mem_map_of_mem member, found⟩
  · rw [query_not_reaches reaches]
    exact kept

/-- The retries, which make ten queries at most. -/
private theorem filled_retries (left : Nat) (res : Int) (total : k + left = 10)
    (filled : Filled (Offered port dict addrType outcome k) g.slaveAddrList
      g.slaveIpAddressTable) :
    Filled (Offered port dict addrType outcome 10)
      (retryLoop port dict addrType outcome left k res g).2.slaveAddrList
      (retryLoop port dict addrType outcome left k res g).2.slaveIpAddressTable := by
  induction left generalizing k res g with
  | zero => exact filled_later filled (by omega)
  | succ left ih =>
    by_cases again : res < dict.numDeviceParameters
    · simp only [retryLoop, again, ↓reduceIte]
      exact ih _ (by omega) (filled_query filled)
    · simp only [retryLoop, again, ↓reduceIte]
      exact filled_later filled (by omega)

private theorem filled_boot (ipTableSz : Nat) :
    Filled (Offered port dict addrType outcome 0) (Globals.boot ipTableSz).slaveAddrList
      (Globals.boot ipTableSz).slaveIpAddressTable where
  entries _ member := nomatch member
  slots ip member := by
    have empty := List.eq_of_mem_replicate member
    cases empty

/-- The texts that the queries leave. -/
theorem resolved_reads_back (ipTableSz : Nat) {ip : String}
    (member : some ip ∈
      (resolveSlaves port dict addrType ipTableSz outcome).2.2.slaveIpAddressTable) :
    ∃ address, readIp addrType ip = some address ∧ address.isOf addrType = true ∧
      ∃ k < 10, ∃ r ∈ (outcome k).results, address ∈ r.addr ∧ r.port = port ∧
        ∃ slave ∈ dict.slaveAddrs, r.instanceName = slaveName slave := by
  rw [Discovery.resolve_slaves_result] at member
  obtain ⟨k, within, slave, named, resolves⟩ :=
    (filled_retries 10 0 rfl (filled_boot ipTableSz)).slots ip member
  unfold queryAnswer at resolves
  split at resolves
  · obtain ⟨r, listed, name, portSame, _, address, carried, family, rfl⟩ :=
      resolved_from_record resolves
    exact ⟨address, read_ip_text family, family, k, within, r, listed, carried, portSame, slave,
      named, name⟩
  · cases resolves

/-- **Every text in the table reads back.** Whatever the calls and the queries of a start-up
deliver, whichever allocations fail and however it ends, each text the Modbus stack finds in the
table is read as one address, of the requested family, that a record carries which one of the
queries delivered under the name of a slave of the dictionary and at the configured port. -/
theorem table_reads_back (connectWifi : Bool) (a : ServiceAnswers) (port : UInt16)
    (dict : ParameterDictionary) (addrType : MbTcpAddrType) (ipTableSz : Nat)
    (outcome : Outcomes) :
    ∀ ip, some ip ∈ (initServices connectWifi a port dict addrType ipTableSz
          outcome).2.slaveIpAddressTable →
      ∃ address, readIp addrType ip = some address ∧ address.isOf addrType = true ∧
        ∃ k < 10, ∃ r ∈ (outcome k).results, address ∈ r.addr ∧ r.port = port ∧
          ∃ slave ∈ dict.slaveAddrs, r.instanceName = slaveName slave := by
  intro ip member
  by_cases cameUp : CameUp connectWifi a
  · rw [init_services_of_came_up port dict addrType ipTableSz outcome cameUp] at member
    exact resolved_reads_back ipTableSz member
  · -- Nothing was written before the queries.
    rw [(init_services_early port dict addrType ipTableSz outcome cameUp).2] at member
    cases List.eq_of_mem_replicate member

/-- The text that the start-up stores for slave 1. -/
theorem slave_1_reads_back :
    ∃ address, readIp .ipv4 "192.168.1.21" = some address ∧ address.isOf .ipv4 = true ∧
      ∃ k < 10, ∃ r ∈ (Discovery.foundByThird k).results, address ∈ r.addr ∧ r.port = 502 ∧
        ∃ slave ∈ shipped.slaveAddrs, r.instanceName = slaveName slave :=
  table_reads_back true Discovery.allSucceed 502 shipped .ipv4 shippedIpTableSz
    Discovery.foundByThird "192.168.1.21" (by decide)

/-! ## The TXT record of an RTU -/

/-- Six bytes in hexadecimal. -/
def readMac (text : String) : Option (List UInt8) := byteHex.unpack 2 6 text.toList

/-- Four bytes in hexadecimal, lowest first. -/
def readId (text : String) : Option Nat :=
  (byteHex.unpack 2 4 text.toList).map fun bytes => bytes.foldr (fun b n => b.toNat + 256 * n) 0

private theorem byte_hex_length (b : UInt8) : (byteHex.write b).length = 2 := by
  simp [byteHex, hex02X]

/-- A text joined from bytes is the packed bytes. -/
private theorem join_bytes (bytes : List UInt8) :
    (String.join (bytes.map hex02X)).toList = byteHex.pack bytes := by
  simp only [String.toList_join, Format.pack, byteHex, List.flatMap_def, List.map_map]
  rfl

theorem mac_text (mac : Fin 6 → UInt8) :
    (genMacStr mac "").toList = byteHex.pack (List.ofFn mac) := by
  rw [← join_bytes, List.map_ofFn]
  simp [genMacStr, Function.comp_def]

theorem id_text (config : RtuConfig) :
    (genIdStr config "").toList = byteHex.pack (mbId2Str config.slaveId) := by
  rw [← join_bytes]
  simp [genIdStr]

/-- The bytes of an identifier, lowest first. -/
private theorem id_bytes (id : UInt32) :
    (mbId2Str id).foldr (fun b n => b.toNat + 256 * n) 0 = id.toNat := by
  have bound := id.toNat_lt
  simp only [mbId2Str, List.foldr_cons, List.foldr_nil, UInt32.toNat_toUInt8,
    UInt32.toNat_shiftRight, UInt32.reduceToNat, Nat.reduceMod, Nat.shiftRight_eq_div_pow]
  omega

/-- **The TXT record of every RTU reads back.** The texts under `mac` and `mb_id` are those of
its MAC address and its identifier, and like its host name they fit with their NUL in the 32
characters of `temp_str`. -/
theorem identity_reads_back (config : RtuConfig) :
    ∃ service mac id, (startMdnsService config).services = [service] ∧
      service.txt.lookup "mac" = some mac ∧ readMac mac = some (List.ofFn config.mac) ∧
      service.txt.lookup "mb_id" = some id ∧ readId id = some config.slaveId.toNat ∧
      mac.length < 32 ∧ id.length < 32 ∧ (startMdnsService config).hostname.length < 32 := by
  have fixed := byte_hex_length
  have four : (mbId2Str config.slaveId).length = 4 := rfl
  have two : (hex02X config.slaveAddr).length = 2 := by simp [hex02X]
  have macRead : readMac (genMacStr config.mac "") = some (List.ofFn config.mac) := by
    have read := byteHex.unpack_pack fixed (List.ofFn config.mac)
    rwa [List.length_ofFn, ← mac_text] at read
  have idRead : readId (genIdStr config "") = some config.slaveId.toNat := by
    have read := byteHex.unpack_pack fixed (mbId2Str config.slaveId)
    rw [four, ← id_text] at read
    rw [readId, read, Option.map_some, id_bytes]
  refine ⟨_, genMacStr config.mac "", genIdStr config "", rfl, rfl, macRead, rfl, idRead,
    ?_, ?_, ?_⟩
  · rw [← String.length_toList, mac_text, byteHex.pack_length fixed, List.length_ofFn]
    decide
  · rw [← String.length_toList, id_text, byteHex.pack_length fixed, four]
    decide
  · rw [host_name_eq_slave_name, slaveName, String.length_append, two]
    decide

end PowerMonitor.AddressText
