import PowerMonitor.SlaveList

/-! `init_services` of the master (`master/main/services.c`). Before it queries the network it
brings up the flash, the network, mDNS, the connection, the files and the web server: a failure
there makes it return, or aborts the firmware. -/
namespace PowerMonitor.Services
open EspIdf Dictionary SlaveList

def espErrNvsNoFreePages : EspErr := 0x110D
def espErrNvsNewVersionFound : EspErr := 0x1110

/-- The checked calls of `initialize_mdns`. -/
inductive MdnsCall where
  | espReadMac
  | mdnsInit
  | mdnsHostnameSet
  | mdnsInstanceNameSet
  | mdnsServiceAdd
  | mdnsServiceTxtItemSetMac
  | mdnsServiceTxtItemSetMbId
  | mdnsServiceAddHttp
  deriving DecidableEq, Repr

/-- The order of the source. -/
def mdnsCalls : List MdnsCall :=
  [.espReadMac, .mdnsInit, .mdnsHostnameSet, .mdnsInstanceNameSet, .mdnsServiceAdd,
    .mdnsServiceTxtItemSetMac, .mdnsServiceTxtItemSetMbId, .mdnsServiceAddHttp]

/-- What the calls that `init_services` makes before its queries answer. -/
structure ServiceAnswers where
  nvsFlashInit : EspErr
  nvsFlashErase : EspErr
  /-- The second `nvs_flash_init`, after the flash was erased. -/
  nvsFlashInitAgain : EspErr
  espNetifInit : EspErr
  espEventLoopCreateDefault : EspErr
  mdns : MdnsCall → EspErr
  exampleConnect : EspErr
  espWifiSetPs : EspErr
  /-- The call of `init_fs` that mounts the files, of the way of deployment configured. -/
  mount : EspErr
  /-- `start_rest_server` gets the memory of its context. -/
  calloc : Bool
  httpdStart : EspErr

/-- How `init_services` ends. -/
inductive Ending where
  /-- An `ESP_ERROR_CHECK` failed. -/
  | aborted
  | returned (err : EspErr)
  deriving DecidableEq, Repr

/-- `ESP_ERROR_CHECK(err)`. -/
def espErrorCheck (err : EspErr) : Except Ending Unit :=
  if err = espOk then .ok () else .error .aborted

/-- `MB_RETURN_ON_FALSE((result == ESP_OK), ESP_ERR_INVALID_STATE, ..)`. -/
def mbReturnOnFalse (result : EspErr) : Except Ending Unit :=
  if result = espOk then .ok () else .error (.returned espErrInvalidState)

def initializeMdns (answers : MdnsCall → EspErr) : Except Ending Unit :=
  forM mdnsCalls fun call => espErrorCheck (answers call)

def initFs (mount : EspErr) : EspErr := if mount ≠ espOk then espFail else espOk

def startRestServer (calloc : Bool) (httpdStart : EspErr) : EspErr :=
  if calloc = false then espFail
  else if httpdStart ≠ espOk then espFail
  else espOk

/-- The flash is erased once when it has no free pages or those of another version. -/
def needsErase (result : EspErr) : Bool :=
  result = espErrNvsNoFreePages ∨ result = espErrNvsNewVersionFound

/-- The part of `init_services` about the flash. -/
def initFlash (a : ServiceAnswers) : Except Ending Unit :=
  if needsErase a.nvsFlashInit then do
    espErrorCheck a.nvsFlashErase
    mbReturnOnFalse a.nvsFlashInitAgain
  else mbReturnOnFalse a.nvsFlashInit

/-- The part under `CONFIG_EXAMPLE_CONNECT_WIFI`. -/
def setPowerSave (connectWifi : Bool) (a : ServiceAnswers) : Except Ending Unit :=
  if connectWifi then mbReturnOnFalse a.espWifiSetPs else .ok ()

/-- `init_services` up to its queries. -/
def bringUp (connectWifi : Bool) (a : ServiceAnswers) : Except Ending Unit := do
  initFlash a
  mbReturnOnFalse a.espNetifInit
  mbReturnOnFalse a.espEventLoopCreateDefault
  initializeMdns a.mdns
  mbReturnOnFalse a.exampleConnect
  setPowerSave connectWifi a
  espErrorCheck (initFs a.mount)
  espErrorCheck (startRestServer a.calloc a.httpdStart)

/-- `init_services`: how it ends, and the globals it leaves. -/
def initServices (connectWifi : Bool) (a : ServiceAnswers) (port : UInt16)
    (dict : ParameterDictionary) (addrType : MbTcpAddrType) (ipTableSz : Nat)
    (outcome : Nat → QueryOutcome) : Ending × Globals :=
  match bringUp connectWifi a with
  | .error early => (early, Globals.boot ipTableSz)
  | .ok () =>
    let (err, _, g) := resolveSlaves port dict addrType ipTableSz outcome
    (.returned err, g)

/-- Every call up to the queries succeeds; the flash may have to be erased for it. -/
structure CameUp (connectWifi : Bool) (a : ServiceAnswers) : Prop where
  flash : a.nvsFlashInit = espOk ∨
    needsErase a.nvsFlashInit ∧ a.nvsFlashErase = espOk ∧ a.nvsFlashInitAgain = espOk
  netif : a.espNetifInit = espOk
  eventLoop : a.espEventLoopCreateDefault = espOk
  mdns : ∀ call, a.mdns call = espOk
  connect : a.exampleConnect = espOk
  wifi : connectWifi → a.espWifiSetPs = espOk
  files : a.mount = espOk
  server : a.calloc ∧ a.httpdStart = espOk

/-- The ways `init_services` ends when one of these calls fails. -/
def EndsEarly (ending : Ending) : Prop :=
  ending = .aborted ∨ ending = .returned espErrInvalidState

variable {connectWifi : Bool} {a : ServiceAnswers} {x y : Except Ending Unit} {ending : Ending}

/-! ## Sequences of checked calls -/

@[simp] theorem esp_error_check_ok_iff (err : EspErr) :
    espErrorCheck err = .ok () ↔ err = espOk := by
  simp [espErrorCheck]

@[simp] theorem mb_return_on_false_ok_iff (result : EspErr) :
    mbReturnOnFalse result = .ok () ↔ result = espOk := by
  simp [mbReturnOnFalse]

/-- A sequence succeeds when both of its parts do. -/
private theorem seq_ok_iff : (x >>= fun _ => y) = .ok () ↔ x = .ok () ∧ y = .ok () := by
  cases x <;> simp [bind, Except.bind]

private theorem calls_ok_iff {α : Type} (check : α → Except Ending Unit) (calls : List α) :
    forM calls check = .ok () ↔ ∀ call ∈ calls, check call = .ok () := by
  induction calls with
  | nil => simp [pure, Except.pure]
  | cons call calls ih => rw [List.forM_cons, seq_ok_iff, ih, List.forall_mem_cons]

/-- The sequence fails in no other way than these. -/
def FailsEarly (x : Except Ending Unit) : Prop := ∀ ending, x = .error ending → EndsEarly ending

private theorem fails_early_check (err : EspErr) : FailsEarly (espErrorCheck err) := by
  unfold espErrorCheck
  split
  · exact fun _ none => nomatch none
  · rintro _ ⟨⟩
    exact Or.inl rfl

private theorem fails_early_return (result : EspErr) : FailsEarly (mbReturnOnFalse result) := by
  unfold mbReturnOnFalse
  split
  · exact fun _ none => nomatch none
  · rintro _ ⟨⟩
    exact Or.inr rfl

private theorem fails_early_seq (first : FailsEarly x) (second : FailsEarly y) :
    FailsEarly (x >>= fun _ => y) := by
  cases x with
  | error ending => exact first
  | ok _ => exact second

private theorem fails_early_calls {α : Type} {check : α → Except Ending Unit}
    (each : ∀ call, FailsEarly (check call)) (calls : List α) : FailsEarly (forM calls check) := by
  induction calls with
  | nil => exact fun _ none => nomatch none
  | cons call calls ih =>
    rw [List.forM_cons]
    exact fails_early_seq (each call) ih

/-! ## The calls of `init_services` -/

theorem initialize_mdns_ok_iff (answers : MdnsCall → EspErr) :
    initializeMdns answers = .ok () ↔ ∀ call, answers call = espOk := by
  have every : ∀ call, call ∈ mdnsCalls := by
    intro call
    cases call <;> decide
  simp only [initializeMdns, calls_ok_iff, every, esp_error_check_ok_iff, forall_const]

theorem init_fs_ok_iff (mount : EspErr) : initFs mount = espOk ↔ mount = espOk := by
  unfold initFs
  by_cases ok : mount = espOk
  · simp [ok]
  · rw [if_pos ok]
    exact iff_of_false (by decide) ok

theorem start_rest_server_ok_iff (calloc : Bool) (httpdStart : EspErr) :
    startRestServer calloc httpdStart = espOk ↔ calloc ∧ httpdStart = espOk := by
  unfold startRestServer
  cases calloc with
  | false => exact iff_of_false (by simp [espFail, espOk]) (by simp)
  | true =>
    by_cases ok : httpdStart = espOk
    · simp [ok]
    · rw [if_neg (by simp), if_pos ok]
      exact iff_of_false (by decide) (by simp [ok])

theorem init_flash_ok_iff (a : ServiceAnswers) :
    initFlash a = .ok () ↔ a.nvsFlashInit = espOk ∨
      needsErase a.nvsFlashInit ∧ a.nvsFlashErase = espOk ∧ a.nvsFlashInitAgain = espOk := by
  unfold initFlash
  split
  · rename_i erase
    have failed : a.nvsFlashInit ≠ espOk := by
      intro ok
      rw [ok] at erase
      exact absurd erase (by decide)
    simp [seq_ok_iff, failed, erase]
  · rename_i keep
    simp [keep]

theorem set_power_save_ok_iff (connectWifi : Bool) (a : ServiceAnswers) :
    setPowerSave connectWifi a = .ok () ↔ (connectWifi → a.espWifiSetPs = espOk) := by
  cases connectWifi <;> simp [setPowerSave]

/-- The queries are reached when every call before them succeeds. -/
theorem bring_up_ok_iff (connectWifi : Bool) (a : ServiceAnswers) :
    bringUp connectWifi a = .ok () ↔ CameUp connectWifi a := by
  simp only [bringUp, seq_ok_iff, init_flash_ok_iff, mb_return_on_false_ok_iff,
    initialize_mdns_ok_iff, set_power_save_ok_iff, esp_error_check_ok_iff, init_fs_ok_iff,
    start_rest_server_ok_iff]
  constructor
  · rintro ⟨flash, netif, eventLoop, mdns, connect, wifi, files, server⟩
    exact ⟨flash, netif, eventLoop, mdns, connect, wifi, files, server⟩
  · rintro ⟨flash, netif, eventLoop, mdns, connect, wifi, files, server⟩
    exact ⟨flash, netif, eventLoop, mdns, connect, wifi, files, server⟩

/-- Otherwise `init_services` aborts or returns `ESP_ERR_INVALID_STATE`. -/
theorem bring_up_fails_early (connectWifi : Bool) (a : ServiceAnswers) :
    FailsEarly (bringUp connectWifi a) := by
  have flash : FailsEarly (initFlash a) := by
    unfold initFlash
    split
    · exact fails_early_seq (fails_early_check _) (fails_early_return _)
    · exact fails_early_return _
  have powerSave : FailsEarly (setPowerSave connectWifi a) := by
    unfold setPowerSave
    split
    · exact fails_early_return _
    · exact fun _ none => nomatch none
  have mdns : FailsEarly (initializeMdns a.mdns) :=
    fails_early_calls (fun call => fails_early_check _) mdnsCalls
  exact fails_early_seq flash <| fails_early_seq (fails_early_return _) <|
    fails_early_seq (fails_early_return _) <| fails_early_seq mdns <|
    fails_early_seq (fails_early_return _) <| fails_early_seq powerSave <|
    fails_early_seq (fails_early_check _) (fails_early_check _)

/-! ## How `init_services` ends -/

variable (port : UInt16) (dict : ParameterDictionary) (addrType : MbTcpAddrType) (ipTableSz : Nat)
  (outcome : Nat → QueryOutcome)

/-- A start-up that comes up is decided by its queries. -/
theorem init_services_of_came_up (cameUp : CameUp connectWifi a) :
    initServices connectWifi a port dict addrType ipTableSz outcome =
      (.returned (resolveSlaves port dict addrType ipTableSz outcome).1,
        (resolveSlaves port dict addrType ipTableSz outcome).2.2) := by
  rw [initServices, (bring_up_ok_iff connectWifi a).mpr cameUp]

/-- One that does not has registered nothing. -/
theorem init_services_early (stays : ¬ CameUp connectWifi a) :
    EndsEarly (initServices connectWifi a port dict addrType ipTableSz outcome).1 ∧
      (initServices connectWifi a port dict addrType ipTableSz outcome).2 =
        Globals.boot ipTableSz := by
  rw [← bring_up_ok_iff] at stays
  unfold initServices
  split
  · rename_i early failed
    exact ⟨bring_up_fails_early connectWifi a early failed, rfl⟩
  · rename_i succeeded
    exact absurd succeeded stays

end PowerMonitor.Services
