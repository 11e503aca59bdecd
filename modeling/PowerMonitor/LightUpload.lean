import PowerMonitor.ByteMemory
import PowerMonitor.EspIdf
import PowerMonitor.Pieces
import PowerMonitor.StaticFiles
import Mathlib.Algebra.Group.Nat.Defs

/-! `light_brightness_post_handler` (`master/main/rest_server.c`): the body of a POST is received
in pieces into the scratch buffer of the server, ended with a NUL and read as JSON. The JSON
library is a parameter. -/
namespace PowerMonitor.LightUpload
open EspIdf ByteMemory Pieces StaticFiles

/-- A POST, with the body its client sends. -/
structure Post where
  contentLen : UInt32
  body : List UInt8
  complete : body.length = contentLen.toNat

/-- What the handler uses of the cJSON library, and what its documentation speaks of. A C string
is the list of its bytes before the NUL, and a null pointer is `none`. -/
structure CJson where
  Item : Type
  parse : List UInt8 → Option Item
  getObjectItem : Option Item → String → Option Item
  valueint : Item → Int
  isObject : Item → Bool
  hasMember : Item → String → Bool

/-- `scratch`, the memory from the buffer's start on. -/
abbrev Scratch : Type := Memory Unit

/-- A call of `httpd_req_recv`: the offset in the buffer and the length it is given, and the
bytes it delivers, 0 for an error. -/
structure Recv where
  offset : Nat
  length : Nat
  received : Nat
  deriving DecidableEq, Repr

/-- What the handler does, in order. -/
inductive Call where
  | recv (call : Recv)
  /-- The NUL stored behind the body. -/
  | storeNul (index : Int)
  /-- `cJSON_Parse`, with the bytes from the buffer's start to the NUL stored. -/
  | parse (buf : List UInt8)
  | lightControl (red green blue : Int)
  | delete
  | sendErr (message : String)
  | sendStr (message : String)
  deriving DecidableEq, Repr

/-- How the handler ends. Nothing is said of what follows a store outside the buffer. -/
inductive Exit where
  | returns (err : EspErr)
  | nullDereference
  | strayStore
  deriving DecidableEq, Repr

structure Outcome where
  calls : List Call
  exit : Exit
  deriving DecidableEq, Repr

/-- The calls come before those of the outcome. -/
def Outcome.after (calls : List Call) (o : Outcome) : Outcome := ⟨calls ++ o.calls, o.exit⟩

/-- `total_len`, the content length as an `int`. -/
def Post.totalLen (req : Post) : Int := req.contentLen.toInt32.toInt

/-- What the receive loop leaves. -/
structure Received where
  recvs : List Recv
  curLen : Nat
  scratch : Scratch
  failed : Bool

/-- The buffer after bytes were written from an offset on. -/
def fill (scratch : Scratch) (offset : Nat) (bytes : List UInt8) : Scratch :=
  store scratch () offset bytes.get

/-- The receive loop, with the bytes of the body that are not received yet. -/
def receive (totalLen : Int) (answers : Answers) (unread : List UInt8) (curLen : Nat)
    (scratch : Scratch) : Received :=
  if curLen < totalLen then
    let received := movedBy totalLen.toNat unread.length (answers 0)
    let call : Recv := ⟨curLen, totalLen.toNat, received⟩
    if received = 0 then ⟨[call], curLen, scratch, true⟩
    else
      let rest := receive totalLen answers.later (unread.drop received) (curLen + received)
        (fill scratch curLen (unread.take received))
      { rest with recvs := call :: rest.recvs }
  else ⟨[], curLen, scratch, false⟩
termination_by unread.length
decreasing_by
  have bound := moved_by_le_left totalLen.toNat unread.length (answers 0)
  rw [List.length_drop]
  omega

/-- `cJSON_Parse` and what follows, on the bytes up to the NUL. -/
def parseAndRespond (cJson : CJson) (buf : List UInt8) : Outcome :=
  let root := cJson.parse (buf.takeWhile (· ≠ 0))
  match cJson.getObjectItem root "red" with
  | none => ⟨[.parse buf], .nullDereference⟩
  | some red =>
    match cJson.getObjectItem root "green" with
    | none => ⟨[.parse buf], .nullDereference⟩
    | some green =>
      match cJson.getObjectItem root "blue" with
      | none => ⟨[.parse buf], .nullDereference⟩
      | some blue =>
        ⟨[.parse buf,
          .lightControl (cJson.valueint red) (cJson.valueint green) (cJson.valueint blue),
          .delete, .sendStr "Post control value successfully"], .returns espOk⟩

/-- The bytes from the buffer's start up to an index. -/
def bytesTo (scratch : Scratch) (index : Nat) : List UInt8 :=
  (List.range (index + 1)).map (scratch ())

def lightBrightnessPostHandler (cJson : CJson) (req : Post) (answers : Answers)
    (scratch : Scratch) : Outcome :=
  if req.totalLen ≥ scratchBufsize then ⟨[.sendErr "content too long"], .returns espFail⟩
  else
    let r := receive req.totalLen answers req.body 0 scratch
    if r.failed then
      ⟨r.recvs.map .recv ++ [.sendErr "Failed to post control value"], .returns espFail⟩
    else if req.totalLen < 0 then
      ⟨r.recvs.map .recv ++ [.storeNul req.totalLen], .strayStore⟩
    else
      let scratch := fill r.scratch req.totalLen.toNat [0]
      (parseAndRespond cJson (bytesTo scratch req.totalLen.toNat)).after
        (r.recvs.map .recv ++ [.storeNul req.totalLen])

/-- Every call that the loop makes delivers bytes. -/
def Delivered (req : Post) (answers : Answers) : Prop :=
  ∀ i, ∀ _ ∈ movedBefore req.body.length req.body.length answers 0 i, (answers i).isSome

/-- The responses the client is sent. -/
def responses (o : Outcome) : List Call :=
  o.calls.filter fun
    | .sendErr _ => true
    | .sendStr _ => true
    | _ => false

/-- The texts handed to `cJSON_Parse`. -/
def parsed (o : Outcome) : List (List UInt8) :=
  o.calls.filterMap fun
    | .parse buf => some buf
    | _ => none

/-- What the library's documentation says of `cJSON_GetObjectItem`. -/
structure CJson.Documented (cJson : CJson) : Prop where
  nullItem : ∀ name, cJson.getObjectItem none name = none
  notObject : ∀ item name, cJson.isObject item = false →
    cJson.getObjectItem (some item) name = none
  noMember : ∀ item name, cJson.hasMember item name = false →
    cJson.getObjectItem (some item) name = none
  isMember : ∀ item name, cJson.isObject item = true → cJson.hasMember item name = true →
    (cJson.getObjectItem (some item) name).isSome

variable {n curLen : Nat} {answers : Answers} {unread body : List UInt8} {scratch : Scratch}

theorem Post.total_len_eq (req : Post) (small : req.contentLen.toNat < 2 ^ 31) :
    req.totalLen = req.body.length := by
  rw [req.complete]
  change req.contentLen.toBitVec.toInt = (req.contentLen.toBitVec.toNat : Int)
  change req.contentLen.toBitVec.toNat < 2 ^ 31 at small
  rw [BitVec.toInt_eq_toNat_cond, if_pos (by omega)]

/-- A length from 2^31 on is taken for a negative one. -/
theorem Post.total_len_neg (req : Post) (large : 2 ^ 31 ≤ req.contentLen.toNat) :
    req.totalLen < 0 := by
  change req.contentLen.toBitVec.toInt < 0
  change 2 ^ 31 ≤ req.contentLen.toBitVec.toNat at large
  have bound := req.contentLen.toBitVec.isLt
  rw [BitVec.toInt_eq_toNat_cond, if_neg (by omega)]
  omega

/-- Nothing more is asked for once the body is there. -/
private theorem receive_done (balance : curLen + unread.length = n) (done : unread = []) :
    receive n answers unread curLen scratch = ⟨[], curLen, scratch, false⟩ := by
  subst done
  rw [receive, if_neg (by simp only [List.length_nil] at balance; omega)]

/-- A call that fails ends the loop. -/
private theorem receive_failed (balance : curLen + unread.length = n) (left : 0 < unread.length)
    (failed : answers 0 = none) :
    receive n answers unread curLen scratch = ⟨[⟨curLen, n, 0⟩], curLen, scratch, true⟩ := by
  rw [receive, if_pos (by omega)]
  simp [failed, movedBy]

/-- A call that delivers bytes is followed by the loop on the rest of the body. -/
private theorem receive_piece (balance : curLen + unread.length = n) (left : 0 < unread.length)
    (answer : answers 0 = some offer) :
    receive n answers unread curLen scratch =
      let piece := pieceSize n unread.length offer
      let rest := receive n answers.later (unread.drop piece) (curLen + piece)
        (fill scratch curLen (unread.take piece))
      { rest with recvs := ⟨curLen, n, piece⟩ :: rest.recvs } := by
  have positive := piece_size_pos (show 0 < n by omega) left offer
  rw [receive, if_pos (by omega)]
  simp only [answer, movedBy, Option.elim_some, Int.toNat_natCast]
  rw [if_neg (by omega)]

/-- The induction of the loop: nothing is left, the next call fails, or it delivers bytes and
the loop goes on with the rest. -/
theorem receive_induction
    {motive : ∀ (_ : Answers) (unread : List UInt8) (curLen : Nat) (_ : Scratch),
      curLen + unread.length = n → Prop}
    (done : ∀ answers curLen scratch balance, motive answers [] curLen scratch balance)
    (failed : ∀ answers unread curLen scratch balance, 0 < unread.length → answers 0 = none →
      motive answers unread curLen scratch balance)
    (piece : ∀ answers unread curLen scratch offer balance rest, 0 < unread.length →
      answers 0 = some offer →
      motive answers.later (unread.drop (pieceSize n unread.length offer))
        (curLen + pieceSize n unread.length offer)
        (fill scratch curLen (unread.take (pieceSize n unread.length offer))) rest →
      motive answers unread curLen scratch balance)
    (answers : Answers) (unread : List UInt8) (curLen : Nat) (scratch : Scratch)
    (balance : curLen + unread.length = n) : motive answers unread curLen scratch balance := by
  induction size : unread.length using Nat.strongRecOn
    generalizing answers unread curLen scratch with
  | ind size ih =>
    by_cases left : 0 < unread.length
    · cases answer : answers 0 with
      | none => exact failed answers unread curLen scratch balance left answer
      | some offer =>
        have positive := piece_size_pos (show 0 < n by omega) left offer
        have within := piece_size_le_left n unread.length offer
        have shorter := List.length_drop (i := pieceSize n unread.length offer) (l := unread)
        exact piece answers unread curLen scratch offer balance (by omega) left answer
          (ih _ (by omega) _ _ _ _ (by omega) shorter)
    · obtain rfl := List.length_eq_zero_iff.mp (Nat.eq_zero_of_not_pos left)
      exact done answers curLen scratch balance

/-- The regions the loop passes on are those of the requests that the answers lead to. -/
theorem receive_regions_iff (balance : curLen + unread.length = n) (P : Nat → Nat → Prop) :
    (∀ call ∈ (receive n answers unread curLen scratch).recvs, P call.offset call.length) ↔
      ∀ i, ∀ offset ∈ movedBefore n n answers curLen i, P offset n := by
  induction answers, unread, curLen, scratch, balance using receive_induction with
  | done answers curLen scratch all =>
    have ended : ¬ curLen < n := by simp only [List.length_nil] at all; omega
    simp [receive_done all rfl, moved_before_done ended]
  | failed answers unread curLen scratch balance left answer =>
    rw [receive_failed balance left answer, forall_moved_before_iff (by omega)]
    simp [answer]
  | piece answers unread curLen scratch offer balance rest left answer ih =>
    have remaining : n - curLen = unread.length := by omega
    rw [receive_piece balance left answer, forall_moved_before_iff (by omega), remaining]
    simp only [List.forall_mem_cons, ih, answer, Option.mem_some_iff, forall_eq']

/-- The loop ends with the body exactly when every call it makes delivers bytes. -/
theorem receive_failed_iff (balance : curLen + unread.length = n) :
    (receive n answers unread curLen scratch).failed = false ↔
      ∀ i, ∀ _ ∈ movedBefore n n answers curLen i, (answers i).isSome := by
  induction answers, unread, curLen, scratch, balance using receive_induction with
  | done answers curLen scratch all =>
    have ended : ¬ curLen < n := by simp only [List.length_nil] at all; omega
    simp [receive_done all rfl, moved_before_done ended]
  | failed answers unread curLen scratch balance left answer =>
    rw [receive_failed balance left answer,
      forall_moved_before_iff (by omega) fun i _ => (answers i).isSome]
    simp [answer]
  | piece answers unread curLen scratch offer balance rest left answer ih =>
    have remaining : n - curLen = unread.length := by omega
    rw [receive_piece balance left answer,
      forall_moved_before_iff (by omega) fun i _ => (answers i).isSome, remaining]
    simp only [ih, answer, Option.mem_some_iff, forall_eq', Option.isSome_some, true_and]
    rfl

/-- The start of the buffer holds the start of the body. -/
def Filled (body : List UInt8) (curLen : Nat) (scratch : Scratch) : Prop :=
  ∀ k < curLen, body[k]? = some (scratch () k)

/-- Received bytes extend what the buffer holds of the body. -/
private theorem filled_fill (filled : Filled body curLen scratch) (bytes : List UInt8)
    (next : ∀ k < bytes.length, body[curLen + k]? = bytes[k]?) :
    Filled body (curLen + bytes.length) (fill scratch curLen bytes) := by
  intro k below
  by_cases earlier : k < curLen
  · rw [fill, store_outside _ _ (by omega), filled k earlier]
  · obtain ⟨i, rfl⟩ := Nat.exists_eq_add_of_le (Nat.le_of_not_lt earlier)
    have inside := store_inside scratch () curLen bytes.get ⟨i, by omega⟩
    rw [next i (by omega), fill, inside, List.getElem?_eq_getElem (by omega)]
    rfl

/-- A loop that ends with the body leaves it in the buffer, and `cur_len` counts its bytes. -/
theorem receive_filled (balance : curLen + unread.length = body.length)
    (start : body.drop curLen = unread) (filled : Filled body curLen scratch)
    (ended : (receive body.length answers unread curLen scratch).failed = false) :
    (receive body.length answers unread curLen scratch).curLen = body.length ∧
      Filled body body.length (receive body.length answers unread curLen scratch).scratch := by
  induction answers, unread, curLen, scratch, balance using receive_induction with
  | done answers curLen scratch all =>
    rw [receive_done all rfl]
    obtain rfl : curLen = body.length := all
    exact ⟨rfl, filled⟩
  | failed answers unread curLen scratch balance left answer =>
    rw [receive_failed balance left answer] at ended
    cases ended
  | piece answers unread curLen scratch offer balance rest left answer ih =>
    have within := piece_size_le_left body.length unread.length offer
    rw [receive_piece balance left answer] at ended ⊢
    refine ih ?_ ?_ ended
    · rw [← start, List.drop_drop]
    · have piece : (unread.take (pieceSize body.length unread.length offer)).length =
          pieceSize body.length unread.length offer := by simp [within]
      have more := filled_fill filled (unread.take (pieceSize body.length unread.length offer))
        (fun k below => by
          rw [List.getElem?_take_of_lt (piece ▸ below), ← start, List.getElem?_drop])
      rwa [piece] at more

theorem Filled.append (filled : Filled body body.length scratch) (more : List UInt8) :
    Filled (body ++ more) body.length scratch := fun k below => by
  rw [List.getElem?_append_left below, filled k below]

/-- A buffer that holds a text to its end. -/
theorem bytes_to_of_filled {index : Nat} (filled : Filled body (index + 1) scratch)
    (length : body.length = index + 1) : bytesTo scratch index = body := by
  apply List.ext_getElem?
  intro k
  by_cases below : k < index + 1
  · simp [bytesTo, List.getElem?_range below, filled k below]
  · rw [List.getElem?_eq_none (by simpa [bytesTo] using below),
      List.getElem?_eq_none (by omega)]

/-- With the NUL behind it, the buffer holds the body as a C string. -/
private theorem bytes_to_body (filled : Filled body body.length scratch) :
    bytesTo (fill scratch body.length [0]) body.length = body ++ [0] := by
  apply bytes_to_of_filled
  · exact filled_fill (filled.append [0]) [0] fun k _ => by
      rw [List.getElem?_append_right (by omega), Nat.add_sub_cancel_left]
  · simp

variable {cJson : CJson} {req : Post}

/-- What `cJSON_GetObjectItem` returns for the text in front of the first NUL. -/
def CJson.member (cJson : CJson) (buf : List UInt8) (name : String) : Option cJson.Item :=
  cJson.getObjectItem (cJson.parse (buf.takeWhile (· ≠ 0))) name

/-- Everything that can happen to the text: a member is missing and its null pointer is
dereferenced, or all three are there. -/
theorem parse_and_respond_cases (cJson : CJson) (buf : List UInt8) :
    ((∃ name ∈ ["red", "green", "blue"], cJson.member buf name = none) ∧
      parseAndRespond cJson buf = ⟨[.parse buf], .nullDereference⟩) ∨
    (∃ red green blue, cJson.member buf "red" = some red ∧ cJson.member buf "green" = some green ∧
      cJson.member buf "blue" = some blue ∧ parseAndRespond cJson buf =
        ⟨[.parse buf,
          .lightControl (cJson.valueint red) (cJson.valueint green) (cJson.valueint blue),
          .delete, .sendStr "Post control value successfully"], .returns espOk⟩) := by
  cases red : cJson.member buf "red" with
  | none =>
    unfold CJson.member at red
    exact Or.inl ⟨⟨"red", by simp, red⟩, by simp only [parseAndRespond, red]⟩
  | some r =>
    cases green : cJson.member buf "green" with
    | none =>
      unfold CJson.member at red green
      exact Or.inl ⟨⟨"green", by simp, green⟩, by simp only [parseAndRespond, red, green]⟩
    | some g =>
      cases blue : cJson.member buf "blue" with
      | none =>
        unfold CJson.member at red green blue
        exact Or.inl ⟨⟨"blue", by simp, blue⟩, by simp only [parseAndRespond, red, green, blue]⟩
      | some b =>
        refine Or.inr ⟨r, g, b, rfl, rfl, rfl, ?_⟩
        unfold CJson.member at red green blue
        simp only [parseAndRespond, red, green, blue]

/-- A body that does not fit is refused before anything is received. -/
theorem handler_too_long (small : req.contentLen.toNat < 2 ^ 31)
    (long : scratchBufsize ≤ req.contentLen.toNat) :
    lightBrightnessPostHandler cJson req answers scratch =
      ⟨[.sendErr "content too long"], .returns espFail⟩ := by
  have total := req.total_len_eq small
  rw [req.complete] at total
  rw [lightBrightnessPostHandler, if_pos (by omega)]

/-- A length taken for a negative one passes the check, and the NUL is stored in front of the
buffer. -/
theorem handler_negative (large : 2 ^ 31 ≤ req.contentLen.toNat) :
    lightBrightnessPostHandler cJson req answers scratch =
      ⟨[.storeNul req.totalLen], .strayStore⟩ := by
  have negative := req.total_len_neg large
  have idle : receive req.totalLen answers req.body 0 scratch = ⟨[], 0, scratch, false⟩ := by
    rw [receive, if_neg (by omega)]
  simp only [lightBrightnessPostHandler, idle, negative]
  rw [if_neg (by omega)]
  rfl

/-- A call that fails is answered with an error. -/
theorem handler_failed (short : req.contentLen.toNat < scratchBufsize)
    (failed : (receive req.body.length answers req.body 0 scratch).failed = true) :
    lightBrightnessPostHandler cJson req answers scratch =
      ⟨(receive req.body.length answers req.body 0 scratch).recvs.map .recv ++
        [.sendErr "Failed to post control value"], .returns espFail⟩ := by
  have bound : scratchBufsize < 2 ^ 31 := by decide
  have total := req.total_len_eq (by omega)
  have length := req.complete
  simp only [lightBrightnessPostHandler, total, failed, if_true]
  rw [if_neg (by omega)]

/-- A body that is received completely is read as JSON, whatever its pieces and the buffer
were. -/
theorem handler_received (short : req.contentLen.toNat < scratchBufsize)
    (ended : (receive req.body.length answers req.body 0 scratch).failed = false) :
    lightBrightnessPostHandler cJson req answers scratch =
      (parseAndRespond cJson (req.body ++ [0])).after
        ((receive req.body.length answers req.body 0 scratch).recvs.map .recv ++
          [.storeNul req.body.length]) := by
  have bound : scratchBufsize < 2 ^ 31 := by decide
  have total := req.total_len_eq (by omega)
  have length := req.complete
  have text := bytes_to_body
    (receive_filled (Nat.zero_add _) rfl (fun k below => absurd below (Nat.not_lt_zero k)) ended).2
  simp only [lightBrightnessPostHandler, total, ended, Int.toNat_natCast, text]
  rw [if_neg (by omega), if_neg Bool.false_ne_true, if_neg (by omega)]

/-- The message of the web page with the colours it starts with. -/
def pageMessage : List UInt8 :=
  "\x7b\"red\":160,\"green\":160,\"blue\":160\x7d".toList.map fun c => c.toNat.toUInt8

/-- An object with integer members, or an integer. -/
inductive PageItem where
  | object (members : List (String × Int))
  | number (value : Int)

/-- The library on the page's message, and on texts that are not JSON. -/
def pageJson : CJson where
  Item := PageItem
  parse text := if text = pageMessage then
      some (.object [("red", 160), ("green", 160), ("blue", 160)]) else none
  getObjectItem
    | some (.object members), name => (members.lookup name).map .number
    | _, _ => none
  valueint
    | .number value => value
    | .object _ => 0
  isObject
    | .object _ => true
    | .number _ => false
  hasMember
    | .object members, name => (members.lookup name).isSome
    | .number _, _ => false

theorem page_json_documented : pageJson.Documented := by
  refine ⟨fun _ => rfl, fun item name other => ?_, fun item name absent => ?_,
    fun item name object member => ?_⟩
  · cases item with
    | object members => cases other
    | number value => rfl
  · cases item with
    | object members => simpa [pageJson] using absent
    | number value => rfl
  · cases item with
    | object members => simpa [pageJson] using member
    | number value => cases object

end PowerMonitor.LightUpload
