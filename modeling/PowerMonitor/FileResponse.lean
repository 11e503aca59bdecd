import PowerMonitor.EspIdf
import PowerMonitor.Pieces
import PowerMonitor.StaticFiles

/-! The response of `rest_common_get_handler` (`master/main/rest_server.c`) with the contents of
the file it opened, over any results of `read` and `httpd_resp_send_chunk`. The loop ends alike
at the end of the file and when a read fails. -/
namespace PowerMonitor.FileResponse
open EspIdf Pieces StaticFiles

/-- A call the handler makes, with what it was answered. -/
inductive Call where
  /-- `read`, which delivers bytes, none at the end of the file, or `-1`. -/
  | read (bytes : Option (List UInt8))
  | sendChunk (bytes : List UInt8) (err : EspErr)
  /-- The empty chunk that ends a response. -/
  | endChunks
  | sendErr (message : String)
  | close
  deriving DecidableEq, Repr

/-- The calls in order, and the code returned. -/
structure Outcome where
  calls : List Call
  result : EspErr
  deriving DecidableEq, Repr

/-- The calls come before those of the outcome. -/
def Outcome.after (calls : List Call) (o : Outcome) : Outcome := ⟨calls ++ o.calls, o.result⟩

/-- The end of the handler, behind the loop. -/
def finish : Outcome := ⟨[.close, .endChunks], espOk⟩

/-- The loop, with the bytes of the file that are not read yet. -/
def serve (reads : Answers) (sends : Nat → EspErr) (unread : List UInt8) : Outcome :=
  match reads 0 with
  | none => finish.after [.read none]
  | some offer =>
    let chunk := unread.take (pieceSize scratchBufsize unread.length offer)
    if empty : unread = [] then finish.after [.read (some [])]
    else if sends 0 ≠ espOk then
      -- the empty chunk is sent here too
      ⟨[.read (some chunk), .sendChunk chunk (sends 0), .close, .endChunks,
        .sendErr "Failed to send file"], espFail⟩
    else
      (serve reads.later (fun i => sends (i + 1))
        (unread.drop (pieceSize scratchBufsize unread.length offer))).after
        [.read (some chunk), .sendChunk chunk (sends 0)]
termination_by unread.length
decreasing_by
  have positive := piece_size_pos (show 0 < scratchBufsize by decide)
    (List.length_pos_iff.mpr empty) offer
  have bound := List.length_pos_iff.mpr empty
  rw [List.length_drop]
  omega

/-- `rest_common_get_handler` from its `open` on; a file that does not open is `none`. -/
def restCommonGetHandler (file : Option (List UInt8)) (reads : Answers) (sends : Nat → EspErr) :
    Outcome :=
  match file with
  | none => ⟨[.sendErr "Failed to read existing file"], espFail⟩
  | some content => serve reads sends content

/-- The response ended as a success. -/
def Outcome.Succeeds (o : Outcome) : Prop := .endChunks ∈ o.calls ∧ o.result = espOk

/-- The bytes the client was sent. -/
def sent (calls : List Call) : List UInt8 :=
  calls.flatMap fun
    | .sendChunk bytes err => if err = espOk then bytes else []
    | _ => []

/-- The call went wrong. -/
def Call.Failed : Call → Prop
  | .read none => True
  | .sendChunk _ err => err ≠ espOk
  | _ => False

/-- The descriptor is closed once, and a response that ends as a success is the whole file,
with nothing gone wrong on the way. -/
structure Sound (content : List UInt8) (o : Outcome) : Prop where
  closedOnce : o.calls.count .close = 1
  complete : o.Succeeds → sent o.calls = content
  unfailing : o.Succeeds → ∀ call ∈ o.calls, ¬ call.Failed

variable {reads : Answers} {sends : Nat → EspErr} {unread : List UInt8} {o : Outcome}

/-- A response with nothing gone wrong that ends like the handler. -/
theorem finish_succeeds (calls : List Call) : (finish.after calls).Succeeds :=
  ⟨by simp [Outcome.after, finish], rfl⟩

/-- Reading and sending a chunk. -/
def chunkCalls (chunk : List UInt8) : List Call := [.read (some chunk), .sendChunk chunk espOk]

theorem succeeds_after_chunk_iff (chunk : List UInt8) :
    (o.after (chunkCalls chunk)).Succeeds ↔ o.Succeeds := by
  simp [Outcome.Succeeds, Outcome.after, chunkCalls]

theorem sent_after_chunk (chunk : List UInt8) :
    sent (o.after (chunkCalls chunk)).calls = chunk ++ sent o.calls := by
  simp [sent, Outcome.after, chunkCalls]

end PowerMonitor.FileResponse
