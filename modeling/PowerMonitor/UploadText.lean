import PowerMonitor.LightUpload

/-! The text that an upload hands to `cJSON_Parse`. It is the body however its bytes came in and
whatever the buffer held before; a body that does not come in completely is not read at all. -/
namespace PowerMonitor.UploadText
open EspIdf LightUpload Pieces StaticFiles

variable {cJson : CJson} {req : Post} {answers : Answers} {scratch : Scratch}

/-- The receive loop of a body that fits ends exactly when every call delivers bytes. -/
theorem received_iff_delivered (req : Post) (answers : Answers) (scratch : Scratch) :
    (receive req.body.length answers req.body 0 scratch).failed = false ↔
      Delivered req answers := receive_failed_iff (Nat.zero_add _)

/-- Neither the receive calls nor the NUL are texts or responses. -/
theorem parsed_after_recvs (recvs : List Recv) (index : Int) (o : Outcome) :
    parsed (o.after (recvs.map .recv ++ [.storeNul index])) = parsed o := by
  simp [parsed, Outcome.after]

theorem responses_after_recvs (recvs : List Recv) (index : Int) (o : Outcome) :
    responses (o.after (recvs.map .recv ++ [.storeNul index])) = responses o := by
  simp [responses, Outcome.after]

/-- A text is handed to `cJSON_Parse` once, whether or not its members are there. -/
private theorem parsed_parse_and_respond (cJson : CJson) (buf : List UInt8) :
    parsed (parseAndRespond cJson buf) = [buf] := by
  rcases parse_and_respond_cases cJson buf with ⟨_, missing⟩ | ⟨red, green, blue, _, _, _, done⟩
  · rw [missing]; rfl
  · rw [done]; rfl

/-- A body below the size of the buffer whose calls all deliver bytes, in whatever pieces: the
loop ends with `cur_len` at its length, and the text parsed is the body and a NUL. A call that
fails is answered with one error, and nothing is parsed. -/
theorem body_parsed_whatever_pieces (cJson : CJson) (req : Post) (answers : Answers)
    (scratch : Scratch) (short : req.contentLen.toNat < scratchBufsize) :
    (Delivered req answers →
      (receive req.totalLen answers req.body 0 scratch).curLen = req.body.length ∧
      parsed (lightBrightnessPostHandler cJson req answers scratch) = [req.body ++ [0]]) ∧
    (¬ Delivered req answers →
      responses (lightBrightnessPostHandler cJson req answers scratch) =
        [.sendErr "Failed to post control value"] ∧
      parsed (lightBrightnessPostHandler cJson req answers scratch) = [] ∧
      (lightBrightnessPostHandler cJson req answers scratch).exit = .returns espFail) := by
  have bound : scratchBufsize < 2 ^ 31 := by decide
  rw [req.total_len_eq (by omega)]
  constructor
  · intro delivered
    have ended := (received_iff_delivered req answers scratch).mpr delivered
    have filled := receive_filled (Nat.zero_add _) rfl
      (fun k below => absurd below (Nat.not_lt_zero k)) ended
    refine ⟨filled.1, ?_⟩
    rw [handler_received short ended, parsed_after_recvs, parsed_parse_and_respond]
  · intro missing
    have failed : (receive req.body.length answers req.body 0 scratch).failed = true := by
      simpa using (received_iff_delivered req answers scratch).not.mpr missing
    rw [handler_failed short failed]
    exact ⟨by simp [responses], by simp [parsed], rfl⟩

/-- The page's message, one byte at a time into a used buffer. -/
theorem page_message_parsed :
    parsed (lightBrightnessPostHandler pageJson ⟨34, pageMessage, by decide⟩ (fun _ => some 0)
      fun _ _ => 255) = [pageMessage ++ [0]] :=
  ((body_parsed_whatever_pieces pageJson ⟨34, pageMessage, by decide⟩ (fun _ => some 0)
    (fun _ _ => 255) (by decide)).1 fun _ _ _ => rfl).2

end PowerMonitor.UploadText
