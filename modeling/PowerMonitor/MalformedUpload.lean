import PowerMonitor.UploadText

/-! How the upload handler answers a body that was received completely. Nothing between
`cJSON_Parse` and the use of the members looks at a null pointer, so that a text without the
members ends in its dereference. -/
namespace PowerMonitor.MalformedUpload
open EspIdf LightUpload Pieces UploadText StaticFiles

/-- The body, up to its first NUL, parses to an object with the members `red`, `green` and
`blue`. -/
def WellFormed (cJson : CJson) (body : List UInt8) : Prop :=
  ∃ root ∈ cJson.parse (body.takeWhile (· ≠ 0)), cJson.isObject root = true ∧
    ∀ name ∈ ["red", "green", "blue"], cJson.hasMember root name = true

/-- The response says that the control value was posted. -/
def Succeeds (o : Outcome) : Prop := .sendStr "Post control value successfully" ∈ responses o

/-- The response is an error. -/
def Refuses (o : Outcome) : Prop := ∃ message, .sendErr message ∈ responses o

/-- The handler dereferences no null pointer and sends one response, a success for a well-formed
body and an error for any other. -/
structure Answered (cJson : CJson) (body : List UInt8) (o : Outcome) : Prop where
  safe : o.exit ≠ .nullDereference
  once : (responses o).length = 1
  success : Succeeds o ↔ WellFormed cJson body
  error : Refuses o ↔ ¬ WellFormed cJson body

variable {cJson : CJson} {body : List UInt8} {req : Post} {answers : Answers} {scratch : Scratch}

/-- The NUL stored behind a body adds nothing to the C string. -/
private theorem c_string_append (body : List UInt8) :
    (body ++ [0]).takeWhile (· ≠ 0) = body.takeWhile (· ≠ 0) := by
  induction body with
  | nil => rfl
  | cons b body ih =>
    by_cases nul : b = 0
    · simp [nul]
    · simpa [nul] using ih

/-- A member of an item is found exactly when the item is an object that has it. -/
private theorem get_object_item_isSome_iff (documented : cJson.Documented) (item : cJson.Item)
    (name : String) :
    (cJson.getObjectItem (some item) name).isSome ↔
      cJson.isObject item = true ∧ cJson.hasMember item name = true := by
  cases object : cJson.isObject item with
  | false => simp [documented.notObject item name object]
  | true =>
    cases member : cJson.hasMember item name with
    | false => simp [documented.noMember item name member]
    | true => simp [documented.isMember item name object member]

/-- A body is well formed exactly when all three lookups of the handler succeed. -/
private theorem well_formed_iff (documented : cJson.Documented) (body : List UInt8) :
    WellFormed cJson body ↔
      ∀ name ∈ ["red", "green", "blue"], (cJson.member (body ++ [0]) name).isSome := by
  simp only [WellFormed, CJson.member, c_string_append]
  cases cJson.parse (body.takeWhile (· ≠ 0)) with
  | none =>
    refine iff_of_false (by simp) fun found => ?_
    simpa [documented.nullItem] using found "red" (by simp)
  | some root =>
    simp only [Option.mem_some_iff, exists_eq_left', get_object_item_isSome_iff documented]
    constructor
    · rintro ⟨object, members⟩ name asked
      exact ⟨object, members name asked⟩
    · intro found
      exact ⟨(found "red" (by simp)).1, fun name asked => (found name asked).2⟩

/-- A body that is not well formed ends in the dereference of a null pointer, unanswered. -/
theorem parse_and_respond_of_malformed (documented : cJson.Documented)
    (malformed : ¬ WellFormed cJson body) :
    parseAndRespond cJson (body ++ [0]) = ⟨[.parse (body ++ [0])], .nullDereference⟩ := by
  rcases parse_and_respond_cases cJson (body ++ [0]) with
    ⟨_, missing⟩ | ⟨red, green, blue, r, g, b, _⟩
  · exact missing
  · exact absurd ((well_formed_iff documented body).mpr (by simp [r, g, b])) malformed

/-- A well-formed body is answered with a success. -/
theorem parse_and_respond_of_well_formed (documented : cJson.Documented)
    (wellFormed : WellFormed cJson body) :
    (parseAndRespond cJson (body ++ [0])).exit = .returns espOk ∧
      responses (parseAndRespond cJson (body ++ [0])) =
        [.sendStr "Post control value successfully"] := by
  rcases parse_and_respond_cases cJson (body ++ [0]) with
    ⟨⟨name, asked, none⟩, _⟩ | ⟨red, green, blue, _, _, _, done⟩
  · have found := (well_formed_iff documented body).mp wellFormed name asked
    simp [none] at found
  · rw [done]
    exact ⟨rfl, rfl⟩

/-- What is made of a text: a success when it is well formed, else a dereference. -/
theorem parse_and_respond_iff (documented : cJson.Documented) (body : List UInt8) :
    Answered cJson body (parseAndRespond cJson (body ++ [0])) ↔ WellFormed cJson body := by
  constructor
  · intro answered
    refine Classical.byContradiction fun malformed => answered.safe ?_
    rw [parse_and_respond_of_malformed documented malformed]
  · intro wellFormed
    obtain ⟨returned, sent⟩ := parse_and_respond_of_well_formed documented wellFormed
    refine ⟨by simp [returned], by rw [sent]; rfl, ?_, ?_⟩
    · rw [Succeeds, sent]
      exact iff_of_true (List.mem_singleton_self _) wellFormed
    · rw [Refuses, sent]
      exact iff_of_false (by simp) (fun malformed => malformed wellFormed)

/-- What precedes the text sends nothing. -/
private theorem answered_after_recvs (recvs : List Recv) (index : Int) (o : Outcome) :
    Answered cJson body (o.after (recvs.map .recv ++ [.storeNul index])) ↔
      Answered cJson body o := by
  have same := responses_after_recvs recvs index o
  constructor
  · rintro ⟨safe, once, success, error⟩
    rw [Succeeds, same] at success
    rw [Refuses, same] at error
    rw [same] at once
    exact ⟨safe, once, success, error⟩
  · rintro ⟨safe, once, success, error⟩
    refine ⟨safe, ?_, ?_, ?_⟩
    · rwa [same]
    · rwa [Succeeds, same]
    · rwa [Refuses, same]

/-- A body that was received completely is answered as it should be, without a null pointer
being dereferenced, exactly when it is well formed. -/
theorem malformed_upload_answered_iff (cJson : CJson) (req : Post) (answers : Answers)
    (scratch : Scratch) (documented : cJson.Documented)
    (short : req.contentLen.toNat < scratchBufsize) (delivered : Delivered req answers) :
    Answered cJson req.body (lightBrightnessPostHandler cJson req answers scratch) ↔
      WellFormed cJson req.body := by
  have ended := (received_iff_delivered req answers scratch).mpr delivered
  rw [handler_received short ended, answered_after_recvs, parse_and_respond_iff documented]

/-- The page's message. -/
theorem page_message_answered_iff :
    Answered pageJson pageMessage (lightBrightnessPostHandler pageJson
        ⟨34, pageMessage, by decide⟩ (fun _ => some 33) fun _ _ => 255) ↔
      WellFormed pageJson pageMessage :=
  malformed_upload_answered_iff pageJson ⟨34, pageMessage, by decide⟩ (fun _ => some 33)
    (fun _ _ => 255) page_json_documented (by decide) fun _ _ _ => rfl

/-- An empty body: `cJSON_Parse` returns `NULL`, and so does the lookup that is dereferenced. -/
theorem empty_body_dereferences_null :
    ¬ ∀ (cJson : CJson) (req : Post) (answers : Answers) (scratch : Scratch),
      cJson.Documented → req.contentLen.toNat < scratchBufsize → Delivered req answers →
      Answered cJson req.body (lightBrightnessPostHandler cJson req answers scratch) := by
  intro answered
  have delivered : Delivered ⟨0, [], rfl⟩ fun _ => none := fun i before asked => by
    simp [moved_before_done] at asked
  have empty := answered pageJson ⟨0, [], rfl⟩ (fun _ => none) (fun _ _ => 0)
    page_json_documented (by decide) delivered
  have ended := (received_iff_delivered ⟨0, [], rfl⟩ (fun _ => none) fun _ _ => 0).mpr delivered
  rw [handler_received (by decide) ended] at empty
  exact empty.safe (by decide)

end PowerMonitor.MalformedUpload
