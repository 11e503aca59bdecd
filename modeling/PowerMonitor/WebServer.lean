import PowerMonitor.ContentType
import PowerMonitor.FileMapping
import PowerMonitor.FileResponse

/-! The whole of `rest_common_get_handler` (`master/main/rest_server.c`) over the files there
are: the path it opens, the type it sets and the chunks it sends. What it is for is a site, on
which a path of a URI stands for a document. -/
namespace PowerMonitor.WebServer
open EspIdf Pieces StaticFiles FileMapping ContentType FileResponse

/-- The answer to a request. Without a file no type is set. -/
structure Response where
  type : Option String
  outcome : Outcome

/-- What the handler meets besides the files: the memory in front of its path buffer, and how
its reads and sends go. -/
structure Circumstances where
  stack : Nat → Char
  reads : Answers
  sends : Nat → EspErr

/-- No read and no send fails. -/
structure Circumstances.Calm (met : Circumstances) : Prop where
  reads : ∀ i, (met.reads i).isSome
  sends : ∀ i, met.sends i = espOk

def restCommonGetHandler (files : CString → Option (List UInt8)) (basePath uri : CString)
    (met : Circumstances) : Response :=
  let path := filepath basePath uri
  { type := (files path).map fun _ => (setContentTypeFromFile met.stack path).type
    outcome := FileResponse.restCommonGetHandler (files path) met.reads met.sends }

/-- The client gets the document of the path, whole and as what its name says it is, or an
error where there is none. -/
def Serves (files : CString → Option (List UInt8)) (basePath path : CString)
    (response : Response) : Prop :=
  match files (documentFor basePath path) with
  | some content => response.outcome.Succeeds ∧ sent response.outcome.calls = content ∧
      ∃ type, response.type = some type ∧ OwnType (documentFor basePath path) type
  | none => ¬ response.outcome.Succeeds ∧ sent response.outcome.calls = []

variable {files : CString → Option (List UInt8)} {basePath : CString} {met : Circumstances}

/-- The loop sends all that is unread when nothing fails. -/
private theorem serve_calm (reads : Answers) (sends : Nat → EspErr) (unread : List UInt8)
    (reading : ∀ i, (reads i).isSome) (sending : ∀ i, sends i = espOk) :
    (serve reads sends unread).Succeeds ∧ sent (serve reads sends unread).calls = unread := by
  fun_induction serve reads sends unread with
  | case1 reads sends unread failed =>
    have first := reading 0
    simp [failed] at first
  | case2 reads sends offer answer => exact ⟨finish_succeeds _, rfl⟩
  | case3 reads sends unread offer answer chunk nonempty failed => exact absurd (sending 0) failed
  | case4 reads sends unread offer answer chunk nonempty passed ih =>
    obtain ⟨succeeds, rest⟩ := ih (fun i => reading (i + 1)) (fun i => sending (i + 1))
    rw [sending 0]
    refine ⟨(succeeds_after_chunk_iff _).mpr succeeds, (sent_after_chunk _).trans ?_⟩
    rw [rest]
    exact List.take_append_drop _ unread

/-- A file that does not open is answered with an error. -/
private theorem handler_of_no_file (none : files (filepath basePath uri) = none) :
    ¬ (restCommonGetHandler files basePath uri met).outcome.Succeeds ∧
      sent (restCommonGetHandler files basePath uri met).outcome.calls = [] := by
  simp [restCommonGetHandler, none, FileResponse.restCommonGetHandler, Outcome.Succeeds, sent]

/-- A file that opens is sent as what the path says it is. -/
private theorem handler_of_file (calm : met.Calm)
    (opened : files (filepath basePath uri) = some content) :
    (restCommonGetHandler files basePath uri met).outcome.Succeeds ∧
      sent (restCommonGetHandler files basePath uri met).outcome.calls = content ∧
      (restCommonGetHandler files basePath uri met).type =
        some (setContentTypeFromFile met.stack (filepath basePath uri)).type := by
  obtain ⟨succeeds, whole⟩ := serve_calm met.reads met.sends content calm.reads calm.sends
  simp only [restCommonGetHandler, opened]
  exact ⟨succeeds, whole, rfl⟩

/-- A mount point of four characters makes any path long enough for the longest extension. -/
private theorem long_enough (mounted : 4 ≤ basePath.length) (uri : GetUri) :
    5 ≤ (filepath basePath uri.text).length := by
  refine (filepath_length_ge_iff basePath uri.text).mpr (.inr ?_)
  have rooted : 0 < uri.text.length := by
    obtain ⟨path, query, rooted, _, _⟩ := uri
    cases path with
    | nil => cases rooted
    | cons c path => cases query <;> simp [GetUri.text, uriText]
  omega

/-- The handler serves what it opens under the name it opens it by. -/
private theorem serves_opened (mounted : 4 ≤ basePath.length) (uri : GetUri) (calm : met.Calm)
    (same : filepath basePath uri.text = documentFor basePath uri.path) :
    Serves files basePath uri.path (restCommonGetHandler files basePath uri.text met) := by
  unfold Serves
  rw [← same]
  cases opened : files (filepath basePath uri.text) with
  | none => exact handler_of_no_file opened
  | some content =>
    obtain ⟨succeeds, whole, type⟩ := handler_of_file calm opened
    have own := (own_suffix_iff met.stack (filepath_length_lt basePath uri.text)).mpr
      (long_enough mounted uri)
    exact ⟨succeeds, whole, _, type, own.own⟩

/-- **A request is a look-up on the site** exactly when its path decides what is opened: then
and only then, whatever files there are, the handler answers with the document of the path,
whole and under the type of its own extension, or with an error where there is no such document. -/
theorem request_is_lookup_iff (basePath : CString) (uri : GetUri) (mounted : 4 ≤ basePath.length)
    (short : basePath.length ≤ espVfsPathMax) :
    (∀ files met, Circumstances.Calm met →
      Serves files basePath uri.path (restCommonGetHandler files basePath uri.text met)) ↔
      KeepsPath basePath uri := by
  rw [← file_is_document_iff short]
  constructor
  · intro serves
    by_contra other
    -- The site on which only the document of the path is there.
    let only : CString → Option (List UInt8) := fun path =>
      if path = documentFor basePath uri.path then some [] else none
    have served := serves only ⟨fun _ => ' ', fun _ => some 0, fun _ => espOk⟩
      ⟨fun _ => rfl, fun _ => rfl⟩
    have there : only (documentFor basePath uri.path) = some [] := if_pos rfl
    rw [Serves, there] at served
    exact (handler_of_no_file (if_neg other)).1 served.1
  · intro same files met calm
    exact serves_opened mounted uri calm same

/-- The request for the start page. -/
def startUri : GetUri where
  path := "/".toList
  query := none
  rooted := rfl
  noMark := by decide
  fits := by decide

/-- Under the mount point of the shipped configuration the start page is served. -/
theorem start_page_served :
    Serves (fun _ => some [0x3c]) "/www".toList startUri.path
      (restCommonGetHandler (fun _ => some [0x3c]) "/www".toList startUri.text
        ⟨fun _ => ' ', fun _ => some 0, fun _ => espOk⟩) :=
  (request_is_lookup_iff "/www".toList startUri (by decide) (by decide)).mpr (.inl rfl) _ _
    ⟨fun _ => rfl, fun _ => rfl⟩

end PowerMonitor.WebServer
