import PowerMonitor.StaticFiles
import Mathlib.Data.List.TakeDrop
import Mathlib.Data.Set.Defs

/-! Which file a GET request opens, as a function of the path in its URI. The handler works on
the whole text of the URI: it looks for the slash at the end of the query, takes the query for a
part of the file's name and cuts what the path buffer has no room for. -/
namespace PowerMonitor.FileMapping
open StaticFiles

/-- `CONFIG_HTTPD_MAX_URI_LEN`. -/
def httpdMaxUriLen : Nat := 512

/-- The text of a URI with a path and perhaps a query. -/
def uriText (path : CString) : Option CString → CString
  | none => path
  | some query => path ++ '?' :: query

/-- The URI of a GET request that the server accepts. -/
structure GetUri where
  path : CString
  query : Option CString
  rooted : path.head? = some '/'
  noMark : '?' ∉ path
  fits : (uriText path query).length ≤ httpdMaxUriLen

def GetUri.text (uri : GetUri) : CString := uriText uri.path uri.query

def EndsInSlash (s : CString) : Prop := s.getLast? = some '/'

instance : DecidablePred EndsInSlash := fun _ => inferInstanceAs (Decidable (_ = _))

/-- The file a path stands for: that of its own name, or the index of a directory. -/
def documentFor (basePath path : CString) : CString :=
  basePath ++ if EndsInSlash path then indexHtml else path

/-- The URIs open the files that their paths stand for, each its own. -/
structure ExactlyMapped (basePath : CString) (uris : Set GetUri) : Prop where
  document : ∀ uri ∈ uris, filepath basePath uri.text = documentFor basePath uri.path
  distinct : ∀ uri ∈ uris, ∀ other ∈ uris, ¬ EndsInSlash uri.path → ¬ EndsInSlash other.path →
    uri.path ≠ other.path → filepath basePath uri.text ≠ filepath basePath other.text
  query_ignored : ∀ uri ∈ uris, ∀ other ∈ uris, uri.path = other.path →
    filepath basePath uri.text = filepath basePath other.text

/-- The URI's path decides the file: without a query it is a directory's or fits in the buffer.
With one, a slash at its end asks for the index and the path has to ask for it too; any other
query has to be cut off exactly where the path ends. -/
def KeepsPath (basePath : CString) (uri : GetUri) : Prop :=
  match uri.query with
  | none => EndsInSlash uri.path ∨ uri.path.length ≤ uriRoom basePath
  | some query =>
    if EndsInSlash query then EndsInSlash uri.path ∨ uri.path = indexHtml
    else ¬ EndsInSlash uri.path ∧ uri.path.length = uriRoom basePath

variable {basePath path query : CString}

private theorem index_html_length : indexHtml.length = 11 := rfl

/-- However long the base path, so much of a URI fits in the path buffer. -/
private theorem uri_room_ge (basePath : CString) : 127 ≤ uriRoom basePath := by
  have bound := rest_base_path_length_le basePath
  simp only [uriRoom, filePathMax, espVfsPathMax] at bound ⊢
  omega

/-- The end of a text with a query is that of the query. -/
private theorem ends_in_slash_query : EndsInSlash (path ++ '?' :: query) ↔ EndsInSlash query := by
  unfold EndsInSlash
  cases query with
  | nil => simp
  | cons c query => simp [List.getLast?_append, List.getLast?_cons]

/-- Of the path and the query only the path is kept exactly when the cut is between them. -/
private theorem take_query_eq_path (room : Nat) :
    (path ++ '?' :: query).take room = path ↔ path.length = room := by
  constructor
  · intro kept
    have length := congrArg List.length kept
    simp only [List.length_take, List.length_append, List.length_cons] at length
    omega
  · rintro rfl
    exact List.take_left

/-- A text with a query is never cut to the index of a directory. -/
private theorem take_query_ne_index (basePath : CString) :
    (path ++ '?' :: query).take (uriRoom basePath) ≠ indexHtml := by
  intro kept
  have room := uri_room_ge basePath
  have length := congrArg List.length kept
  rw [List.length_take, index_html_length] at length
  -- The index leaves room in the buffer, so nothing was cut.
  rw [List.take_of_length_le (by omega)] at kept
  have mark : '?' ∈ indexHtml := kept ▸ by simp
  exact absurd mark (by decide)

/-- What the handler appends to a short base path. -/
theorem filepath_of_short (short : basePath.length ≤ espVfsPathMax) (text : CString) :
    filepath basePath text =
      basePath ++ if EndsInSlash text then indexHtml else text.take (uriRoom basePath) := by
  have room := uri_room_ge basePath
  rw [filepath_eq, rest_base_path_of_short short, uriPath]
  by_cases slash : EndsInSlash text
  · have last : text.getLast? = some '/' := slash
    rw [if_pos last, if_pos slash, List.take_of_length_le (by rw [index_html_length]; omega)]
  · have last : ¬ text.getLast? = some '/' := slash
    rw [if_neg last, if_neg slash]

/-- **One URI.** The file opened is the one its path stands for exactly when the path decides. -/
theorem file_is_document_iff (short : basePath.length ≤ espVfsPathMax) (uri : GetUri) :
    filepath basePath uri.text = documentFor basePath uri.path ↔ KeepsPath basePath uri := by
  obtain ⟨path, query, rooted, noMark, fits⟩ := uri
  rw [filepath_of_short short, documentFor, List.append_cancel_left_eq]
  cases query with
  | none =>
    simp only [GetUri.text, uriText, KeepsPath]
    by_cases slash : EndsInSlash path
    · simp [slash]
    · simp [slash]
  | some query =>
    simp only [GetUri.text, uriText, KeepsPath, ends_in_slash_query]
    by_cases last : EndsInSlash query
    · by_cases slash : EndsInSlash path
      · simp [last, slash]
      · simp [last, slash, eq_comm]
    · by_cases slash : EndsInSlash path
      · simp [last, slash, take_query_ne_index]
      · simp [last, slash, take_query_eq_path]

theorem keeps_path_of_slash_query (asked : uri.query = some query) (last : EndsInSlash query) :
    KeepsPath basePath uri ↔ EndsInSlash uri.path ∨ uri.path = indexHtml := by
  rw [KeepsPath, asked]
  exact iff_of_eq (if_pos last)

/-- Different paths stand for different files. -/
theorem document_for_injective (plain : ¬ EndsInSlash path) (otherPlain : ¬ EndsInSlash other)
    (same : documentFor basePath path = documentFor basePath other) : path = other := by
  rw [documentFor, documentFor, if_neg plain, if_neg otherPlain] at same
  exact List.append_cancel_left same

/-- Among any URIs the mapping from paths to files is exact exactly when each URI's path
decides. -/
theorem exactly_mapped_iff (basePath : CString) (uris : Set GetUri)
    (short : basePath.length ≤ espVfsPathMax) :
    ExactlyMapped basePath uris ↔ ∀ uri ∈ uris, KeepsPath basePath uri := by
  constructor
  · intro mapped uri member
    exact (file_is_document_iff short uri).mp (mapped.document uri member)
  · intro keeps
    have document : ∀ uri ∈ uris, filepath basePath uri.text = documentFor basePath uri.path :=
      fun uri member => (file_is_document_iff short uri).mpr (keeps uri member)
    refine ⟨document, ?_, ?_⟩
    · intro uri member other otherMember plain otherPlain different same
      rw [document uri member, document other otherMember] at same
      exact different (document_for_injective plain otherPlain same)
    · intro uri member other otherMember samePath
      rw [document uri member, document other otherMember, samePath]

/-- Under the mount point of the shipped configuration the paths that fit are kept, as long as
there is no query. -/
theorem plain_uris_exactly_mapped :
    ExactlyMapped "/www".toList {uri | uri.query = none ∧ uri.path.length ≤ 138} := by
  refine (exactly_mapped_iff "/www".toList {uri | uri.query = none ∧ uri.path.length ≤ 138}
    (by decide)).mpr ?_
  rintro uri ⟨plain, fits⟩
  rw [KeepsPath, plain]
  exact Or.inr fits

/-- A request for a script with a query that ends in a slash. -/
def scriptUri : GetUri where
  path := "/js/app.js".toList
  query := some "next=/".toList
  rooted := rfl
  noMark := by decide
  fits := by decide

/-- The query's last character turns the script into the index page. -/
theorem query_opens_index :
    ¬ ∀ (basePath : CString) (uris : Set GetUri), basePath.length ≤ espVfsPathMax →
      ExactlyMapped basePath uris := by
  intro mapped
  have document := (mapped "/www".toList {scriptUri} (by decide)).document scriptUri rfl
  have keeps := (file_is_document_iff (by decide) scriptUri).mp document
  have asked : scriptUri.query = some "next=/".toList := rfl
  rcases (keeps_path_of_slash_query asked (by decide)).mp keeps with slash | index
  · exact absurd slash (by decide)
  · exact absurd index (by decide)

end PowerMonitor.FileMapping
