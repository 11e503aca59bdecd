import PowerMonitor.StaticFiles
import Mathlib.Algebra.Group.Nat.Defs
import Mathlib.Data.List.Infix

/-! The content type of a file that `rest_common_get_handler` opened
(`set_content_type_from_file` of `master/main/rest_server.c`). An extension is compared from an
index counted back from the end of the path, a `size_t` of 32 bits: for a path shorter than the
extension it wraps around to the memory in front of the path buffer. -/
namespace PowerMonitor.ContentType
open StaticFiles

/-- `strcasecmp`: the difference of the first characters that are not the same letter, where
the end of a text counts as zero. -/
def strcasecmp : CString → CString → Int
  | [], [] => 0
  | c :: _, [] => c.toLower.toNat
  | [], d :: _ => -d.toLower.toNat
  | c :: s, d :: t =>
    if c.toLower = d.toLower then strcasecmp s t
    else (c.toLower.toNat : Int) - d.toLower.toNat

/-- `strlen(filename) - strlen(ext)`. -/
def extensionIndex (filename ext : CString) : UInt32 :=
  UInt32.ofNat filename.length - UInt32.ofNat ext.length

/-- The text that begins at an index of a buffer. An index beyond the text has wrapped around;
the memory in front of the buffer is given backwards. -/
def textAt (stack : Nat → Char) (filename : CString) (index : UInt32) : CString :=
  if index.toNat ≤ filename.length then filename.drop index.toNat
  else
    (((List.range (2 ^ 32 - index.toNat)).reverse.map stack) ++ filename).takeWhile
      (· ≠ Char.ofNat 0)

/-- `CHECK_FILE_EXTENSION`. -/
def checkFileExtension (stack : Nat → Char) (filename ext : CString) : Bool :=
  strcasecmp (textAt stack filename (extensionIndex filename ext)) ext = 0

/-- The extensions in the order of their tests, each with its type. -/
def contentTypes : List (CString × String) :=
  [(".html".toList, "text/html"), (".js".toList, "application/javascript"),
    (".css".toList, "text/css"), (".png".toList, "image/png"), (".ico".toList, "image/x-icon"),
    (".svg".toList, "text/xml")]

/-- A test that was made, with the index it compares from. -/
structure ExtensionTest where
  ext : CString
  index : UInt32
  deriving DecidableEq, Repr

/-- The type that is set, and the tests that led to it. -/
structure Typing where
  type : String
  tests : List ExtensionTest
  deriving DecidableEq, Repr

/-- The chain of tests from one of them on. -/
def testExtensions (stack : Nat → Char) (filepath : CString) :
    List (CString × String) → Typing
  | [] => ⟨"text/plain", []⟩
  | (ext, type) :: rest =>
    let test := ⟨ext, extensionIndex filepath ext⟩
    if checkFileExtension stack filepath ext then ⟨type, [test]⟩
    else
      let later := testExtensions stack filepath rest
      ⟨later.type, test :: later.tests⟩

def setContentTypeFromFile (stack : Nat → Char) (filepath : CString) : Typing :=
  testExtensions stack filepath contentTypes

/-! ## What the type should be -/

/-- The path ends in the extension, in whatever case. -/
def HasExtension (path ext : CString) : Prop :=
  ext.map Char.toLower <:+ path.map Char.toLower

instance (path ext : CString) : Decidable (HasExtension path ext) :=
  inferInstanceAs (Decidable (_ <:+ _))

/-- The type is that of the only extension the path has, or plain text without one. -/
def OwnType (path : CString) (type : String) : Prop :=
  (∃ entry, (entry ∈ contentTypes ∧ HasExtension path entry.1) ∧
    (∀ other ∈ contentTypes, HasExtension path other.1 → other = entry) ∧ type = entry.2) ∨
  (∀ entry ∈ contentTypes, ¬ HasExtension path entry.1) ∧ type = "text/plain"

/-- Every test compares the last characters of the path, and the type is the path's own. -/
structure OwnSuffix (path : CString) (typing : Typing) : Prop where
  inside : ∀ test ∈ typing.tests, test.index.toNat + test.ext.length = path.length
  own : OwnType path typing.type

variable {stack : Nat → Char} {path ext : CString}

theorem strcasecmp_eq_zero_iff {s t : CString} (sameLength : s.length = t.length) :
    strcasecmp s t = 0 ↔ s.map Char.toLower = t.map Char.toLower := by
  induction s generalizing t with
  | nil =>
    cases t with
    | nil => simp [strcasecmp]
    | cons d t => cases sameLength
  | cons c s ih =>
    cases t with
    | nil => cases sameLength
    | cons d t =>
      simp only [strcasecmp, List.map_cons, List.cons.injEq]
      by_cases same : c.toLower = d.toLower
      · simp only [same, ↓reduceIte, true_and]
        exact ih (by simpa using sameLength)
      · have different : c.toLower.toNat ≠ d.toLower.toNat :=
          fun equal => same (Char.toNat_inj.mp equal)
        simp only [same, ↓reduceIte, false_and, iff_false]
        omega

/-- The index does not wrap around exactly when the path is as long as the extension. -/
private theorem extension_index_inside_iff (small : path.length < 2 ^ 32)
    (extSmall : ext.length < 2 ^ 32) :
    (extensionIndex path ext).toNat + ext.length = path.length ↔ ext.length ≤ path.length := by
  simp only [extensionIndex, UInt32.toNat_sub, UInt32.toNat_ofNat']
  omega

/-- On a path that is long enough a test tells whether it has the extension. -/
theorem check_file_extension_iff (small : path.length < 2 ^ 32)
    (long : ext.length ≤ path.length) :
    checkFileExtension stack path ext = true ↔ HasExtension path ext := by
  have inside := (extension_index_inside_iff small (by omega)).mpr long
  have index : (extensionIndex path ext).toNat = path.length - ext.length := by omega
  have text : textAt stack path (extensionIndex path ext) =
      path.drop (path.length - ext.length) := by
    rw [textAt, index, if_pos (Nat.sub_le _ _)]
  have sameLength : (path.drop (path.length - ext.length)).length = ext.length := by
    rw [List.length_drop]
    omega
  rw [checkFileExtension, text, decide_eq_true_iff, strcasecmp_eq_zero_iff sameLength,
    HasExtension, List.suffix_iff_eq_drop, List.length_map, List.length_map, List.map_drop, eq_comm]

/-- The extensions tell paths apart: none ends in another. -/
private theorem extensions_apart : ∀ entry ∈ contentTypes, ∀ other ∈ contentTypes,
    entry.1.map Char.toLower <:+ other.1.map Char.toLower → entry = other := by
  decide

private theorem extension_unique {entry other : CString × String} (member : entry ∈ contentTypes)
    (otherMember : other ∈ contentTypes) (has : HasExtension path entry.1)
    (otherHas : HasExtension path other.1) : other = entry := by
  rcases List.suffix_or_suffix_of_suffix has otherHas with within | within
  · exact (extensions_apart entry member other otherMember within).symm
  · exact extensions_apart other otherMember entry member within

private theorem extension_length_le : ∀ entry ∈ contentTypes, entry.1.length ≤ 5 := by decide

/-- Whatever the path, the first test is made. -/
private theorem first_test_made (stack : Nat → Char) (path ext : CString) (type : String)
    (rest : List (CString × String)) :
    ⟨ext, extensionIndex path ext⟩ ∈ (testExtensions stack path ((ext, type) :: rest)).tests := by
  unfold testExtensions
  dsimp only
  split
  · exact List.mem_cons_self
  · exact List.mem_cons_self

/-- The chain stops at the first extension the path has. -/
theorem test_extensions_first (stack : Nat → Char) (small : path.length < 2 ^ 32)
    (entries : List (CString × String))
    (long : ∀ entry ∈ entries, entry.1.length ≤ path.length) :
    (testExtensions stack path entries).type =
        ((entries.find? fun entry => HasExtension path entry.1).map Prod.snd).getD "text/plain" ∧
      ∀ test ∈ (testExtensions stack path entries).tests,
        test.index.toNat + test.ext.length = path.length := by
  induction entries with
  | nil => exact ⟨rfl, by simp [testExtensions]⟩
  | cons entry rest ih =>
    obtain ⟨ext, type⟩ := entry
    have fits : ext.length ≤ path.length := long (ext, type) (by simp)
    have inside := (extension_index_inside_iff small (by omega)).mpr fits
    obtain ⟨laterType, laterTests⟩ := ih fun entry member => long entry (by simp [member])
    by_cases has : HasExtension path ext
    · have check : checkFileExtension stack path ext = true :=
        (check_file_extension_iff small fits).mpr has
      simp [testExtensions, check, has, inside]
    · have check : ¬ checkFileExtension stack path ext = true :=
        mt (check_file_extension_iff small fits).mp has
      refine ⟨?_, ?_⟩
      · simp [testExtensions, check, has, laterType]
      · simp only [testExtensions, check, Bool.false_eq_true, ↓reduceIte, List.mem_cons,
          forall_eq_or_imp]
        exact ⟨inside, laterTests⟩

/-- **One path.** The type is set from the path's own suffix exactly when the path has room for
the longest extension, which is tested first. -/
theorem own_suffix_iff (stack : Nat → Char) (small : path.length < 2 ^ 32) :
    OwnSuffix path (setContentTypeFromFile stack path) ↔ 5 ≤ path.length := by
  constructor
  · intro own
    have first : ⟨".html".toList, extensionIndex path ".html".toList⟩ ∈
        (setContentTypeFromFile stack path).tests := first_test_made stack path _ _ _
    exact (extension_index_inside_iff small (by decide)).mp (own.inside _ first)
  · intro long
    obtain ⟨type, inside⟩ := test_extensions_first stack small contentTypes
      fun entry member => Nat.le_trans (extension_length_le entry member) long
    refine ⟨inside, ?_⟩
    rw [setContentTypeFromFile, type]
    cases found : contentTypes.find? fun entry => HasExtension path entry.1 with
    | none =>
      refine Or.inr ⟨?_, rfl⟩
      simpa using List.find?_eq_none.mp found
    | some entry =>
      have member := List.mem_of_find?_eq_some found
      have has : HasExtension path entry.1 := by simpa using List.find?_some found
      exact Or.inl ⟨entry, ⟨member, has⟩,
        fun other otherMember otherHas => extension_unique member otherMember has otherHas, rfl⟩

/-- The path opened is short only for a URI that names a file with few characters. -/
theorem filepath_length_ge_iff (basePath uri : CString) :
    5 ≤ (filepath basePath uri).length ↔
      uri.getLast? = some '/' ∨ 5 ≤ basePath.length + uri.length := by
  have index : indexHtml.length = 11 := rfl
  rw [filepath_eq, List.length_append, List.length_take, uriRoom, uriPath, restBasePath, strlcpy,
    List.length_take]
  simp only [filePathMax, espVfsPathMax]
  split
  · rename_i slash
    simp only [slash, true_or, iff_true]
    omega
  · rename_i plain
    simp only [plain, false_or]
    omega

theorem filepath_length_lt (basePath uri : CString) : (filepath basePath uri).length < 2 ^ 32 := by
  have bound := rest_base_path_length_le basePath
  rw [filepath_eq, List.length_append, List.length_take, uriRoom]
  simp only [filePathMax, espVfsPathMax] at bound ⊢
  omega

/-- For every base path and URI the content type is set from the opened path's own suffix
exactly when the URI asks for an index or is, with the base path, as long as the longest
extension. -/
theorem content_type_own_suffix_iff (stack : Nat → Char) (basePath uri : CString) :
    OwnSuffix (filepath basePath uri) (setContentTypeFromFile stack (filepath basePath uri)) ↔
      uri.getLast? = some '/' ∨ 5 ≤ basePath.length + uri.length := by
  rw [own_suffix_iff stack (filepath_length_lt basePath uri), filepath_length_ge_iff]

/-- With a mount point of two characters a test for a file with a name of one reads in front of
the path. -/
theorem short_path_read_before_start :
    ¬ ∀ (stack : Nat → Char) (basePath uri : CString), uri.head? = some '/' →
      OwnSuffix (filepath basePath uri) (setContentTypeFromFile stack (filepath basePath uri)) := by
  intro own
  have short := own (fun _ => 'x') "/w".toList "/a".toList rfl
  rw [own_suffix_iff _ (filepath_length_lt _ _)] at short
  exact absurd short (by decide)

end PowerMonitor.ContentType
