/-! The file that the master's web server opens for a request (`master/main/rest_server.c`,
`start_rest_server` and the start of `rest_common_get_handler`). A C string is the list of its
characters before the terminating NUL. -/
namespace PowerMonitor.StaticFiles

abbrev CString : Type := List Char

/-- `ESP_VFS_PATH_MAX`, the longest path prefix of a file system. -/
def espVfsPathMax : Nat := 15

/-- `FILE_PATH_MAX`, the size of the path buffer of a request. -/
def filePathMax : Nat := espVfsPathMax + 128

/-- `SCRATCH_BUFSIZE`, the size of the buffer a chunk of a file or a body is moved through. -/
def scratchBufsize : Nat := 10240

/-- What `strlcpy` leaves in a buffer of the given size. -/
def strlcpy (src : CString) (size : Nat) : CString := src.take (size - 1)

/-- What `strlcat` leaves in a buffer of the given size. -/
def strlcat (dst src : CString) (size : Nat) : CString :=
  if dst.length < size then dst ++ src.take (size - dst.length - 1) else dst

/-- The `base_path` that `start_rest_server` keeps in its context. -/
def restBasePath (basePath : CString) : CString := strlcpy basePath (espVfsPathMax + 1)

/-- `/index.html`. -/
def indexHtml : CString := "/index.html".toList

/-- What `rest_common_get_handler` appends to the base path for a URI. -/
def uriPath (uri : CString) : CString := if uri.getLast? = some '/' then indexHtml else uri

/-- The path that `rest_common_get_handler` opens. -/
def filepath (basePath uri : CString) : CString :=
  strlcat (strlcpy (restBasePath basePath) filePathMax) (uriPath uri) filePathMax

/-- The number of characters of the URI's path the buffer has room for. -/
def uriRoom (basePath : CString) : Nat := filePathMax - 1 - (restBasePath basePath).length

theorem rest_base_path_length_le (basePath : CString) :
    (restBasePath basePath).length ≤ espVfsPathMax :=
  List.length_take_le espVfsPathMax basePath

/-- A base path that is no longer than a prefix of the file system may be is kept. -/
theorem rest_base_path_of_short {basePath : CString} (short : basePath.length ≤ espVfsPathMax) :
    restBasePath basePath = basePath := List.take_of_length_le short

/-- The path opened is the kept base path and as much of the URI's path as there is room for. -/
theorem filepath_eq (basePath uri : CString) :
    filepath basePath uri =
      restBasePath basePath ++ (uriPath uri).take (uriRoom basePath) := by
  have bound := rest_base_path_length_le basePath
  have kept : strlcpy (restBasePath basePath) filePathMax = restBasePath basePath :=
    List.take_of_length_le (by simp only [filePathMax, espVfsPathMax] at bound ⊢; omega)
  have fits : (restBasePath basePath).length < filePathMax := by
    simp only [filePathMax, espVfsPathMax] at bound ⊢
    omega
  rw [filepath, kept, strlcat, if_pos fits, uriRoom, Nat.sub_right_comm]

end PowerMonitor.StaticFiles
