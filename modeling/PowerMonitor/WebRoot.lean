import PowerMonitor.PathResolution
import PowerMonitor.StaticFiles

/-! Whether the file opened for a request lies under the web root. The handler puts the base
path in front of the URI and looks at nothing else, so the `..` segments of a URI lead out of
the root; where they lead is read off the URI alone. -/
namespace PowerMonitor.WebRoot
open PathResolution StaticFiles

/-- The path opened resolves to a place under the base path. -/
def Confined (basePath uri : CString) : Prop :=
  place basePath <:+ place (filepath basePath uri)

/-- The part of the URI's path that fits in the path buffer. -/
def keptPath (basePath uri : CString) : CString := (uriPath uri).take (uriRoom basePath)

/-- Where the kept path leads from its first slash on. -/
def uriWay (basePath uri : CString) : Way (List Char) :=
  way (steps (rest (keptPath basePath uri)))

/-- Where the kept path has climbed to: from the base path, which `start_rest_server` may have cut,
with the text of a URI that does not begin with a slash behind it. -/
def climbedTo (basePath uri : CString) : List (List Char) :=
  (place (restBasePath basePath ++ lead (keptPath basePath uri))).drop (uriWay basePath uri).climbs

/-- The path from its first slash on climbs over segments of the base path only to descend by
the same names. From any other place than the base path it climbs to one below the base path, or
to one above it from which it descends by the names that are missing to the base path. -/
def ClimbsBack (basePath uri : CString) : Prop :=
  if basePath.length ≤ espVfsPathMax ∧ lead (keptPath basePath uri) = [] then
    (place basePath).take (uriWay basePath uri).climbs <:+ (uriWay basePath uri).names
  else
    place basePath <:+ climbedTo basePath uri ∨
      ∃ missing, place basePath = missing ++ climbedTo basePath uri ∧
        missing <:+ (uriWay basePath uri).names

instance (basePath uri : CString) : Decidable (Confined basePath uri) :=
  inferInstanceAs (Decidable (_ <:+ _))

/-- The path opened lies under the base path exactly when the URI's own way does not climb
over segments of the base path without descending by them again. -/
theorem confined_iff (basePath uri : CString) :
    Confined basePath uri ↔ ClimbsBack basePath uri := by
  have opened : place (filepath basePath uri) =
      (uriWay basePath uri).names ++ climbedTo basePath uri := by
    rw [filepath_eq]
    exact place_append _ _
  unfold Confined ClimbsBack
  rw [opened]
  split
  · rename_i plain
    rw [climbedTo, rest_base_path_of_short plain.1, plain.2, List.append_nil]
    exact below_start_iff _ _ _
  · exact below_target_iff _ _ _

/-- A `..` segment leads out of the mount point. -/
theorem dot_dot_leads_out :
    ¬ ∀ basePath uri : CString, Confined basePath uri := by
  intro confined
  exact absurd (confined "/www".toList "/../secret".toList) (by decide)

end PowerMonitor.WebRoot
