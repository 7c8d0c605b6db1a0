/-!
# File paths

Paths are texts with slashes. Joining puts one path under another, unless it begins at the root
itself. Walking a path follows its components one by one: a single point stays where it is, two
points go up. A slash at the end is a point behind it, and slashes in a row are one.
-/

namespace ClusterBilling.Path

def isAbsolute (path : String) : Bool := path.toList.head? == some '/'

/-- The path `part` seen from `base`. -/
def join (base part : String) : String :=
  if isAbsolute part || base.isEmpty then part
  else if base.toList.getLast? == some '/' then base ++ part
  else base ++ "/" ++ part

/-- The compressed file beside a plain one. -/
def compressed (path : String) : String := path ++ ".gz"

/-- The components of a path. -/
def components (path : String) : List String :=
  let parts := (path.toList.splitOn '/').map String.ofList
  parts.filter (· != "") ++ if parts.getLast? == some "" then ["."] else []

end ClusterBilling.Path
