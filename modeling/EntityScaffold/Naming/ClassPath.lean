import EntityScaffold.Naming.ClassName
import EntityScaffold.Path
/-!
# The file of a class

The first segment of a class name stands for the application directory, the others are directories
below it, and the short name with the file extension is the file: `App\Model\User` lives in
`app/Model/User.php`.  A name of one segment lives directly in the application directory.
-/

namespace EntityScaffold.ClassName

/-- The segments that name something. -/
def properSegments (name : String) : List String := (segments name).filter (· != "")

/-- Directories and short name of a class below the application directory; `none` for a name without
segments. -/
def placeBelow? (name : String) : Option (List String × String) :=
  match properSegments name with
  | [] => none
  | [only] => some ([], only)
  | _ :: rest => rest.getLast?.map fun short => (rest.dropLast, short)

/-- The file of a class below `appDir`; `none` for a name without segments. -/
def path? (name : String) (appDir : Path) (extension : String) : Option Path :=
  (placeBelow? name).map fun (directories, short) =>
    (directories ++ [short ++ extension]).foldl (fun p part => p.append (.ofString part)) appDir

end EntityScaffold.ClassName
