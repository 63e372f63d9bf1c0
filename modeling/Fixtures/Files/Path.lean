import Fixtures.Text.Split

/-!
# Paths

A path is a text of names between slashes. Empty names and single dots, but for a dot at the start, say
nothing; what remains are the parts of the path. Two dots are a part like others here, since only the files
tell where they lead.
-/

namespace Fixtures.Files.Path

/-- The names between the slashes of a path. -/
def names (path : String) : List String :=
  (Text.pieces '/' path.toList).map String.ofList

/-- Whether a path starts at the root. -/
def isAbsolute (path : String) : Bool := path.toList.head? = some '/'

/-- The names of a path that say something. -/
def parts (path : String) : List String :=
  match names path with
  | [] => []
  | first :: rest =>
    (if first = "" then [] else [first]) ++ rest.filter fun name => name ≠ "" && name ≠ "."

/-- The path with parts. -/
def ofParts (isAbsolute : Bool) (parts : List String) : String :=
  (if isAbsolute then "/" else "") ++ String.intercalate "/" parts

/-- One path below another. An absolute path is below none. -/
def join (dir path : String) : String :=
  if isAbsolute path || dir.isEmpty then path
  else if dir.toList.getLast? = some '/' then dir ++ path
  else dir ++ "/" ++ path

/-- The path without its last part; a path without parts has no parent. -/
def parent? (path : String) : Option String :=
  match (parts path).reverse with
  | [] => none
  | _ :: before => some (ofParts (isAbsolute path) before.reverse)

/-- The last part of a path, unless it is dots. -/
def fileName? (path : String) : Option String :=
  (parts path).getLast?.filter fun name => name ≠ "." && name ≠ ".."

/-- A path and those above it, as long as they have parts. -/
def ancestors (path : String) : List String :=
  let count := (parts path).length
  if path.isEmpty then []
  else path :: (List.range (count - 1)).reverse.map fun n =>
    ofParts (isAbsolute path) ((parts path).take (n + 1))

/-- The path beside another one that has a different last part. -/
def withName (path name : String) : String :=
  match parent? path with
  | some dir => join dir name
  | none => name

/-- A file name cut at its last dot. A name that only begins with a dot is not cut. -/
def cutName (name : String) : String × Option String :=
  match Text.cutLast '.' name.toList with
  | some (stem, extension) =>
    if stem.isEmpty then (name, none) else (String.ofList stem, some (String.ofList extension))
  | none => (name, none)

/-- The part of the file name before its last dot. -/
def stem? (path : String) : Option String := (fileName? path).map fun name => (cutName name).1

/-- The part of the file name after its last dot. -/
def extension? (path : String) : Option String := (fileName? path).bind fun name => (cutName name).2

end Fixtures.Files.Path
