import Fixtures.Files.System

/-!
# Trees of files

A tree holds files and directories at locations below a root. A path is followed name by name from the
current directory or the root: every name but the last must lead to a directory, and two dots lead back to
the directory above.

## Shape of a tree

`Tree.get?` tells what is at a location, and `Tree.set` and `Tree.erase` change it. A location lists its
names from the last to the first, so the directory of a location is its tail.
-/

namespace Fixtures.Files

/-- The names from the root to a file or directory, the last one first. -/
abbrev Location := List String

/-- What is at a location. -/
inductive Entry where
  | directory
  | file (content : Content)

/-- Which kind an entry is. -/
def Entry.kind : Entry → Kind
  | directory => .directory
  | file _ => .file

/-- Files and directories below a root, and the location of the current directory. -/
structure Tree where
  entries : List (Location × Entry)
  here : Location

namespace Tree

/-- A tree with nothing but an empty current directory, one level below the root. -/
def empty (name : String) : Tree := ⟨[([name], .directory)], [name]⟩

/-- What is at a location. The root is a directory. -/
def get? (t : Tree) (location : Location) : Option Entry :=
  if location.isEmpty then some .directory else t.entries.lookup location

/-- The tree without what is at a location. -/
def erase (t : Tree) (location : Location) : Tree :=
  { t with entries := t.entries.filter (·.1 ≠ location) }

/-- The tree with an entry at a location. -/
def set (t : Tree) (location : Location) (entry : Entry) : Tree :=
  { t with entries := (t.erase location).entries ++ [(location, entry)] }

/-! ## Following paths -/

/-- The longest name of a file, in bytes. -/
def nameLimit : Nat := 255

/-- The number of bytes that a path must stay below. -/
def pathLimit : Nat := 4096

/-- The names of a path, if the path can be one. -/
def namesOf (path : String) : Except Fault (List String) :=
  if path.toList.contains '\x00' then .error .nulInName
  else if path.isEmpty then .error .missing
  else if pathLimit ≤ path.utf8ByteSize then .error .nameTooLong
  else .ok (Path.names path)

/-- Checks that a location is a directory. -/
def enter (t : Tree) (location : Location) : Except Fault Unit :=
  match t.get? location with
  | some .directory => .ok ()
  | some (.file _) => .error .notDirectory
  | none => .error .missing

/-- Whether a name says where to stay or to go back. -/
def isDots (name : String) : Bool := name = "" || name = "." || name = ".."

/-- The location that a name leads to from a directory. -/
def follow (t : Tree) (location : Location) (name : String) : Except Fault Location := do
  t.enter location
  if name = "" || name = "." then .ok location
  else if name = ".." then .ok location.tail
  else if nameLimit < name.utf8ByteSize then .error .nameTooLong
  else if (t.get? (name :: location)).isSome then .ok (name :: location)
  else .error .missing

/-- Where a path starts. -/
def start (t : Tree) (path : String) : Location := if Path.isAbsolute path then [] else t.here

/-- The location that a path leads to. -/
def locate (t : Tree) (path : String) : Except Fault Location := do
  (← namesOf path).foldlM t.follow (t.start path)

/-- What a path leads to. -/
def find (t : Tree) (path : String) : Except Fault Entry := do
  match t.get? (← t.locate path) with
  | some entry => .ok entry
  | none => .error .missing

/-- Where a path would put something: the directory, the name in it, and whether a slash follows the name.
Dots and the root are no name. -/
structure Target where
  dir : Location
  name : Option String
  hasSlash : Bool

/-- Where a path would put something. -/
def target (t : Tree) (path : String) : Except Fault Target := do
  let names ← namesOf path
  let rest := names.reverse.dropWhile (· = "")
  let dir ← rest.tail.reverse.foldlM t.follow (t.start path)
  t.enter dir
  let name := rest.head?.filter (!isDots ·)
  if (name.map String.utf8ByteSize).any (nameLimit < ·) then .error .nameTooLong
  else .ok ⟨dir, name, names.getLast? = some ""⟩

/-- The location of a file that a path would make or change. -/
def fileTarget (t : Tree) (path : String) : Except Fault Location := do
  let target ← t.target path
  match target.name with
  | none => .error .isDirectory
  | some name =>
    let location := name :: target.dir
    match t.get? location with
    | some .directory => .error .isDirectory
    | _ => if target.hasSlash then .error .isDirectory else .ok location

/-! ## Operations -/

/-- What a file holds. -/
def read (t : Tree) (path : String) : Except Fault Content := do
  match ← t.find path with
  | .file content => .ok content
  | .directory => .error .isDirectory

/-- The names in a directory. -/
def list (t : Tree) (path : String) : Except Fault (List String) := do
  let location ← t.locate path
  t.enter location
  .ok (t.entries.filterMap fun (entry, _) =>
    match entry with
    | name :: dir => if dir = location then some name else none
    | [] => none)

/-- Makes a directory. -/
def makeDir (t : Tree) (path : String) : Except Fault Tree := do
  let target ← t.target path
  match target.name with
  | none => .error .alreadyThere
  | some name =>
    let location := name :: target.dir
    if (t.get? location).isSome then .error .alreadyThere else .ok (t.set location .directory)

/-- Gives a file a new content. -/
def write (t : Tree) (path : String) (content : Content) : Except Fault Tree := do
  .ok (t.set (← t.fileTarget path) (.file content))

/-- Adds a text at the end of a file. -/
def append (t : Tree) (path : String) (more : String) : Except Fault Tree := do
  let location ← t.fileTarget path
  match t.get? location with
  | some (.file content) => .ok (t.set location (.file (content.append more)))
  | _ => .ok (t.set location (.file (.text more)))

/-- Gives a file another path. -/
def rename (t : Tree) (source destination : String) : Except Fault Tree := do
  let location ← t.locate source
  match t.get? location with
  | some (.file content) =>
    .ok ((t.erase location).set (← t.fileTarget destination) (.file content))
  | some .directory => .error .isDirectory
  | none => .error .missing

/-- The paths of everything below a location, with a slash behind those of directories. -/
def below (t : Tree) (location : Location) : List String :=
  t.entries.filterMap fun (entry, what) =>
    let depth := entry.length - location.length
    if 0 < depth && entry.drop depth = location then
      let path := String.intercalate "/" (entry.take depth).reverse
      some (match what with
        | .directory => path ++ "/"
        | .file _ => path)
    else none

end Tree

end Fixtures.Files
