import Fixtures.Files.Path

/-!
# Files

The operations on files that the library asks for, and those it builds from them: reading text, making a
directory with those above it, and replacing a file as a whole. `FileSystem m` gives the operations in a
monad `m`; failures are values, so what was done before one stays done.
-/

namespace Fixtures.Files

/-- Why an operation on files failed. -/
inductive Fault where
  | missing
  | alreadyThere
  | notDirectory
  | isDirectory
  | nameTooLong
  | notText
  | nulInName
  | nameless (path : String)
  | other (message : String)
  deriving DecidableEq, Repr

/-- The wording of a fault. -/
def Fault.message : Fault → String
  | missing => "No such file or directory (os error 2)"
  | alreadyThere => "File exists (os error 17)"
  | notDirectory => "Not a directory (os error 20)"
  | isDirectory => "Is a directory (os error 21)"
  | nameTooLong => "File name too long (os error 36)"
  | notText => "stream did not contain valid UTF-8"
  | nulInName => "file name contained an unexpected NUL byte"
  | nameless path => "invalid output path: " ++ path
  | other message => message

/-- The wording of a fault where any failure may be reported. A path that names no file is no failure of the
system. -/
def Fault.report : Fault → String
  | f@(nameless _) => f.message
  | f => "io error: " ++ f.message

/-- What a file holds: a text, or bytes that are none. -/
inductive Content where
  | text (s : String)
  | bytes (b : ByteArray)

namespace Content

/-- The content with the given bytes. -/
def ofBytes (b : ByteArray) : Content :=
  match String.fromUTF8? b with
  | some s => text s
  | none => bytes b

/-- The bytes of a content. -/
def toBytes : Content → ByteArray
  | text s => s.toUTF8
  | bytes b => b

/-- The content with a text added at its end. -/
def append (c : Content) (more : String) : Content :=
  match c with
  | text s => text (s ++ more)
  | bytes b => ofBytes (b ++ more.toUTF8)

/-- The text of a content. -/
def text? : Content → Except Fault String
  | text s => .ok s
  | bytes _ => .error .notText

end Content

/-- What a path leads to. -/
inductive Kind where
  | directory
  | file
  deriving DecidableEq, Repr

/-- The operations on files. Paths that are not absolute start at the current directory. -/
class FileSystem (m : Type → Type) where
  /-- What a path leads to, if anything. -/
  kind? : String → m (Option Kind)
  /-- What a file holds. -/
  read : String → ExceptT Fault m Content
  /-- The names in a directory, in any order. -/
  list : String → ExceptT Fault m (List String)
  /-- Makes a directory in one that is there. -/
  makeDir : String → ExceptT Fault m Unit
  /-- Gives a file a new content; the file is made if it is missing. -/
  write : String → Content → ExceptT Fault m Unit
  /-- Adds a text at the end of a file; the file is made if it is missing. -/
  append : String → String → ExceptT Fault m Unit
  /-- Gives a file another path, in place of the file there. -/
  rename : String → String → ExceptT Fault m Unit

variable {m : Type → Type} [Monad m] [FileSystem m]

/-- Whether a path leads to anything. -/
def isPresent (path : String) : m Bool := Option.isSome <$> FileSystem.kind? path

/-- Whether a path leads to a directory. -/
def isDirectory (path : String) : m Bool := (· == some .directory) <$> FileSystem.kind? path

/-- Whether a path leads to a file. -/
def isFile (path : String) : m Bool := (· == some .file) <$> FileSystem.kind? path

/-- The text of a file. -/
def readText (path : String) : ExceptT Fault m String := do
  (← FileSystem.read path).text?

/-- Makes a directory unless it is there. -/
def makeDirIfMissing (path : String) : ExceptT Fault m Unit := do
  try FileSystem.makeDir path
  catch fault => if ← (isDirectory path : m Bool) then pure () else throw fault

/-- Makes the first of some directories, each of which is in the next one. Those further up are made only
where they are missing. -/
def makeDirsWithin : List String → ExceptT Fault m Unit
  | [] => pure ()
  | path :: above => do
    try makeDirIfMissing path
    catch fault =>
      if fault = .missing then do
        makeDirsWithin above
        makeDirIfMissing path
      else throw fault

/-- Makes a directory and those above it that are missing. -/
def makeDirs (path : String) : ExceptT Fault m Unit := makeDirsWithin (Path.ancestors path)

/-- The file beside another one that holds its next content until it is complete. -/
def draftOf (path : String) : String :=
  Path.withName path ((Path.fileName? path).getD "" ++ ".tmp")

/-- Replaces a file as a whole: the new content is complete before it takes the place of the old one. The
directory of the file is made if it is missing; only then a path without a file name is refused. -/
def replaceFile (path text : String) : ExceptT Fault m Unit := do
  match Path.parent? path with
  | some dir => if dir.isEmpty then pure () else makeDirs dir
  | none => pure ()
  if (Path.fileName? path).isNone then throw (.nameless path)
  FileSystem.write (draftOf path) (.text text)
  FileSystem.rename (draftOf path) path

end Fixtures.Files
