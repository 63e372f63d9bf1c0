import Fixtures.CommandLine.Program
import Std.Time.DateTime.Timestamp

/-!
# The executable

Carries the program out on the files, the clock and the console of the system. No document store can be
reached from here.
-/

namespace Fixtures.Main

open Files (Fault Kind Content)

/-- A failure of the system as a fault. -/
def faultOf (e : IO.Error) : Fault :=
  match e with
  | .noFileOrDirectory .. => .missing
  | .alreadyExists .. => .alreadyThere
  | .inappropriateType _ code _ => if code = 20 then .notDirectory else .isDirectory
  | .invalidArgument _ code _ => if code = 36 then .nameTooLong else .other (toString e)
  | e => .other (toString e)

/-- Carries out an operation on files. -/
def attempt {α : Type} (act : IO α) : ExceptT Fault IO α :=
  ExceptT.mk do
    match ← act.toBaseIO with
    | .ok a => pure (.ok a)
    | .error e => pure (.error (faultOf e))

/-- What a path leads to. -/
def kindOf (path : String) : IO (Option Kind) := do
  match ← (IO.FS.realPath path).toBaseIO with
  | .error _ => pure none
  | .ok place => pure (some (if ← place.isDir then .directory else .file))

/-- The bytes of a random seed, as a number. -/
def seedOf (bytes : ByteArray) : UInt64 :=
  bytes.foldl (fun seed b => seed * 256 + b.toUInt64) 0

instance : Host IO where
  kind? := kindOf
  read path := attempt do pure (.ofBytes (← IO.FS.readBinFile path))
  list path := attempt do
    pure ((← (← IO.FS.realPath path).readDir).toList.map (·.fileName))
  makeDir path := attempt (IO.FS.createDir path)
  write path content := attempt (IO.FS.writeBinFile path content.toBytes)
  append path text := attempt do (← IO.FS.Handle.mk path .append).putStr text
  rename source destination := attempt (IO.FS.rename source destination)
  now := do pure (← Std.Time.Timestamp.now).toMillisecondsSinceUnixEpoch.val
  drawSeed := do pure (seedOf (← IO.getRandomBytes 8))
  print text := do (← IO.getStdout).putStr text

end Fixtures.Main

open Fixtures in
/-- Runs the program. -/
def main (args : List String) : IO UInt32 := do
  let filter ← IO.getEnv "RUST_LOG"
  let ending ← CommandLine.execute Export.unreachable filter args
  if let some message := ending.message then (← IO.getStderr).putStrLn message
  pure (UInt32.ofNat ending.code)
