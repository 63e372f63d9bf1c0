import Fixtures.Connection.Redaction
import Fixtures.Export.Credentials
import Fixtures.Json.Value
import Fixtures.Log.Journal

/-!
# Sinks

A sink takes documents into the collections of a document store. `Memory` is a store that is a value: it
keeps what was taken in order, and can be told to refuse.
-/

namespace Fixtures.Export

open Log (Journal Event)

/-- Where documents go. -/
structure Sink (m : Type → Type) where
  insert : String → Document → ExceptT ExportError m Unit

/-! ## Connecting -/

/-- A connection is about to be opened. No secret of the connection string is told. -/
def connectingEvent (c : Credentials) : Event :=
  let connection := Connection.redact c.uri
  ⟨.info, "datagen_export::sink", [("message", .string "connecting to mongodb"),
    ("uri", .string connection.redacted), ("hosts", .int connection.hosts.length),
    ("database", .string c.database)]⟩

/-- The schemes that a connection string may have. -/
def schemes : List String := ["mongodb://", "mongodb+srv://"]

/-- Whether a text may be a connection string. -/
def isConnectionString (uri : String) : Bool :=
  schemes.any fun scheme => scheme.toList.isPrefixOf uri.toList

/-- Opens a connection in a given way; what can not be a connection string is refused. -/
def connect {m : Type → Type} [Monad m] [Host m] (journal : Journal)
    (dial : Credentials → ExceptT ExportError m (Sink m)) (c : Credentials) :
    ExceptT ExportError m (Sink m) := do
  journal.record (m := m) (connectingEvent c)
  if isConnectionString c.uri then dial c else throw .store

/-- A way to open connections where no store can be reached. -/
def unreachable {m : Type → Type} [Monad m] : Credentials → ExceptT ExportError m (Sink m) :=
  fun _ => throw .store

/-! ## Stores in memory -/

/-- The documents taken so far, with their collections. -/
abbrev Memory := List (String × Document)

namespace Memory

/-- What a store refuses: documents for a collection, and documents beyond a number. -/
structure Policy where
  refused : Option String := none
  capacity : Option Nat := none

/-- Whether a document for a collection is refused. -/
def Policy.refuses (p : Policy) (memory : Memory) (collection : String) : Bool :=
  p.refused = some collection || p.capacity.any (· ≤ memory.length)

/-- The sink of a store in memory. -/
def sink {m : Type → Type} [Monad m] (p : Policy) : Sink (StateT Memory m) where
  insert collection document := ExceptT.mk fun memory =>
    if p.refuses memory collection then
      pure (.error (.files (.other "sink unavailable")), memory)
    else pure (.ok (), memory ++ [(collection, document)])

end Memory

end Fixtures.Export
