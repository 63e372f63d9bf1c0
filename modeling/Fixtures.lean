import Fixtures.Host.Workspace
import Fixtures.Main
import Fixtures.Schema.Codec
import Fixtures.Proofs.Assembly.Plan
import Fixtures.Proofs.Assembly.Trace
import Fixtures.Proofs.Assembly.Failure
import Fixtures.Proofs.Assembly.Documents
import Fixtures.Proofs.Assembly.Sets
import Fixtures.Proofs.Connection.Masking
import Fixtures.Proofs.Export.Inserting
import Fixtures.Proofs.Export.Rereading
import Fixtures.Proofs.Files.Replacing
import Fixtures.Proofs.Generation.Running
import Fixtures.Proofs.Generation.Announcing
import Fixtures.Proofs.Generation.Stopping
import Fixtures.Proofs.Json.RoundTrip
import Fixtures.Proofs.Pipeline
import Fixtures.Proofs.Assembly.Independence
import Fixtures.Proofs.Export.Stopping
import Fixtures.Proofs.Sdl.Scanning
import Fixtures.Proofs.Sdl.Taking
import Fixtures.Proofs.Sdl.Retaking
import Fixtures.Proofs.Sdl.Lookahead
import Fixtures.Proofs.Sdl.Joining
import Fixtures.Proofs.Sdl.Spelling
import Fixtures.Proofs.Sdl.Writing
import Fixtures.Proofs.Settings.Sources
import Fixtures.Proofs.CommandLine.Stages
import Fixtures.Proofs.Assembly.Additions
import Fixtures.Proofs.Export.KeyFiles
import Fixtures.Proofs.Connection.Partition
import Fixtures.Proofs.Files.Overwriting
import Fixtures.Proofs.Generation.Repeating
import Fixtures.Proofs.Json.Grammar
import Fixtures.Proofs.Json.Skipping
import Fixtures.Proofs.Json.Decoding
import Fixtures.Proofs.Codecs
import Fixtures.Proofs.Export.Listing
import Fixtures.Proofs.Files.Faults
import Fixtures.Proofs.Generation.Atomicity
import Fixtures.Proofs.Random.Ranges
import Fixtures.Proofs.Script.Numbers
import Fixtures.Proofs.Export.Accepting
import Fixtures.Proofs.Script.Choices
import Fixtures.Proofs.Script.Lengths
import Fixtures.Proofs.Assembly.Growing
import Fixtures.Proofs.Generation.Resolving
import Fixtures.Proofs.Generation.Accounting
import Fixtures.Proofs.CommandLine.Merging
import Fixtures.Proofs.Generation.Literals
import Fixtures.Proofs.Script.Endless
import Fixtures.Proofs.CommandLine.Numbers
import Fixtures.Proofs.Generation.Seeds
import Fixtures.Proofs.CommandLine.Entries
import Fixtures.Proofs.CommandLine.Arranging
import Fixtures.Proofs.Toml.BasicStrings
import Fixtures.Proofs.Export.Formats
import Fixtures.Proofs.Script.Identifiers
import Fixtures.Proofs.Script.Identifiers
