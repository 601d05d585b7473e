import TypedTag.Decimal.Shortest
import TypedTag.Text.Literal
import TypedTag.Text.Quoted
import TypedTag.Text.LineBreak
import TypedTag.Text.Utf8
import TypedTag.Naming.Namer
import TypedTag.Json.Error
import TypedTag.Json.Value
import TypedTag.Json.Number
import TypedTag.Json.Text
import TypedTag.Json.Reader
import TypedTag.Json.Skip
import TypedTag.Json.Printer
import TypedTag.Json.Record
import TypedTag.Settings.Json
import TypedTag.GeneratedModule
import TypedTag.Document.Definitions
import TypedTag.Files.Walk
import TypedTag.Resolver
import TypedTag.Command.Arguments
import TypedTag.Command.Run
import TypedTag.Main
import TypedTag.Proofs.Text.Literal
import TypedTag.Proofs.Text.Delimited
import TypedTag.Proofs.Entries
import TypedTag.Proofs.Registry.Occurrences
import TypedTag.Proofs.GeneratedModule.RegistryLiteral
import TypedTag.Proofs.Settings.Names
import TypedTag.Proofs.Overload.Dispatch
import TypedTag.Proofs.Registry.Unambiguous
import TypedTag.Proofs.Command.Policy
import TypedTag.Proofs.GeneratedModule.Content
import TypedTag.Proofs.Registry.Conflicts
import TypedTag.Proofs.Naming.Words
import TypedTag.Proofs.Text.Ascii
import TypedTag.Proofs.Naming.Symbol
import TypedTag.Proofs.GeneratedModule.Modes
import TypedTag.Proofs.Json.Reader
import TypedTag.Proofs.Json.Record
import TypedTag.Proofs.Command.Agreement
import TypedTag.Proofs.Outcome
import TypedTag.Proofs.Files.Follow
import TypedTag.Proofs.Files.Write
import TypedTag.Proofs.Command.Output
import TypedTag.Proofs.Files.Path
import TypedTag.Proofs.Files.Walk
import TypedTag.Proofs.Command.Order
import TypedTag.Proofs.Command.Discovery
import TypedTag.Proofs.Gather
import TypedTag.Proofs.Resolver.Contributions
import TypedTag.Proofs.Command.DocumentErrors
import TypedTag.Proofs.GeneratedModule.Scope
import TypedTag.Proofs.Script.Object
import TypedTag.Proofs.GeneratedModule.Lookup
import TypedTag.Proofs.Json.Members
import TypedTag.Proofs.Settings.RoundTrip
import TypedTag.Proofs.Text.LineBreak
import TypedTag.Proofs.Resolver.LineBreaks
import TypedTag.Proofs.Resolver.StoredText
import TypedTag.Proofs.Registry.Permutation
import TypedTag.Proofs.Registry.Compaction
import TypedTag.Proofs.GeneratedModule.Frame
import TypedTag.Proofs.Text.CaseMap
import TypedTag.Proofs.Naming.Splitting
import TypedTag.Proofs.Naming.Underscores
import TypedTag.Proofs.Naming.Recasing
import TypedTag.Proofs.Naming.Collisions
import TypedTag.Proofs.Naming.Spellings
import TypedTag.Proofs.Script.StringLiteral
import TypedTag.Proofs.Settings.Renaming
import TypedTag.Proofs.Naming.Offsets
import TypedTag.Proofs.Naming.Partition
import TypedTag.Proofs.Json.Objects
import TypedTag.Proofs.Json.Overlay
import TypedTag.Proofs.Settings.Overlay
