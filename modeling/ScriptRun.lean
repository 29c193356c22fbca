import ScriptRun.Main
import ScriptRun.CommandLine.Program
import ScriptRun.Status.EventData
import ScriptRun.Failure
import ScriptRun.Inspect.Inspector
import ScriptRun.Gps.Control
import ScriptRun.Run.Journal
import ScriptRun.Run.Runner
import ScriptRun.Settings.Load
import ScriptRun.Yaml.Load
import ScriptRun.Settings.Tool
import ScriptRun.Device.Catalog
import ScriptRun.Port.Search
import ScriptRun.Port.Waiting
import ScriptRun.Child
import ScriptRun.Run.Arguments
import ScriptRun.Run.Log
import ScriptRun.Status.EventFile
import ScriptRun.Files.Memory
import ScriptRun.Files.Tree
import ScriptRun.Time.Clock
import ScriptRun.Status.Bus
import ScriptRun.Status.Engine
import ScriptRun.Script.Document
import ScriptRun.Script.MockLocation
import ScriptRun.Status.Classification
import ScriptRun.Status.Noise
import ScriptRun.Json.Printer
import ScriptRun.Json.Reader
import ScriptRun.Decimal.Layout
import ScriptRun.Decimal.Reading
import ScriptRun.Text.LineBuffer
import ScriptRun.Text.Sanitized
import ScriptRun.Proofs.Script.Editing
import ScriptRun.Proofs.Status.Delivery
import ScriptRun.Proofs.Status.Snapshots
import ScriptRun.Proofs.Run.Attempts
import ScriptRun.Proofs.Run.Logging
import ScriptRun.Proofs.Status.Sequence
import ScriptRun.Proofs.Status.Appending
import ScriptRun.Proofs.Inspect.Lifetimes
import ScriptRun.Proofs.Status.Interruption
import ScriptRun.Proofs.Status.Grammar
import ScriptRun.Proofs.Status.Calls
import ScriptRun.Proofs.Status.Decoration
import ScriptRun.Proofs.Status.Reading
import ScriptRun.Proofs.Status.Safety
import ScriptRun.Proofs.Status.Handles
import ScriptRun.Proofs.Status.Publishing
import ScriptRun.Proofs.Text.Sanitizing
import ScriptRun.Proofs.Status.Opening
import ScriptRun.Proofs.Run.Entries
import ScriptRun.Proofs.Run.Recent
import ScriptRun.Proofs.Script.LineEnds
import ScriptRun.Proofs.Yaml.Fetching
import ScriptRun.Proofs.Yaml.Tokens
import ScriptRun.Proofs.Yaml.Escapes
import ScriptRun.Proofs.Yaml.Composition
import ScriptRun.Proofs.Yaml.Construction
import ScriptRun.Proofs.Files.Pieces
import ScriptRun.Proofs.Settings.Loading
import ScriptRun.Proofs.Port.Search
import ScriptRun.Proofs.Port.Deadline
import ScriptRun.Proofs.Settings.Precedence
import ScriptRun.Proofs.Run.FailedStarts
import ScriptRun.Proofs.CommandLine.FlagOrder
import ScriptRun.Proofs.Gps.ControlFile
import ScriptRun.Proofs.Device.Selection
import ScriptRun.Proofs.Script.ListItems
import ScriptRun.Proofs.Text.BoundedTail
import ScriptRun.Proofs.CommandLine.PortFailures
import ScriptRun.Proofs.Files.Agreement
