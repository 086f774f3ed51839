import Lifeline.CallGraph
import Lifeline.CallPath
import Lifeline.Command.Arguments
import Lifeline.Command.Basic
import Lifeline.Command.Run
import Lifeline.Diagram.Basic
import Lifeline.Diagram.Draw
import Lifeline.Diagram.Format
import Lifeline.Diagram.Mermaid
import Lifeline.Diagram.PlantUml
import Lifeline.Distinct
import Lifeline.Dump
import Lifeline.EntryPoint
import Lifeline.Fault
import Lifeline.Files.Basic
import Lifeline.Files.Glob
import Lifeline.Files.Ignore
import Lifeline.Files.Volume
import Lifeline.Files.Walk
import Lifeline.Filter
import Lifeline.Fragment
import Lifeline.Frame
import Lifeline.Interaction.Basic
import Lifeline.Interaction.Chain
import Lifeline.Json.Basic
import Lifeline.Json.Number
import Lifeline.Json.Printer
import Lifeline.Json.Reader
import Lifeline.Json.Record
import Lifeline.Layout
import Lifeline.Main
import Lifeline.Message
import Lifeline.Naming
import Lifeline.Participant
import Lifeline.Path
import Lifeline.Pattern.Basic
import Lifeline.Pattern.Form
import Lifeline.Pattern.Meaning
import Lifeline.Pattern.Reader
import Lifeline.Pattern.Size
import Lifeline.Program.Basic
import Lifeline.Program.Callees
import Lifeline.Proofs.Admission
import Lifeline.Proofs.Agreement
import Lifeline.Proofs.Bodies
import Lifeline.Proofs.CallTree
import Lifeline.Proofs.ContextTree
import Lifeline.Proofs.Drawing
import Lifeline.Proofs.Exclusion
import Lifeline.Proofs.History
import Lifeline.Proofs.Interaction
import Lifeline.Proofs.Interning
import Lifeline.Proofs.Judgement
import Lifeline.Proofs.Depiction
import Lifeline.Proofs.Law.Basic
import Lifeline.Proofs.Law.Block
import Lifeline.Proofs.Law.Calls
import Lifeline.Proofs.Law.Dispatch
import Lifeline.Proofs.Law.Run
import Lifeline.Proofs.Law.Visit
import Lifeline.Proofs.Mention
import Lifeline.Proofs.Nesting
import Lifeline.Proofs.Noninterference
import Lifeline.Proofs.Origin
import Lifeline.Proofs.Pairing.Basic
import Lifeline.Proofs.Pairing.Calls
import Lifeline.Proofs.Pairing.Lockstep
import Lifeline.Proofs.Pairing.Run
import Lifeline.Proofs.Pairing.Visit
import Lifeline.Proofs.Portrait
import Lifeline.Proofs.Provenance
import Lifeline.Proofs.Representation
import Lifeline.Proofs.Request
import Lifeline.Proofs.Resolution
import Lifeline.Proofs.Resumption
import Lifeline.Proofs.Probing
import Lifeline.Proofs.Roster
import Lifeline.Proofs.WellFormed
import Lifeline.Resolution
import Lifeline.Roster
import Lifeline.Scopes
import Lifeline.Settings.Basic
import Lifeline.Settings.Encoding
import Lifeline.Settings.Text
import Lifeline.Sha256
import Lifeline.Source.Code
import Lifeline.Source.Decl
import Lifeline.Source.Encoding
import Lifeline.Source.Location
import Lifeline.Text.Double
import Lifeline.Text.Hex
import Lifeline.Text.Invisible
import Lifeline.Text.Lines
import Lifeline.Text.Quoted
import Lifeline.Text.Reader
import Lifeline.Text.Search
import Lifeline.Text.White
import Lifeline.Toml.Printer
import Lifeline.Toml.Reader
import Lifeline.Toml.Scalar
import Lifeline.Toml.Table
import Lifeline.Trace.Basic
import Lifeline.Trace.Dispatch
import Lifeline.Trace.Run
import Lifeline.Trace.Visit
import Lifeline.Unicode.Age
import Lifeline.Unicode.CaseFolding
import Lifeline.Unicode.Category
import Lifeline.Unicode.CharSet
import Lifeline.Unicode.Lookup
import Lifeline.Unicode.Property
import Lifeline.Unicode.Script
import Lifeline.Unicode.ScriptExtension
import Lifeline.Unicode.Segment
import Lifeline.Proofs.Brackets
import Lifeline.Proofs.Isolation
import Lifeline.Proofs.Inlining
import Lifeline.Proofs.Decoration
import Lifeline.Proofs.DeadCode
import Lifeline.Proofs.Elision
import Lifeline.Proofs.Grounding
import Lifeline.Proofs.Deepening
import Lifeline.Proofs.Cutting
import Lifeline.Proofs.DepthBound
import Lifeline.Proofs.Reachability
import Lifeline.Proofs.Callers
import Lifeline.Proofs.Reading
import Lifeline.Proofs.RoundTrip
import Lifeline.Proofs.Assembly
import Lifeline.Proofs.Aliases
import Lifeline.Proofs.Asides
import Lifeline.Proofs.Coverage
import Lifeline.Proofs.Fragments
import Lifeline.Proofs.Guards
import Lifeline.Proofs.LexicalScopes
import Lifeline.Proofs.LineStructure
import Lifeline.Proofs.Lineage
import Lifeline.Proofs.Worklist
import Lifeline.Proofs.EntryPoints
import Lifeline.Proofs.Parameters
import Lifeline.Proofs.Names
import Lifeline.Proofs.Apart
import Lifeline.Proofs.Selection
import Lifeline.Proofs.Trails
import Lifeline.Proofs.Appearance
import Lifeline.Proofs.ScopeChains
import Lifeline.Proofs.Merging
import Lifeline.Proofs.Looking
import Lifeline.Proofs.Loading
import Lifeline.Proofs.Toml.Strings
import Lifeline.Proofs.Toml.Lines
import Lifeline.Proofs.Toml.Documents
import Lifeline.Proofs.SettingsFiles
import Lifeline.Proofs.Selectors
import Lifeline.Proofs.Starts
import Lifeline.Proofs.Growth
import Lifeline.Proofs.Walker
import Lifeline.Proofs.Restoration
import Lifeline.Proofs.Traversal
import Lifeline.Proofs.Indexes
