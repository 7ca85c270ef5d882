import BuildConductor.Build
import BuildConductor.BuildError
import BuildConductor.BuildType
import BuildConductor.Command.Basic
import BuildConductor.CommandLine.Basic
import BuildConductor.CommandLine.Reader
import BuildConductor.ConfigFile
import BuildConductor.Console
import BuildConductor.Decimal.Binary64
import BuildConductor.Decimal.Layout
import BuildConductor.Decimal.Numeral
import BuildConductor.Decimal.Shortest
import BuildConductor.Diagnostic
import BuildConductor.Disk.Basic
import BuildConductor.Disk.Operations
import BuildConductor.Disk.Resolve
import BuildConductor.Document.Basic
import BuildConductor.Document.Reader
import BuildConductor.Document.Writer
import BuildConductor.Failure
import BuildConductor.Interview
import BuildConductor.Json.Fault
import BuildConductor.Json.Lexeme
import BuildConductor.Json.Printer
import BuildConductor.Json.Reader
import BuildConductor.Json.Skip
import BuildConductor.Json.Value
import BuildConductor.KeyMap
import BuildConductor.Main
import BuildConductor.Overview
import BuildConductor.Path
import BuildConductor.Pipeline
import BuildConductor.Plan
import BuildConductor.Platform
import BuildConductor.Preset
import BuildConductor.PresetFiles
import BuildConductor.Program.Basic
import BuildConductor.Program.Build
import BuildConductor.Program.Config
import BuildConductor.Prompt
import BuildConductor.Proofs.Build
import BuildConductor.Proofs.BuildDirectory
import BuildConductor.Proofs.Clean
import BuildConductor.Proofs.Clearance
import BuildConductor.Proofs.Command
import BuildConductor.Proofs.ConfigFile
import BuildConductor.Proofs.ConfigFile.Saving
import BuildConductor.Proofs.Conversation
import BuildConductor.Proofs.Decimal.Digits
import BuildConductor.Proofs.Decimal.ReadBack
import BuildConductor.Proofs.Disk.Content
import BuildConductor.Proofs.Disk.Creation
import BuildConductor.Proofs.Disk.Frame
import BuildConductor.Proofs.Disk.Route
import BuildConductor.Proofs.Disk.Writing
import BuildConductor.Proofs.Document.Fields
import BuildConductor.Proofs.Document.Order
import BuildConductor.Proofs.Document.Saved
import BuildConductor.Proofs.Document.Schema
import BuildConductor.Proofs.Document.Switches
import BuildConductor.Proofs.Document.Truth
import BuildConductor.Proofs.Interview
import BuildConductor.Proofs.Interview.Answers
import BuildConductor.Proofs.Interview.Directory
import BuildConductor.Proofs.Interview.Saving
import BuildConductor.Proofs.Json.Brackets
import BuildConductor.Proofs.Json.Decoding
import BuildConductor.Proofs.Json.Lexeme
import BuildConductor.Proofs.Json.Order
import BuildConductor.Proofs.Json.Place
import BuildConductor.Proofs.Json.Printing
import BuildConductor.Proofs.Json.Reading
import BuildConductor.Proofs.Json.Reordering
import BuildConductor.Proofs.Json.Skipping
import BuildConductor.Proofs.Json.Spelling
import BuildConductor.Proofs.Json.Syntax
import BuildConductor.Proofs.Json.Value
import BuildConductor.Proofs.LiveOutput
import BuildConductor.Proofs.OutputFlags
import BuildConductor.Proofs.Overview
import BuildConductor.Proofs.Path
import BuildConductor.Proofs.Pipeline
import BuildConductor.Proofs.Plan.Agreement
import BuildConductor.Proofs.Plan.BuildType
import BuildConductor.Proofs.Plan.Definitions
import BuildConductor.Proofs.Plan.Heed
import BuildConductor.Proofs.Plan.Operands
import BuildConductor.Proofs.Plan.Repetition
import BuildConductor.Proofs.Plan.TestGate
import BuildConductor.Proofs.Platform
import BuildConductor.Proofs.Preparation
import BuildConductor.Proofs.Preset
import BuildConductor.Proofs.PresetFiles
import BuildConductor.Proofs.Program.Build
import BuildConductor.Proofs.Prompt
import BuildConductor.Proofs.Recording
import BuildConductor.Proofs.Rehearsal
import BuildConductor.Proofs.Submodule
import BuildConductor.Proofs.Submodule.Notice
import BuildConductor.Proofs.Submodule.Status
import BuildConductor.Proofs.Text.Case
import BuildConductor.Proofs.Text.Encoding
import BuildConductor.Proofs.Text.Lines
import BuildConductor.Proofs.Text.Runs
import BuildConductor.Proofs.Text.Utf8
import BuildConductor.Proofs.Text.Words
import BuildConductor.Proofs.Trace
import BuildConductor.Rehearsal.Basic
import BuildConductor.Rehearsal.Project
import BuildConductor.Rehearsal.Toolbox
import BuildConductor.Submodule
import BuildConductor.Task
import BuildConductor.Text.Blank
import BuildConductor.Text.Case
import BuildConductor.Text.CaseTable
import BuildConductor.Text.Lines
import BuildConductor.Text.Quoted
import BuildConductor.Text.Terminal
import BuildConductor.Text.Utf8
import BuildConductor.Text.VisibleTable
