import InstructionSheet.CommandLine
import InstructionSheet.Csv.Atom
import InstructionSheet.Csv.Encode
import InstructionSheet.Csv.Reader
import InstructionSheet.Csv.Record
import InstructionSheet.Entry
import InstructionSheet.Files.Path
import InstructionSheet.Files.Tree
import InstructionSheet.Log.Directive
import InstructionSheet.Log.Event
import InstructionSheet.Log.Filter
import InstructionSheet.Log.Pattern.Basic
import InstructionSheet.Log.Pattern.Bracket
import InstructionSheet.Log.Pattern.Escape
import InstructionSheet.Main
import InstructionSheet.Output.Fault
import InstructionSheet.Output.Job
import InstructionSheet.Output.Sink
import InstructionSheet.Output.Writer
import InstructionSheet.Proofs.Csv.Columns
import InstructionSheet.Proofs.Csv.Pairs
import InstructionSheet.Proofs.Csv.PhysicalLines
import InstructionSheet.Proofs.Csv.Rendering
import InstructionSheet.Proofs.Csv.RoundTrip
import InstructionSheet.Proofs.Csv.Scan
import InstructionSheet.Proofs.Csv.Spelling
import InstructionSheet.Proofs.Csv.Torn
import InstructionSheet.Proofs.Entry.Line
import InstructionSheet.Proofs.Files.Growth
import InstructionSheet.Proofs.Files.Opening
import InstructionSheet.Proofs.Log.Deciding
import InstructionSheet.Proofs.Log.Setting
import InstructionSheet.Proofs.Log.Visibility
import InstructionSheet.Proofs.Output.Delivery
import InstructionSheet.Proofs.Output.Export
import InstructionSheet.Proofs.Output.Marks
import InstructionSheet.Proofs.Output.Outcome
import InstructionSheet.Proofs.Output.Taking
import InstructionSheet.Proofs.Sheet.Commuting
import InstructionSheet.Proofs.Sheet.Frame
import InstructionSheet.Proofs.Sheet.History
import InstructionSheet.Proofs.Sheet.Legible
import InstructionSheet.Proofs.Sheet.LineEnds
import InstructionSheet.Proofs.Sheet.Merging
import InstructionSheet.Proofs.Sheet.Padding
import InstructionSheet.Proofs.Sheet.Replacements
import InstructionSheet.Proofs.Sheet.Slots
import InstructionSheet.Proofs.Text.Characters
import InstructionSheet.Proofs.Text.Lines
import InstructionSheet.Proofs.Text.Utf8
import InstructionSheet.Proofs.Workspace.Agreement
import InstructionSheet.Proofs.Workspace.Exports
import InstructionSheet.Proofs.Workspace.Openings
import InstructionSheet.Proofs.Workspace.Sheets
import InstructionSheet.Proofs.Workspace.Trees
import InstructionSheet.Sheet.Basic
import InstructionSheet.Sheet.Mos6502
import InstructionSheet.Text.Alphanumeric
import InstructionSheet.Text.Blank
import InstructionSheet.Text.Bytes
import InstructionSheet.Text.Pieces
import InstructionSheet.Text.Ranges
import InstructionSheet.Text.Stop
import InstructionSheet.Workspace
