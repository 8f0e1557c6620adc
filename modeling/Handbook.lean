import Handbook.Classifier
import Handbook.Command.Basic
import Handbook.Command.Dispatch
import Handbook.Command.Display
import Handbook.Command.Registry
import Handbook.Command.Stock
import Handbook.Decimal.Shortest
import Handbook.Decimal.Whole
import Handbook.Demo
import Handbook.Descriptor.Basic
import Handbook.Descriptor.Table
import Handbook.Error
import Handbook.Fault.Basic
import Handbook.Fault.Drawing
import Handbook.Host
import Handbook.Index
import Handbook.Journal
import Handbook.Layout.Entry
import Handbook.Layout.Highlight
import Handbook.Layout.Line
import Handbook.Layout.LineBreak
import Handbook.Layout.Outline
import Handbook.Layout.Panel
import Handbook.Layout.StyledText
import Handbook.Parameter
import Handbook.Renaming
import Handbook.Report
import Handbook.Sheet.Basic
import Handbook.Sheet.Layout
import Handbook.Sheet.Outline
import Handbook.Similarity
import Handbook.Slot.Basic
import Handbook.Slot.Runs
import Handbook.Text.Basic
import Handbook.Text.Blank
import Handbook.Text.CaseTable
import Handbook.Text.CellWidth
import Handbook.Text.Cluster
import Handbook.Text.Column
import Handbook.Text.Pattern
import Handbook.Text.Printable
import Handbook.Text.Quoted
import Handbook.Text.TitleCase
import Handbook.Text.WordCharacter
import Handbook.Value.Basic
import Handbook.Value.Column
import Handbook.Value.Construction
import Handbook.Value.Equality
import Handbook.Value.Exchanged
import Handbook.Value.Snapshot
import Handbook.Value.Union
import Handbook.Value.Written
import Handbook.Main
import Handbook.Decimal.Nearest
import Handbook.Value.Sum
import Handbook.Proofs.Slot.Merged
import Handbook.Proofs.Slot.Collapse
import Handbook.Proofs.Slot.Draws
import Handbook.Proofs.Slot.Built
import Handbook.Proofs.Slot.Positions
import Handbook.Proofs.Checks
import Handbook.Proofs.Descriptor.Built
import Handbook.Proofs.Text.Blank
import Handbook.Proofs.Text.Words
import Handbook.Proofs.Classification
import Handbook.Proofs.Sheet.Parameters
import Handbook.Proofs.Sheet.Positions
import Handbook.Proofs.Sheet.Page
import Handbook.Proofs.Descriptor.FormatName
import Handbook.Proofs.Sheet.Order
import Handbook.Proofs.Text.Column
import Handbook.Proofs.Sheet.Rebuilding
import Handbook.Proofs.Descriptor.DeclaredNames
import Handbook.Proofs.Sheet.Totality
import Handbook.Proofs.Slot.Refusal
import Handbook.Proofs.Command.Names
import Handbook.Proofs.Command.Order
import Handbook.Proofs.Command.Help
import Handbook.Proofs.Command.Routing
import Handbook.Proofs.Sheet.WellFormed
import Handbook.Proofs.Sheet.Sections
import Handbook.Proofs.Sheet.Readback
import Handbook.Proofs.Sheet.Widths
import Handbook.Proofs.Sheet.Toggles
import Handbook.Proofs.Command.HelpToggle
import Handbook.Proofs.Text.Fewest
import Handbook.Proofs.Offers
import Handbook.Proofs.Slot.Readings
import Handbook.Proofs.Descriptor.Calls
import Handbook.Proofs.Sheet.Records
import Handbook.Proofs.Sheet.Insertion
import Handbook.Proofs.Sheet.Sorting
import Handbook.Proofs.Sheet.Groups
import Handbook.Proofs.Sheet.Fragments
import Handbook.Proofs.Descriptor.NamePairs
import Handbook.Proofs.Sheet.FailedRenewal
import Handbook.Proofs.Sheet.NamedOrder
import Handbook.Proofs.Slot.RefusedRuns
import Handbook.Proofs.Similarity.Blocks
import Handbook.Proofs.Similarity.Closest
import Handbook.Proofs.Command.Suggestion
import Handbook.Proofs.Command.HelpRequests
import Handbook.Proofs.Value.Parts
import Handbook.Proofs.Value.Snapshot
import Handbook.Proofs.Fault.Characters
import Handbook.Proofs.Layout.Unstyled
import Handbook.Proofs.Layout.Tame
import Handbook.Proofs.Layout.TamePages
import Handbook.Proofs.Fault.Colors
import Handbook.Proofs.Fault.Entries
import Handbook.Proofs.Fault.Options
import Handbook.Proofs.Journal
import Handbook.Proofs.Slot.DrawnNames
import Handbook.Proofs.Fault.Surfacing
import Handbook.Proofs.Fault.Replacement
