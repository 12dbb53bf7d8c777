import Retirement.Main
import Retirement.Proofs.Lane.Optimality
import Retirement.Proofs.Lane.RunningCount
import Retirement.Proofs.Targets
import Retirement.Proofs.Continuation
import Retirement.Proofs.Dependency.Order
import Retirement.Proofs.Dependency.Tracking
import Retirement.Proofs.Dependency.Renumbering
import Retirement.Proofs.IdleRows
import Retirement.Proofs.Task.Reports
import Retirement.Proofs.Instruction.LineBreaks
import Retirement.Proofs.Separation
import Retirement.Proofs.ProgramOrder
import Retirement.Proofs.Instruction.Partition
import Retirement.Proofs.Instruction.Printing
import Retirement.Proofs.Json.Layout
import Retirement.Proofs.Json.Numbers
import Retirement.Proofs.Json.Strings
import Retirement.Proofs.Json.Passing
import Retirement.Proofs.Json.Values
import Retirement.Proofs.Trace.Spelling
import Retirement.Proofs.Trace.Fields
import Retirement.Proofs.Trace.Rows
import Retirement.Proofs.Json.Items
import Retirement.Proofs.Trace.Loading
import Retirement.Proofs.Json.Printing
import Retirement.Trace.Writer
import Retirement.Proofs.Trace.RoundTrip
import Retirement.Proofs.Lane.Phases
import Retirement.Proofs.Statistics
import Retirement.Proofs.Instruction.Issues
import Retirement.Proofs.Instruction.Layout
import Retirement.Proofs.Instruction.FirstFault
import Retirement.Proofs.Instruction.LoadAddress
import Retirement.Proofs.Instruction.Words
import Retirement.Proofs.Instruction.Joining
import Retirement.Proofs.Instruction.Parentheses
import Retirement.Proofs.Instruction.ViablePrefix
import Retirement.Proofs.Lane.Rescaling
import Retirement.Proofs.Rescaling
import Retirement.Proofs.Task.Locations
import Retirement.Proofs.Json.Texts
import Retirement.Proofs.Json.Documents
import Retirement.Proofs.RenderContract.Decoding
import Retirement.Proofs.Addresses
import Retirement.Proofs.RenderContract.Documents
import Retirement.Proofs.RenderContract.Lossless
import Retirement.Proofs.Command.ExitCodes
import Retirement.Proofs.Options
import Retirement.Proofs.RenderContract.OrderCheck
import Retirement.Proofs.Task.Registers
import Retirement.Proofs.Text.Lines
import Retirement.Proofs.Command.EdgeListing
import Retirement.Proofs.Command.TaskListing
import Retirement.Proofs.Lane.Filling
import Retirement.Proofs.Prerequisites
import Retirement.Proofs.Report
import Retirement.Proofs.Text.Address
import Retirement.Proofs.Text.Trimming
import Retirement.Proofs.Trace.AddressSpelling
