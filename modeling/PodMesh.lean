import PodMesh.Address
import PodMesh.AddressKind
import PodMesh.Binary64
import PodMesh.Binary64.Fixed
import PodMesh.Binary64.Reading
import PodMesh.Binary64.Shortest
import PodMesh.Client
import PodMesh.Cluster
import PodMesh.Cluster.Document
import PodMesh.CommandLine.Help
import PodMesh.CommandLine.Matches
import PodMesh.CommandLine.Parameter
import PodMesh.CommandLine.Run
import PodMesh.CommandLine.Settings
import PodMesh.Fault
import PodMesh.Host.Condition
import PodMesh.Host.Effect
import PodMesh.Host.Files
import PodMesh.Host.Format
import PodMesh.Host.Launch
import PodMesh.Host.Machine
import PodMesh.Host.Matching
import PodMesh.Host.Program
import PodMesh.Host.Program.Edit
import PodMesh.Host.Program.Folders
import PodMesh.Host.Program.Lines
import PodMesh.Host.Program.Printing
import PodMesh.Host.Program.Unseen
import PodMesh.Host.Shell.Arithmetic
import PodMesh.Host.Shell.BuiltIn
import PodMesh.Host.Shell.BuiltIn.Names
import PodMesh.Host.Shell.BuiltIn.Printing
import PodMesh.Host.Shell.BuiltIn.Processes
import PodMesh.Host.Shell.BuiltIn.Variables
import PodMesh.Host.Shell.Expansion
import PodMesh.Host.Shell.Glob
import PodMesh.Host.Shell.Reader
import PodMesh.Host.Shell.Redirections
import PodMesh.Host.Shell.Run
import PodMesh.Host.Shell.Script
import PodMesh.Host.Shell.Signals
import PodMesh.Host.Shell.Start
import PodMesh.Host.Shell.State
import PodMesh.Host.Shell.Syntax
import PodMesh.Identity
import PodMesh.Inquiry
import PodMesh.Json.Fault
import PodMesh.Json.Format
import PodMesh.Json.Number
import PodMesh.Json.Record
import PodMesh.Json.Skip
import PodMesh.Json.Text
import PodMesh.Kubectl
import PodMesh.Main
import PodMesh.Matrix
import PodMesh.Matrix.Tally
import PodMesh.Notice
import PodMesh.Pass
import PodMesh.Pattern.Class
import PodMesh.Pattern.Escape
import PodMesh.Pattern.Expression
import PodMesh.Pattern.Footprint
import PodMesh.Pattern.Notation
import PodMesh.Pattern.Property
import PodMesh.Pattern.Reading
import PodMesh.Peer
import PodMesh.Pod
import PodMesh.Probe
import PodMesh.Probe.Job
import PodMesh.Prober
import PodMesh.Proofs.Address
import PodMesh.Proofs.Cells
import PodMesh.Proofs.Chart
import PodMesh.Proofs.Client
import PodMesh.Proofs.Cluster.Document
import PodMesh.Proofs.Cluster.Editing
import PodMesh.Proofs.Cluster.Exclusion
import PodMesh.Proofs.Cluster.Lookup
import PodMesh.Proofs.Cluster.Printed
import PodMesh.Proofs.Cluster.Product
import PodMesh.Proofs.Cluster.Undoing
import PodMesh.Proofs.CommandLine.Check
import PodMesh.Proofs.Comparison
import PodMesh.Proofs.Exclusion
import PodMesh.Proofs.Grid
import PodMesh.Proofs.History
import PodMesh.Proofs.Json.Format
import PodMesh.Proofs.Json.Record
import PodMesh.Proofs.Json.Text
import PodMesh.Proofs.Kubectl
import PodMesh.Proofs.Matrix
import PodMesh.Proofs.Numerals
import PodMesh.Proofs.Partition
import PodMesh.Proofs.Pass.Account
import PodMesh.Proofs.Pass.Completion
import PodMesh.Proofs.Pass.Conservation
import PodMesh.Proofs.Pass.Ending
import PodMesh.Proofs.Pass.Exactness
import PodMesh.Proofs.Pass.Independence
import PodMesh.Proofs.Pass.Jobs
import PodMesh.Proofs.Pass.Journal
import PodMesh.Proofs.Pass.Laps
import PodMesh.Proofs.Pass.Losses
import PodMesh.Proofs.Pass.Progress
import PodMesh.Proofs.Pass.Remarks
import PodMesh.Proofs.Pass.Reporting
import PodMesh.Proofs.Pass.Run
import PodMesh.Proofs.Pass.Schedules
import PodMesh.Proofs.Pass.Settling
import PodMesh.Proofs.Pass.Whole
import PodMesh.Proofs.Rates
import PodMesh.Proofs.Readiness.Asked
import PodMesh.Proofs.Readiness.Trials
import PodMesh.Proofs.Readiness.Waiting
import PodMesh.Proofs.Recording
import PodMesh.Proofs.Report
import PodMesh.Proofs.Reproduction
import PodMesh.Proofs.Rulings
import PodMesh.Proofs.Served
import PodMesh.Proofs.ServiceAddress
import PodMesh.Proofs.ServiceNames
import PodMesh.Proofs.Tally
import PodMesh.Proofs.Text.Lines
import PodMesh.Proofs.Text.Separated
import PodMesh.Proofs.Text.Utf8
import PodMesh.Proofs.Validation
import PodMesh.Proofs.Word
import PodMesh.Protocol
import PodMesh.Rate
import PodMesh.Readiness
import PodMesh.Rehearsal
import PodMesh.Table
import PodMesh.Table.Grid
import PodMesh.Text.Age
import PodMesh.Text.Blank
import PodMesh.Text.Break
import PodMesh.Text.Case
import PodMesh.Text.Category
import PodMesh.Text.Category.Table
import PodMesh.Text.CharSet
import PodMesh.Text.Line
import PodMesh.Text.Octets
import PodMesh.Text.Property
import PodMesh.Text.Property.Listed
import PodMesh.Text.Quoted
import PodMesh.Text.Script
import PodMesh.Text.Script.Shared
import PodMesh.Text.Utf8
import PodMesh.Text.Utf8.Ranges
import PodMesh.Validation
import PodMesh.Word
