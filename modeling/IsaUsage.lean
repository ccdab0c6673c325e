import IsaUsage.CommandLine.Execution
import IsaUsage.Main
import IsaUsage.Proofs.File.Operation
import IsaUsage.Proofs.Kernel.Division
import IsaUsage.Proofs.Run.Isolation
import IsaUsage.Proofs.Run.Leftovers
import IsaUsage.Proofs.Toolchain.Freshness
import IsaUsage.Tool.Script
import IsaUsage.Proofs.Run.Call
import IsaUsage.Proofs.Usage.Total
import IsaUsage.Proofs.File.Confinement
import IsaUsage.Proofs.Run.Composition
import IsaUsage.Proofs.Run.Confinement
import IsaUsage.Proofs.CommandLine.Splitter
import IsaUsage.Proofs.CommandLine.Survival
import IsaUsage.Proofs.Run.Printing
import IsaUsage.Proofs.CommandLine.Presentation
import IsaUsage.Proofs.Run.Outcome
import IsaUsage.Proofs.Kernel.Occurrence
import IsaUsage.Proofs.Usage.Json
import IsaUsage.Proofs.CommandLine.Analyzer
import IsaUsage.Proofs.CommandLine.Artifact
import IsaUsage.Proofs.Report.Analysis
import IsaUsage.Proofs.Kernel.Recognition
import IsaUsage.Proofs.Kernel.Artifact
import IsaUsage.Proofs.Kernel.LineEnding
import IsaUsage.Proofs.Run.Total
import IsaUsage.Proofs.Toolchain.Failure
import IsaUsage.Proofs.Run.Abort
import IsaUsage.Proofs.Run.Command
import IsaUsage.Proofs.Toolchain.Filename
import IsaUsage.Proofs.Tool.Executable
import IsaUsage.Proofs.Summary.Text
import IsaUsage.Proofs.Report.Concatenation
import IsaUsage.Proofs.Run.Overwriting
