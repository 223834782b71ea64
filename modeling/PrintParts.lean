import PrintParts.FileTree
import PrintParts.Job.Form
import PrintParts.Main
import PrintParts.Proofs.Document.Compression
import PrintParts.Proofs.Document.Ended
import PrintParts.Proofs.Document.Height
import PrintParts.Proofs.Document.Limit
import PrintParts.Proofs.Document.Schedule
import PrintParts.Proofs.Document.Warnings
import PrintParts.Proofs.Job.Fidelity
import PrintParts.Proofs.Job.Priming
import PrintParts.Proofs.Job.Stopped
import PrintParts.Proofs.Machine.Concerns
import PrintParts.Proofs.Machine.Filament
import PrintParts.Proofs.Number.PlainDecimal
import PrintParts.Proofs.Plan.Failing
import PrintParts.Proofs.Plan.Partition
import PrintParts.Proofs.Recording.Least
import PrintParts.Proofs.Recording.LineEnds
import PrintParts.Proofs.Recording.Malformed
import PrintParts.Proofs.Recording.Overrides
import PrintParts.Proofs.Recording.Refusal
import PrintParts.Proofs.Recording.Restart
import PrintParts.Proofs.Recording.Spelling
import PrintParts.Proofs.Recording.Traces
import PrintParts.Proofs.Scaffold.Approach
import PrintParts.Proofs.Scaffold.Homing
import PrintParts.Proofs.Scaffold.PlainLines
import PrintParts.Proofs.Scaffold.Restoration
import PrintParts.Proofs.Scaffold.Resumable
import PrintParts.Proofs.Scaffold.Temperature
import PrintParts.Proofs.Scaffold.WellFormed
import PrintParts.Proofs.Storage.Profiles
