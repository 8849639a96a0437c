import Easel.Direct
import Easel.Document.Snapshot
import Easel.Main
import Easel.Proofs.Assistant
import Easel.Proofs.Channel.Reference
import Easel.Proofs.Execution.Atomicity
import Easel.Proofs.Execution.Composition
import Easel.Proofs.Execution.Listing
import Easel.Proofs.Lookup.Pieces
import Easel.Proofs.Prompt
import Easel.Proofs.RateLimit
import Easel.Proofs.Service.Acknowledgement
import Easel.Provider
import Easel.Proofs.Execution.Drawing
import Easel.Proofs.Validation
import Easel.Proofs.Execution.Safety
import Easel.Proofs.Entrances
import Easel.Proofs.Number
import Easel.Proofs.Warnings
import Easel.Proofs.Execution.Geometry
import Easel.Proofs.Execution.Memory
import Easel.Proofs.Execution.Declared
import Easel.Proofs.Admission
import Easel.Proofs.Service.Pending
import Easel.Proofs.Reply.Shapes
import Easel.Proofs.Execution.Regrouping
import Easel.Proofs.Execution.Creation
import Easel.Proofs.Execution.Deletion
import Easel.Proofs.Execution.Ordering
import Easel.Proofs.Execution.Restyling
import Easel.Proofs.Execution.Ungrouping
import Easel.Proofs.Compiler
import Easel.Proofs.Number.Brief
import Easel.Proofs.Document.Outline
import Easel.Proofs.Execution.Outlining
import Easel.Proofs.Golden
import Easel.Proofs.Execution.Cloning
import Easel.Proofs.Execution.Notifications
import Easel.Proofs.Execution.Counts
import Easel.Proofs.Console.Arguments
import Easel.Proofs.Console.Messages
