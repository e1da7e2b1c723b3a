import SignalBoard.Main
import SignalBoard.Flow.Method
import SignalBoard.Flow.Program
import SignalBoard.Flow.Source
import SignalBoard.Proofs.Store.Answer
import SignalBoard.Proofs.Store.Fresh
import SignalBoard.Proofs.Store.Creation
import SignalBoard.Proofs.Reconcile.Charts
import SignalBoard.Proofs.Store.Consistent
import SignalBoard.Proofs.Reconcile.Dashboard
import SignalBoard.Proofs.Reconcile.Converge
import SignalBoard.Proofs.Reconcile.Again
import SignalBoard.Proofs.Reconcile.Careful
import SignalBoard.Proofs.Flow.Plain
import SignalBoard.Proofs.Flow.Reader
import SignalBoard.Proofs.Flow.Readable
import SignalBoard.Proofs.Flow.Unique
import SignalBoard.Proofs.Flow.Labels
import SignalBoard.Proofs.Flow.Holes
import SignalBoard.Proofs.Flow.Literals
import SignalBoard.Proofs.Detector.Window
import SignalBoard.Proofs.Json.Rename
import SignalBoard.Proofs.DryRun.Renaming
import SignalBoard.Proofs.DryRun.Predict
import SignalBoard.Proofs.Group.Reach
import SignalBoard.Proofs.Group.Cautious
import SignalBoard.Proofs.Group.Stable
import SignalBoard.Proofs.Plan.Partial
import SignalBoard.Proofs.Plan.Trace
import SignalBoard.Proofs.Plan.Within
import SignalBoard.Proofs.Reconcile.Renewal
import SignalBoard.Proofs.Reconcile.Resume
import SignalBoard.Proofs.Group.Atomic
import SignalBoard.Proofs.Reconcile.Names
import SignalBoard.Proofs.DryRun.Blind
import SignalBoard.Proofs.Reconcile.Definitions
import SignalBoard.Proofs.Integrity.Run
import SignalBoard.Proofs.Integrity.Usable
import SignalBoard.Proofs.Reconcile.Valid
import SignalBoard.Proofs.Reconcile.Guard
import SignalBoard.Proofs.Reconcile.Resolve
import SignalBoard.Proofs.DryRun.Inert
import SignalBoard.Proofs.Plan.Relying
import SignalBoard.Proofs.Store.Replies
import SignalBoard.Proofs.Reconcile.Addressing
import SignalBoard.Proofs.Group.Retained
import SignalBoard.Proofs.Group.Settings
import SignalBoard.Proofs.Json.References
import SignalBoard.Proofs.Store.Exchange
import SignalBoard.Proofs.Reconcile.Settled
import SignalBoard.Proofs.Reconcile.Twin
import SignalBoard.Proofs.Reconcile.Commute
import SignalBoard.Proofs.Reconcile.Written
import SignalBoard.Proofs.Dashboard.Filters
import SignalBoard.Proofs.Detector.Labels
import SignalBoard.Proofs.Reconcile.Placement
import SignalBoard.Proofs.Document.Chart
import SignalBoard.Proofs.Detector.Email
import SignalBoard.Proofs.Store.History
import SignalBoard.Proofs.Reconcile.Undone
import SignalBoard.Proofs.Reconcile.Assigning
