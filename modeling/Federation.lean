import Federation.Rehearsal.Run
import Federation.Settings.Loading
import Federation.Settings.Stored
import Federation.Plan.Written
import Federation.Json.Reader
import Federation.ErrorCode
import Federation.Proofs.Cleaning
import Federation.Proofs.Blueprint
import Federation.Proofs.Lifecycle
import Federation.Proofs.Building
import Federation.Proofs.Compiling
import Federation.Proofs.Completion
import Federation.Proofs.Simulation
import Federation.Proofs.EndToEnd
import Federation.Proofs.Rendering
import Federation.Proofs.Supply
import Federation.Proofs.Reconfiguring
import Federation.Proofs.Submitting
import Federation.Proofs.Ownership
import Federation.Proofs.Cancellation
import Federation.Proofs.Polling
import Federation.Proofs.Aborting
import Federation.Proofs.LocalWaiting
import Federation.Proofs.Isolation
import Federation.Proofs.Learning
import Federation.Proofs.Scoring
import Federation.Proofs.Secrecy
import Federation.Proofs.ModelSteps
import Federation.Proofs.Observing
import Federation.Proofs.Parties
import Federation.Proofs.Running
import Federation.Proofs.Growth
import Federation.Proofs.Acceptance
import Federation.Proofs.Demand
import Federation.Proofs.Provision
import Federation.Proofs.WrongKind
import Federation.Proofs.Values
import Federation.Proofs.First
import Federation.Proofs.Refusal
import Federation.Proofs.History
import Federation.Proofs.Interruption
import Federation.Proofs.Matching
import Federation.Proofs.Averages
import Federation.Proofs.WeightedMean
import Federation.Proofs.PlanOrder
import Federation.Proofs.Punctuality
import Federation.Proofs.Retention
import Federation.Proofs.Authorization
import Federation.Proofs.Configuration
