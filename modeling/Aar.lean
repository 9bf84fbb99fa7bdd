import Aar.Proofs.Acceptances
import Aar.Proofs.BrokerBudget
import Aar.Proofs.Driver
import Aar.Proofs.Evidence
import Aar.Proofs.Fences
import Aar.Proofs.Finality
import Aar.Proofs.Jobs
import Aar.Proofs.Logs
import Aar.Proofs.ModelResults
import Aar.Proofs.Patterns
import Aar.Proofs.PublicJobs
import Aar.Proofs.Resubmissions
import Aar.Proofs.RoutedCalls
import Aar.Proofs.Sessions
import Aar.Proofs.Suspensions
import Aar.Proofs.Wakeups
import Aar.Proofs.WorkerLines
import Aar.Proofs.WorkerRecovery
import Aar.Proofs.EventPages
import Aar.Proofs.Tenants
import Aar.Proofs.Successors
import Aar.Proofs.Schemas
import Aar.Proofs.Bridges
import Aar.Proofs.WorkerLaw
import Aar.Proofs.ContractLoading
import Aar.Proofs.PrivateFrames
import Aar.Proofs.QuotaRuns
import Aar.Proofs.Inspections
import Aar.Proofs.AssetRuns
import Aar.Proofs.RlmReplay
import Aar.Proofs.Orphans
