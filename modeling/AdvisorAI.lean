import AdvisorAI.Execution.AccountReplay
import AdvisorAI.Execution.OmsRouting
import AdvisorAI.Execution.OmsAmbiguity
import AdvisorAI.Execution.OmsRetry
import AdvisorAI.Models.Disablement
import AdvisorAI.Execution.OrderIdentity
import AdvisorAI.Api.Service
import AdvisorAI.Live.Activation
import AdvisorAI.Api.Commands
import AdvisorAI.Collectors.BookDigest
import AdvisorAI.Agents.SyndicatedCopies
import AdvisorAI.Capabilities.Exposure
import AdvisorAI.Gateway.Screening
import AdvisorAI.Flows.Durable
import AdvisorAI.Attribution.Reconcile
import AdvisorAI.Resources.Leases
import AdvisorAI.Soak.DurableEvidence
import AdvisorAI.Forward.LongRunWatchdog
import AdvisorAI.Forward.LongRunFatal
import AdvisorAI.Forward.LongRunRepeats
import AdvisorAI.Integrations.SpoolCrashes
import AdvisorAI.Integrations.FeedReplay
import AdvisorAI.Collectors.Lineage
import AdvisorAI.Execution.Tightening
import AdvisorAI.Execution.PeakEquity
import AdvisorAI.Execution.AccountAtomicity
import AdvisorAI.Phase4.UtilityDrawdown
import AdvisorAI.Forward.KlineAlignment
import AdvisorAI.Integrations.Settlement
import AdvisorAI.Runtime.VenueReconcile
import AdvisorAI.Runtime.SpotOrders
import AdvisorAI.Execution.NativeOms
import AdvisorAI.Collectors.HealthPolicy
import AdvisorAI.Runtime.Rebalance
import AdvisorAI.Api.Security
import AdvisorAI.Contracts.ActionSpellings
import AdvisorAI.Features.Graph
import AdvisorAI.Learning.Problems
import AdvisorAI.Collectors.Quality
import AdvisorAI.Models.ForecastScores
import AdvisorAI.Agents.Council
import AdvisorAI.Execution.NativeBinding
import AdvisorAI.Integrations.OrderFilters
