import Liki.Audit.Heads
import Liki.Backups
import Liki.Data.AsofJoin
import Liki.Data.BarRevisions
import Liki.Data.KlinePages
import Liki.Data.RawPayloads
import Liki.Data.ReadingOrder
import Liki.Data.RejectedMessages
import Liki.Data.SpecificationHistory
import Liki.Data.Universes
import Liki.Evaluation.CheapEconomics
import Liki.Evaluation.PromotionFreezes
import Liki.Evaluation.RuleOrder
import Liki.Finance.AverageEntry
import Liki.Finance.Derivatives
import Liki.Finance.FXConversion
import Liki.Finance.FillPrices
import Liki.Finance.NoLookahead
import Liki.Finance.OrderStates
import Liki.Finance.ReduceOnly
import Liki.Finance.ReplayErrors
import Liki.Finance.RiskMetrics
import Liki.Governance.IncidentVersions
import Liki.Governance.PathFloors
import Liki.Governance.ServiceLevels
import Liki.Inference.BackendEquivalence
import Liki.Inference.RouteRuns
import Liki.Inference.SpendCap
import Liki.Inference.ToolExpansions
import Liki.Paper.CashLedger
import Liki.Paper.EmergencyStops
import Liki.Paper.ExecutionRules
import Liki.Paper.Headroom
import Liki.Paper.Replays
import Liki.Paper.UnknownOrders
import Liki.Paper.WorkingExposure
import Liki.Portfolio.Reactivation
import Liki.Portfolio.ReverseStress
import Liki.Portfolio.Ruin
import Liki.Requirements.Registry
import Liki.Research.Lineage
import Liki.Research.Retries
import Liki.Scheduler.Blocking
import Liki.Scheduler.Selection
import Liki.Statistics.CombinatorialSplits
import Liki.Statistics.SpendingBoundaries
import Liki.Telegram.Commands
import Liki.Verifier.ScreenedPasses
