import CatsPy.RoundingGrid
import CatsPy.DecimalNumbers
import CatsPy.DecimalContext
import CatsPy.ExactDecimals
import CatsPy.ContextValues
import CatsPy.OrderedDict
import CatsPy.ObjectHeap
import CatsPy.PythonValues
import CatsPy.StateRuns
import CatsPy.StableSelection
import CatsPy.AverageCost
import CatsPy.CostHistory
import CatsPy.DomainModels
import CatsPy.RiskKernel
import CatsPy.RiskCaps
import CatsPy.RiskTightening
import CatsPy.RiskMonotonicity
import CatsPy.RiskVetoes
import CatsPy.LiveMicroOverrides
import CatsPy.SignalStrategies
import CatsPy.DecisionEngine
import CatsPy.LongShortSymmetry
import CatsPy.BestCandidate
import CatsPy.PaperExecution
import CatsPy.PaperPositions
import CatsPy.HighWaterMark
import CatsPy.PaperFills
import CatsPy.ExitTimes
import CatsPy.PaperConservation
import CatsPy.ExitEvaluator
import CatsPy.ExitClosure
import CatsPy.PaperRepresentation
import CatsPy.PositionMetadata
import CatsPy.EntryPrices
import CatsPy.DecisionRuntime
import CatsPy.CycleCommitment
import CatsPy.PaperCycles
import CatsPy.PortfolioLimits
import CatsPy.SnapshotExposures
import CatsPy.ReentryCooldown
import CatsPy.CycleFrames
import CatsPy.NofxFeatures
import CatsPy.ResponseCache
import CatsPy.RepeatedTrouble
import CatsPy.FundingClock
import CatsPy.EntryFees
import CatsPy.SoftDrawdown
import CatsPy.PayloadFreshness
import CatsPy.ReversalExits
import CatsPy.HardDrawdown
import CatsPy.UserStream
import CatsPy.OrderRouting
import CatsPy.RequestNormalization
import CatsPy.DecimalOrders
import CatsPy.PlainPayloads
import CatsPy.DecimalAgreement
import CatsPy.PaperDecimals
import CatsPy.DecimalFills
import CatsPy.PaperAgreement
import CatsPy.DecimalAccounts
import CatsPy.ExitIsolation
import CatsPy.ExchangeRules
import CatsPy.AccountUpdates
import CatsPy.PositionProtection
import CatsPy.PrivateOrders
import CatsPy.ProtectionFailures
import CatsPy.Reconciliation
import CatsPy.ReconcileCommit
import CatsPy.SnapshotComparison
import CatsPy.ReconcileConvergence
import CatsPy.MovingPrices
import CatsPy.IncrementalState
import CatsPy.ReconcileProtection
import CatsPy.KillSwitchLatch
import CatsPy.EquityDepletion
import CatsPy.StopProtocol
import CatsPy.StopAcknowledgements
import CatsPy.StopSoundness
import CatsPy.PaperDataset
import CatsPy.DatasetJoin
import CatsPy.RepeatedMarking
import CatsPy.FillAttribution
import CatsPy.ExitLog
import CatsPy.ApprovedLeverage
import CatsPy.ConfiguredTiers
import CatsPy.CycleDecisions
import CatsPy.SkipReasons
import CatsPy.UniverseSymbols
import CatsPy.JsonText
import CatsPy.JsonNesting
import CatsPy.JsonlFiles
import CatsPy.Grouping
import CatsPy.DatasetReports
import CatsPy.DatasetExport
import CatsPy.GatewayStreams
import CatsPy.GatewayProtection
import CatsPy.HeartbeatRuns
import CatsPy.LedgerReplay
import CatsPy.PercentEncoding
import CatsPy.SignedRequests
import CatsPy.UserStreamSession
import CatsPy.NofxCollector
import CatsPy.BoundedPool
import CatsPy.FetchPhase
