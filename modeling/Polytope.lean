import Polytope.FixedPointMath
import Polytope.Binary64
import Polytope.Fnv
import Polytope.Machine
import Polytope.Tally
import Polytope.MarketDepth
import Polytope.Intent
import Polytope.RiskTypes
import Polytope.Reservation
import Polytope.ReservationLedger
import Polytope.ReservationCaps
import Polytope.CostRevalidator
import Polytope.RiskGuards
import Polytope.Pipeline
import Polytope.RiskEvaluation
import Polytope.Engine
import Polytope.RiskEdge
import Polytope.RiskApprovals
import Polytope.ExecutionTypes
import Polytope.ExecutionPlanner
import Polytope.RiskCaps
import Polytope.ExecutionState
import Polytope.ExecutionGateway
import Polytope.ExecutionAdapters
import Polytope.ExecutionSubmissions
import Polytope.ExecutionDispositions
import Polytope.ConstraintCompiler
import Polytope.DisjointSet
import Polytope.CombinatorialBundles
import Polytope.BundlePayout
import Polytope.ComponentPartitioner
import Polytope.ComponentOracles
import Polytope.Cardinality
import Polytope.OracleTypes
import Polytope.StateEnumeration
import Polytope.OracleFaithfulness
import Polytope.PartitionSoundness
import Polytope.PlanLifecycle
import Polytope.LiveMakerAdapter
import Polytope.VenueAccount
import Polytope.LiveOrderTracking
import Polytope.PaperAccounting
import Polytope.ChainFills
import Polytope.BundleArtifact
import Polytope.EntityStore
import Polytope.HashCoherence
import Polytope.BundleSizing
import Polytope.OrderDecisionEngine
import Polytope.CacheTransparency
import Polytope.FixedShapeKernel
import Polytope.SingleLevelSizing
import Polytope.KernelAgreement
import Polytope.MarketShard
import Polytope.SettlementOrder
import Polytope.SnapshotIntegrity
import Polytope.FastPathPipeline
import Polytope.FastPathRollout
import Polytope.Sorting
import Polytope.FillReconciliation
import Polytope.SignalPublishing
import Polytope.SignalDedupe
import Polytope.QuoteTypes
import Polytope.QuoteRisk
import Polytope.QuoteBuilding
import Polytope.MarketMaking
import Polytope.PaperQuoteBook
import Polytope.PaperMakerFills
import Polytope.PaperTrading
import Polytope.PaperIdempotence
import Polytope.PaperMarks
import Polytope.PaperTerminal
import Polytope.ArtifactIntegrity
import Polytope.SnapshotPublishing
import Polytope.SnapshotReaders
import Polytope.AskSweep
import Polytope.CandidateCursor
import Polytope.SizingState
import Polytope.SizingWalk
import Polytope.SizeOptimizer
import Polytope.DecisionSoundness
import Polytope.OptimalSizing
import Polytope.PrefixSweep
import Polytope.FixedShapeDomination
import Polytope.LegBooks
import Polytope.ListRelation
import Polytope.FillAccounting
import Polytope.CurvePricing
import Polytope.VwapAgreement
import Polytope.LinearSweep
import Polytope.SignalPricing
import Polytope.PricingAgreement
import Polytope.PricingPaths
import Polytope.SignalEdge
import Polytope.FastPathFallback
import Polytope.Leader
import Polytope.KernelRegistry
import Polytope.FastPathSelection
import Polytope.DecisionTranslation
import Polytope.SharedSweep
import Polytope.SharedDepth
import Polytope.QuoteSoundness
import Polytope.QuoteAgreement
import Polytope.PaperAtomicity
import Polytope.SlotTable
import Polytope.ReservationNumerics
import Polytope.LastWrite
import Polytope.BookWrites
import Polytope.BboDivergence
import Polytope.Delimiting
import Polytope.HashStream
import Polytope.DepthBatch
import Polytope.FramedLog
import Polytope.RawLog
import Polytope.HexText
import Polytope.OrderFilledDecoder
import Polytope.OrderFilledEncoding
import Polytope.ReconnectBackoff
import Polytope.NumberText
import Polytope.EventNormalizing
import Polytope.InvertedIndex
import Polytope.BundleScan
import Polytope.PayoffMatrixBuilder
import Polytope.CandidateMerge
import Polytope.CircularLog
import Polytope.SnapshotRing
import Polytope.MessageDecoding
import Polytope.FeedCapture
import Polytope.FeedReplay
import Polytope.ArtifactExport
import Polytope.DifferentialReference
import Polytope.RuleMeaning
