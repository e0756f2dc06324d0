import Polytope.RiskTypes
import Polytope.MarketDepth

/-! The data Execution works on: plans with their child orders, the adapter's answers and
reports, and the reservation dispositions sent back to Risk. order_count and the order array
are one list. Scratch buffers and metrics are not modelled. -/
namespace Polytope.ExecutionTypes
open Intent (OpportunityIntent OrderDecisionLite)
open RiskTypes (ApprovedIntent)
open MarketDepth (MarketStateSnapshot MarketDepthView)

def kMaxChildOrdersPerPlan : Nat := 16

inductive ExecutionMode where | paper | sandbox | live
  deriving DecidableEq, Repr
inductive OrderSide where | buy | sell
  deriving DecidableEq, Repr
inductive FillLiquidityRole where | maker | taker | unknown
  deriving DecidableEq, Repr
inductive PaperExecutionMode where | paperAtomic | paperSequential
  deriving DecidableEq, Repr
inductive ChildOrderStatus where
  | created | planned | sent | acked | partiallyFilled | filled | cancelRequested | cancelled
  | failed | expired
  deriving DecidableEq, Repr
inductive PlanStatus where
  | created | planned | sent | acked | partiallyFilled | hedgeRequired | filled | cancelRequested
  | cancelled | failed | expired
  deriving DecidableEq, Repr

structure ExecutionConfig where
  mode : ExecutionMode := .paper
  executionEnabled : Bool := false
  liveEnabled : Bool := false
  paperMode : PaperExecutionMode := .paperAtomic
  allowPartialFillPaper : Bool := false
  maxChildOrdersPerPlan : Nat := 16
  maxOrderAgeNs : Int := 1000000000
  hotPathTrustOrderDecisionHash : Bool := false
  hotPathTrustApprovalHash : Bool := false
  hotPathSkipPlanValidation : Bool := false
  hotPathSkipOrderStrings : Bool := false
  hotPathNumericPlanId : Bool := false
  deriving DecidableEq, Repr
structure ExecutionContext where
  nowNs : Nat := 0
  snapshots : List MarketStateSnapshot := []
  depthViews : List MarketDepthView := []
  config : ExecutionConfig := {}
  deriving DecidableEq, Repr

structure ChildOrder where
  orderId : Nat := 0
  planId : UInt64 := 0
  clientOrderId : String := ""
  marketId : String := ""
  assetId : String := ""
  marketIndex : Nat := 0
  assetIndex : Nat := 0
  side : OrderSide := .buy
  quantityLots : Int := 0
  limitPriceTick : Int := 0
  estimatedVwapTick : Int := 0
  worstAllowedPriceTick : Int := 0
  status : ChildOrderStatus := .created
  deriving DecidableEq, Repr
structure OrderPlan where
  planId : UInt64 := 0
  sourceIntentId : UInt64 := 0
  approvedIntentId : UInt64 := 0
  reservationId : UInt64 := 0
  bundleId : UInt64 := 0
  status : PlanStatus := .created
  orders : List ChildOrder := []
  maxTotalCostTick : Int := 0
  minExpectedEdgeTick : Int := 0
  maxSlippageTick : Int := 0
  chosenBundleQty : Int := 0
  guaranteedPayoutTick : Int := 0
  expectedTerminalPnlTick : Int := 0
  createdTsNs : Nat := 0
  expireAfterNs : Nat := 0
  idempotencyKey : String := ""
  deriving DecidableEq, Repr

structure ExecutionReport where
  planId : UInt64 := 0
  childOrderId : Nat := 0
  status : ChildOrderStatus := .created
  venueOrderId : String := ""
  rejectReason : String := ""
  filledLots : Int := 0
  remainingLots : Int := 0
  avgFillPriceTick : Int := 0
  eventTsNs : Nat := 0
  deriving DecidableEq, Repr

inductive AdapterResultCode where | ok | liveExecutionDisabled | adapterError | missingAdapter
  deriving DecidableEq, Repr
structure AdapterSubmitResult where
  ok : Bool := false
  planId : UInt64 := 0
  status : PlanStatus := .created
  childOrdersSubmitted : Nat := 0
  childOrdersRejected : Nat := 0
  code : AdapterResultCode := .adapterError
  error : String := ""
  deriving DecidableEq, Repr
structure AdapterCancelResult where
  ok : Bool := false
  planId : UInt64 := 0
  code : AdapterResultCode := .adapterError
  error : String := ""
  deriving DecidableEq, Repr
structure ExecutionResult where
  ok : Bool := false
  planId : UInt64 := 0
  status : PlanStatus := .created
  childOrdersSubmitted : Nat := 0
  childOrdersRejected : Nat := 0
  error : String := ""
  deriving DecidableEq, Repr
structure CancelResult where
  ok : Bool := false
  planId : UInt64 := 0
  code : AdapterResultCode := .adapterError
  reports : List ExecutionReport := []
  error : String := ""
  deriving DecidableEq, Repr

inductive ReservationDispositionType where | none | release | consume | expire
  deriving DecidableEq, Repr
structure ReservationDisposition where
  reservationId : String := ""
  planId : UInt64 := 0
  type : ReservationDispositionType := .none
  reason : String := ""
  deriving DecidableEq, Repr

structure ExecutionApproval where
  decisionId : UInt64 := 0
  reservationId : UInt64 := 0
  bundleId : UInt64 := 0
  approvedBundleQty : Int := 0
  idempotencyKey : String := ""
  deriving DecidableEq, Repr
structure ApprovedIntentEnvelope where
  sourceIntent : OpportunityIntent := {}
  approval : ExecutionApproval := {}
  deriving DecidableEq, Repr
structure ApprovedOrderDecisionEnvelope where
  approved : ApprovedIntent := {}
  decision : OrderDecisionLite := {}
  sourceIntentId : UInt64 := 0
  bundleId : UInt64 := 0
  decisionHash : UInt64 := 0
  approvalHash : UInt64 := 0
  deriving DecidableEq, Repr

open Fnv in
def computeApprovedIntentHash (a : ApprovedIntent) : UInt64 :=
  let h := [a.intent.intentId,a.intent.bundleId,a.intent.idempotencyHash,a.decision.decisionId,
    a.decision.intentId,a.decision.bundleId,a.decision.idempotencyHash].foldl mixU64 offset
  let h := [a.decision.status.ctorIdx,a.decision.rejectReason.ctorIdx].foldl mixNat h
  let h := mixU64 h a.reservationIdHash
  let h := [a.approvedAtNs,a.expiresAtNs].foldl mixNat h
  if h = 0 then 1 else h

end Polytope.ExecutionTypes
