import Polytope.ExecutionTypes
import Polytope.Machine
import Polytope.Tally

/-! PaperLedger: cash, positions at average cost and realized profit, fed by execution report
fills and by maker fills. Amounts are exact; the average cost is truncated, so a position that is
sold in several parts keeps a remainder in its cost basis until it is closed. -/
namespace Polytope.PaperAccounting
open ExecutionTypes
open Tally (sumOf sumOfInsert)

structure FillApplication where
  report : ExecutionReport := {}
  executionReportId : UInt64 := 0
  assetId : String := ""
  assetIndex : Nat := 0
  side : OrderSide := .buy
  feeTick : Int := 0
  deriving DecidableEq, Repr
structure PaperFill where
  fillId : UInt64 := 0
  reportId : UInt64 := 0
  assetIndex : Nat := 0
  assetId : String := ""
  side : OrderSide := .buy
  liquidityRole : FillLiquidityRole := .unknown
  qtyLots : Int := 0
  fillPriceTick : Int := 0
  feeTick : Int := 0
  deriving DecidableEq, Repr

-- This file's own offset basis; the other hashes of the source start from Fnv.offset.
def reportIdOffset : UInt64 := 1469598103934665603
open Fnv in
def deriveExecutionReportId (fill : FillApplication) : UInt64 :=
  if fill.executionReportId ≠ 0 then fill.executionReportId
  else
    let hash := [fill.report.childOrderId,fill.report.eventTsNs,fill.report.status.ctorIdx].foldl mixNat
      (mixU64 reportIdOffset fill.report.planId)
    [fill.report.filledLots,fill.report.avgFillPriceTick].foldl mixI64 hash

/-! Positions. -/

structure Position where
  assetId : String := ""
  assetIndex : Nat := 0
  qtyLots : Int := 0
  avgCostTick : Int := 0
  costBasisTick : Int := 0
  realizedPnlTick : Int := 0
  deriving DecidableEq, Repr
abbrev Positions := AList (fun _ : String => Position)
inductive PositionLedgerApplyStatus where | applied | invalidFill | unsupportedSell | insufficientPosition
  deriving DecidableEq, Repr
structure PositionLedgerApplyResult where
  applied : Bool := false
  status : PositionLedgerApplyStatus := .invalidFill
  realizedPnlTick : Int := 0
  deriving DecidableEq, Repr

def bought (p : Position) (assetId : String) (assetIndex : Nat) (lots costTick : Int) : Position :=
  let p := {p with assetId, assetIndex, qtyLots := p.qtyLots + lots, costBasisTick := p.costBasisTick + costTick}
  if 0 < p.qtyLots then {p with avgCostTick := p.costBasisTick.tdiv p.qtyLots} else p
def applyBuy (positions : Positions) (assetId : String) (assetIndex : Nat) (lots costTick : Int) : Positions :=
  positions.insert assetId (bought ((positions.lookup assetId).getD {}) assetId assetIndex lots costTick)
def sold (p : Position) (assetIndex : Nat) (lots priceTick : Int) : Position :=
  let p := {p with
    assetIndex := if p.assetIndex = 0 then assetIndex else p.assetIndex
    qtyLots := p.qtyLots - lots
    costBasisTick := p.costBasisTick - p.avgCostTick * lots
    realizedPnlTick := p.realizedPnlTick + (priceTick - p.avgCostTick) * lots}
  if p.qtyLots = 0 then {p with costBasisTick := 0, avgCostTick := 0}
  else {p with avgCostTick := p.costBasisTick.tdiv p.qtyLots}
def applySell (positions : Positions) (assetId : String) (assetIndex : Nat) (lots priceTick : Int) :
    Positions × PositionLedgerApplyResult :=
  if assetId = "" ∨ lots ≤ 0 ∨ priceTick < 0 then (positions,{})
  else
    match positions.lookup assetId with
    | none => (positions,{status := .insufficientPosition})
    | some p =>
      if p.qtyLots < lots then (positions,{status := .insufficientPosition})
      else
        (positions.insert assetId (sold p assetIndex lots priceTick),
          {applied := true, status := .applied, realizedPnlTick := (priceTick - p.avgCostTick) * lots})

/-! The ledger. -/

structure CashLedger where
  startingCashTick : Int := 0
  cashTick : Int := 0
  realizedPnlTick : Int := 0
  feesPaidTick : Int := 0
  deriving DecidableEq, Repr
structure PaperLedger where
  cash : CashLedger := {}
  positions : Positions := ∅
  appliedExecutionReportIds : List UInt64 := []
  appliedFillIds : List UInt64 := []
  appliedMakerReportIds : List UInt64 := []
  makerFillCount : Nat := 0
def opened (startingCashTick : Int) : PaperLedger := {cash := {startingCashTick, cashTick := startingCashTick}}

inductive PaperLedgerApplyStatus where
  | applied | duplicateExecutionReport | ignoredNonFill | unsupportedSell | invalidFill | duplicateIgnored
  | rejectedInvalidFill | rejectedUnsupportedSide | rejectedInsufficientPosition
  deriving DecidableEq, Repr
structure PaperLedgerSnapshot where
  cash : CashLedger
  appliedExecutionReportCount : Nat
  appliedFillCount : Nat
  makerFillCount : Nat
  positionCount : Nat
  deriving DecidableEq, Repr
def PaperLedger.snapshot (l : PaperLedger) : PaperLedgerSnapshot :=
  ⟨l.cash,l.appliedExecutionReportIds.length,l.appliedFillIds.length,l.makerFillCount,l.positions.keys.length⟩
structure PaperLedgerApplyResult where
  applied : Bool
  status : PaperLedgerApplyStatus
  fillId : UInt64
  reason : String
  snapshot : PaperLedgerSnapshot
  deriving DecidableEq, Repr

def isFillStatus (status : ChildOrderStatus) : Bool :=
  decide (status = .filled) || decide (status = .partiallyFilled)
def refuse (l : PaperLedger) (status : PaperLedgerApplyStatus) (fillId : UInt64) (reason : String) :
    PaperLedger × PaperLedgerApplyResult :=
  (l,⟨false,status,fillId,reason,l.snapshot⟩)
def accept (l : PaperLedger) (fillId : UInt64) : PaperLedger × PaperLedgerApplyResult :=
  (l,⟨true,.applied,fillId,"",l.snapshot⟩)

def buyFill (l : PaperLedger) (assetId : String) (assetIndex : Nat) (lots costTick feeTick : Int) : PaperLedger :=
  {l with
    cash :=
      { l.cash with
        cashTick := l.cash.cashTick - (costTick + feeTick)
        feesPaidTick := l.cash.feesPaidTick + feeTick }
    positions := applyBuy l.positions assetId assetIndex lots costTick}

def applyExecutionFill (l : PaperLedger) (fill : FillApplication) : PaperLedger × PaperLedgerApplyResult :=
  let reportId := deriveExecutionReportId fill
  if reportId = 0 then refuse l .invalidFill 0 "missing execution report id"
  else if reportId ∈ l.appliedExecutionReportIds then
    refuse l .duplicateExecutionReport reportId "duplicate execution report"
  else if isFillStatus fill.report.status = false ∨ fill.report.filledLots = 0 then
    refuse {l with appliedExecutionReportIds := reportId::l.appliedExecutionReportIds} .ignoredNonFill reportId
      "execution report has no fill"
  else if fill.report.filledLots < 0 ∨ fill.report.avgFillPriceTick < 0 ∨ fill.feeTick < 0 ∨ fill.assetId = "" then
    refuse l .invalidFill reportId "invalid execution fill"
  else if fill.side = .sell then
    refuse l .unsupportedSell reportId "sell fills are unsupported for execution reports"
  else
    let l := buyFill l fill.assetId fill.assetIndex fill.report.filledLots
      (fill.report.filledLots * fill.report.avgFillPriceTick) fill.feeTick
    accept {l with appliedExecutionReportIds := reportId::l.appliedExecutionReportIds} reportId

def invalidPaperFill (fill : PaperFill) : Bool :=
  decide (fill.fillId = 0) || decide (fill.qtyLots ≤ 0) || decide (fill.fillPriceTick < 0) || decide
    (fill.feeTick < 0) ||
    decide (fill.assetId = "") || decide (fill.liquidityRole = .unknown)
def duplicatePaperFill (l : PaperLedger) (fill : PaperFill) : Bool :=
  decide (fill.fillId ∈ l.appliedFillIds) ||
    (decide (fill.reportId ≠ 0) && decide (fill.reportId ∈ l.appliedMakerReportIds))
def recordPaperFill (l : PaperLedger) (fill : PaperFill) : PaperLedger :=
  {l with
    appliedFillIds := fill.fillId::l.appliedFillIds
    appliedMakerReportIds := if fill.reportId ≠ 0 then fill.reportId::l.appliedMakerReportIds
      else l.appliedMakerReportIds
    makerFillCount := if fill.liquidityRole = .maker then l.makerFillCount + 1 else l.makerFillCount}
def applyPaperFill (l : PaperLedger) (fill : PaperFill) : PaperLedger × PaperLedgerApplyResult :=
  let grossNotional := fill.qtyLots * fill.fillPriceTick
  if invalidPaperFill fill then refuse l .rejectedInvalidFill fill.fillId "invalid paper fill"
  else if duplicatePaperFill l fill then refuse l .duplicateIgnored fill.fillId "duplicate paper fill"
  else
    match fill.side with
    | .buy =>
      accept (recordPaperFill (buyFill l fill.assetId fill.assetIndex fill.qtyLots grossNotional fill.feeTick)
        fill) fill.fillId
    | .sell =>
      let (positions,result) := applySell l.positions fill.assetId fill.assetIndex fill.qtyLots fill.fillPriceTick
      if result.applied = false then
        refuse l (if result.status = .insufficientPosition then .rejectedInsufficientPosition
          else .rejectedInvalidFill) fill.fillId
          "paper sell exceeds current position"
      else
        accept (recordPaperFill {l with
          cash := {l.cash with
            cashTick := l.cash.cashTick + (grossNotional - fill.feeTick)
            realizedPnlTick := l.cash.realizedPnlTick + (result.realizedPnlTick - fill.feeTick)
            feesPaidTick := l.cash.feesPaidTick + fill.feeTick}
          positions} fill) fill.fillId

inductive LedgerFill where
  | execution (fill : FillApplication)
  | paper (fill : PaperFill)
  deriving DecidableEq
def LedgerFill.buyFee : LedgerFill → Int
  | .execution fill => if fill.side = .buy then fill.feeTick else 0
  | .paper fill => if fill.side = .buy then fill.feeTick else 0
def applyFill (l : PaperLedger) : LedgerFill → PaperLedger × PaperLedgerApplyResult
  | .execution fill => applyExecutionFill l fill
  | .paper fill => applyPaperFill l fill

abbrev LedgerLog := List (LedgerFill × PaperLedgerApplyResult)
def costBasis (l : PaperLedger) : Int := sumOf (·.costBasisTick) l.positions
-- The fees of the buy fills that were applied.
def buyFees (log : LedgerLog) : Int := (log.map fun x => if x.2.applied then x.1.buyFee else 0).sum

structure Balanced (start : Int) (l : PaperLedger) (log : LedgerLog) : Prop where
  identity : l.cash.cashTick + costBasis l = start + l.cash.realizedPnlTick - buyFees log
  flat : (∀ k p, l.positions.lookup k = some p → p.qtyLots = 0) →
    l.cash.cashTick - start = l.cash.realizedPnlTick - buyFees log
def StaysBalanced (start : Int) (l : PaperLedger) (log : LedgerLog) (fill : LedgerFill) : Prop :=
  Balanced start (applyFill l fill).1 (log ++ [(fill,(applyFill l fill).2)])
-- A maker sell that closes a position finds a cost basis its quantity divides.
def ClosesEvenly (l : PaperLedger) (_ : LedgerLog) : LedgerFill → Prop
  | .execution _ => True
  | .paper fill => invalidPaperFill fill = false → duplicatePaperFill l fill = false → fill.side = .sell →
    ∀ p, l.positions.lookup fill.assetId = some p → p.qtyLots = fill.qtyLots → p.qtyLots ∣ p.costBasisTick

/-! Positions stay consistent. -/

structure Kept (p : Position) : Prop where
  qty : 0 ≤ p.qtyLots
  basis : 0 ≤ p.costBasisTick
  average : p.avgCostTick = p.costBasisTick / p.qtyLots
  flat : p.qtyLots = 0 → p.costBasisTick = 0
def WellKept (positions : Positions) : Prop := ∀ k p, positions.lookup k = some p → Kept p

theorem boughtKept {p : Position} (ok : Kept p) (asset index) {lots cost : Int} (some : 0 < lots)
    (nonneg : 0 ≤ cost) :
    Kept (bought p asset index lots cost) := by
  have qty := ok.qty
  have basis := ok.basis
  have grows : 0 < p.qtyLots + lots := by omega
  have total : 0 ≤ p.costBasisTick + cost := by omega
  simp only [bought,grows,if_true]
  exact ⟨grows.le,total,Int.tdiv_eq_ediv_of_nonneg total,fun none => by simp only at none; omega⟩
theorem averageBelow {p : Position} (ok : Kept p) {lots : Int} (some : 0 < lots) (room : lots ≤ p.qtyLots) :
    p.avgCostTick * lots ≤ p.costBasisTick := by
  have basis := ok.basis
  have qty : 0 < p.qtyLots := by omega
  have unit : 0 ≤ p.avgCostTick := by
    rw [ok.average]
    exact Int.ediv_nonneg basis qty.le
  have whole : p.avgCostTick * p.qtyLots ≤ p.costBasisTick := by
    rw [ok.average]
    exact Int.ediv_mul_le _ qty.ne'
  exact (mul_le_mul_of_nonneg_left room unit).trans whole
theorem soldKept {p : Position} (ok : Kept p) (index) {lots price : Int} (some : 0 < lots)
    (room : lots ≤ p.qtyLots) :
    Kept (sold p index lots price) := by
  have below := averageBelow ok some room
  simp only [sold]
  split
  · exact ⟨by simp only; omega,le_rfl,by simp,fun _ => rfl⟩
  · next open_ =>
    have left : 0 ≤ p.costBasisTick - p.avgCostTick * lots := by omega
    exact ⟨by simp only; omega,left,Int.tdiv_eq_ediv_of_nonneg left,fun none => absurd none open_⟩
theorem soldBasis (p : Position) (index) (lots price : Int) : (sold p index lots price).costBasisTick =
    if p.qtyLots = lots then 0 else p.costBasisTick - p.avgCostTick * lots := by
  have closed : p.qtyLots - lots = 0 ↔ p.qtyLots = lots := by omega
  simp only [sold,closed]
  split <;> rfl
theorem insertKept {positions : Positions} (ok : WellKept positions) {k p} (new : Kept p) :
    WellKept (positions.insert k p) := by
  intro other q found
  by_cases same : other = k
  · subst same
    rw [AList.lookup_insert] at found
    exact Option.some.inj found ▸ new
  · rw [AList.lookup_insert_ne same] at found
    exact ok other q found
theorem emptyKept : Kept {} := ⟨le_rfl,le_rfl,by simp,fun _ => rfl⟩

/-! What one fill does. -/

inductive Fills (l : PaperLedger) (fill : LedgerFill) (l' : PaperLedger) : Bool → Prop where
  | refused (cash : l'.cash = l.cash) (positions : l'.positions = l.positions)
      (short : ∀ f, fill = .paper f → invalidPaperFill f = false → duplicatePaperFill l f = false →
        f.side = .sell →
        ∀ p, l.positions.lookup f.assetId = some p → p.qtyLots < f.qtyLots) : Fills l fill l' false
  | bought {asset index lots cost fee} (buy : ∀ f, fill = .paper f → f.side = .buy) (fee' : fill.buyFee = fee)
    (some : 0 < lots) (nonneg : 0 ≤ cost)
      (cash : l'.cash = (buyFill l asset index lots cost fee).cash)
      (positions : l'.positions = (buyFill l asset index lots cost fee).positions) : Fills l fill l' true
  | sold {f p} (same : fill = .paper f) (valid : invalidPaperFill f = false)
    (fresh : duplicatePaperFill l f = false)
      (side : f.side = .sell) (known : l.positions.lookup f.assetId = some p) (some : 0 < f.qtyLots)
      (room : f.qtyLots ≤ p.qtyLots)
      (cash : l'.cash.cashTick = l.cash.cashTick + (f.qtyLots * f.fillPriceTick - f.feeTick))
      (realized : l'.cash.realizedPnlTick =
        l.cash.realizedPnlTick + ((f.fillPriceTick - p.avgCostTick) * f.qtyLots - f.feeTick))
      (positions : l'.positions = l.positions.insert f.assetId
        (PaperAccounting.sold p f.assetIndex f.qtyLots f.fillPriceTick)) :
      Fills l fill l' true

theorem executionFills (l : PaperLedger) (fill : FillApplication) :
    Fills l (.execution fill) (applyExecutionFill l fill).1 (applyExecutionFill l fill).2.applied := by
  have refused : ∀ l' : PaperLedger, l'.cash = l.cash → l'.positions = l.positions →
      Fills l (.execution fill) l' false :=
    fun l' cash positions => .refused cash positions (by simp)
  unfold applyExecutionFill
  simp only
  split
  · exact refused _ rfl rfl
  split
  · exact refused _ rfl rfl
  split
  · exact refused _ rfl rfl
  next filled =>
  split
  · exact refused _ rfl rfl
  next valid =>
  split
  · exact refused _ rfl rfl
  next buy =>
  rw [not_or] at filled
  simp only [not_or,not_lt] at valid
  have side : fill.side = .buy := by
    cases here : fill.side with
    | buy => rfl
    | sell => exact absurd here buy
  refine .bought (by simp) (by simp [LedgerFill.buyFee,side]) ?_ (mul_nonneg valid.1 valid.2.1) rfl rfl
  exact lt_of_le_of_ne valid.1 (Ne.symm filled.2)
theorem paperFills (l : PaperLedger) (fill : PaperFill) :
    Fills l (.paper fill) (applyPaperFill l fill).1 (applyPaperFill l fill).2.applied := by
  unfold applyPaperFill
  simp only
  split
  · next invalid =>
    refine .refused rfl rfl ?_
    rintro f ⟨⟩ valid
    rw [invalid] at valid
    cases valid
  next valid =>
  split
  · next again =>
    refine .refused rfl rfl ?_
    rintro f ⟨⟩ _ fresh
    rw [again] at fresh
    cases fresh
  next fresh =>
  rw [Bool.not_eq_true] at valid fresh
  have checked := valid
  simp only [invalidPaperFill,Bool.or_eq_false_iff,decide_eq_false_iff_not,not_le,not_lt] at checked
  obtain ⟨⟨⟨⟨⟨_,some⟩,price⟩,fee⟩,asset⟩,_⟩ := checked
  cases side : fill.side with
  | buy =>
    refine .bought ?_ (by simp [LedgerFill.buyFee,side]) some (mul_nonneg some.le price) rfl rfl
    rintro f ⟨⟩
    exact side
  | sell =>
    have named : ¬ (fill.assetId = "" ∨ fill.qtyLots ≤ 0 ∨ fill.fillPriceTick < 0) := by
      simp only [not_or,not_le,not_lt]
      exact ⟨asset,some,price⟩
    simp only [applySell,if_neg named]
    cases known : l.positions.lookup fill.assetId with
    | none =>
      refine .refused rfl rfl ?_
      rintro f ⟨⟩ _ _ _ p found
      rw [known] at found
      cases found
    | some p =>
      by_cases short : p.qtyLots < fill.qtyLots
      · simp only [short,if_true]
        refine .refused rfl rfl ?_
        rintro f ⟨⟩ _ _ _ q found
        rw [known] at found
        exact Option.some.inj found ▸ short
      · simp only [short,if_false]
        exact .sold rfl valid fresh side known some (not_lt.mp short) rfl rfl rfl
theorem fills (l : PaperLedger) (fill : LedgerFill) :
    Fills l fill (applyFill l fill).1 (applyFill l fill).2.applied := by
  cases fill with
  | execution fill => exact executionFills l fill
  | paper fill => exact paperFills l fill

theorem fillsKept {l l' : PaperLedger} {fill applied} (ok : WellKept l.positions)
    (h : Fills l fill l' applied) : WellKept l'.positions := by
  cases h with
  | refused _ positions _ => exact positions ▸ ok
  | @bought asset index lots cost fee _ _ some nonneg _ positions =>
    rw [positions]
    refine insertKept ok (boughtKept ?_ asset index some nonneg)
    cases known : l.positions.lookup asset with
    | none => exact emptyKept
    | some p => exact ok asset p known
  | sold _ _ _ _ known some room _ _ positions =>
    rw [positions]
    exact insertKept ok (soldKept (ok _ _ known) _ some room)

theorem boughtBasis (l : PaperLedger) (asset index) (lots cost fee : Int) :
    sumOf (·.costBasisTick) (buyFill l asset index lots cost fee).positions = costBasis l + cost := by
  have new : ∀ p : Position, (bought p asset index lots cost).costBasisTick = p.costBasisTick + cost := by
    intro p
    simp only [bought]
    split <;> rfl
  simp only [buyFill,applyBuy,costBasis]
  rw [sumOfInsert,new]
  cases l.positions.lookup asset with
  | none => simp
  | some p =>
    simp only [Option.map_some,Option.getD_some]
    omega
theorem buyFeesAppend (log x) : buyFees (log ++ [x]) = buyFees log + if x.2.applied then x.1.buyFee else 0 := by
  simp [buyFees]

-- What a closing sell drops from the cost basis is the remainder of the average.
theorem closingRemainder {p : Position} (ok : Kept p) :
    p.costBasisTick = p.avgCostTick * p.qtyLots ↔ p.qtyLots ∣ p.costBasisTick := by
  rw [ok.average]
  constructor
  · intro whole
    exact ⟨_,whole.trans (mul_comm _ _)⟩
  · intro divides
    exact (Int.ediv_mul_cancel divides).symm
theorem identityIff {start : Int} {l l' : PaperLedger} {log : LedgerLog} {fill r} (kept : WellKept l.positions)
    (before : l.cash.cashTick + costBasis l = start + l.cash.realizedPnlTick - buyFees log)
    (h : Fills l fill l' r.applied) :
    l'.cash.cashTick + costBasis l' = start + l'.cash.realizedPnlTick - buyFees (log ++ [(fill,r)]) ↔
      ClosesEvenly l log fill := by
  rw [buyFeesAppend]
  simp only
  generalize r.applied = applied at h
  cases h with
  | refused cash positions short =>
    refine iff_of_true ?_ ?_
    · rw [costBasis,positions,cash]
      simpa [costBasis] using before
    · cases fill with
      | execution _ => trivial
      | paper f =>
        intro valid fresh side p known equal
        have := short f rfl valid fresh side p known
        omega
  | @bought asset index lots cost fee buy fee' some nonneg cash positions =>
    refine iff_of_true ?_ ?_
    · rw [costBasis,positions,boughtBasis,cash,fee']
      simp only [buyFill,if_true]
      omega
    · cases fill with
      | execution _ => trivial
      | paper f =>
        intro _ _ side
        rw [buy f rfl] at side
        cases side
  | @sold f p same valid fresh side known some room cash realized positions =>
    have fee : fill.buyFee = 0 := by simp [same,LedgerFill.buyFee,side]
    have careful : ClosesEvenly l log fill ↔ (p.qtyLots = f.qtyLots → p.qtyLots ∣ p.costBasisTick) := by
      rw [same]
      simp [ClosesEvenly,valid,fresh,side,known]
    have gain : (f.fillPriceTick - p.avgCostTick) * f.qtyLots =
      f.qtyLots * f.fillPriceTick - p.avgCostTick * f.qtyLots := by
      rw [sub_mul,mul_comm f.fillPriceTick]
    rw [careful,costBasis,positions,sumOfInsert,known,soldBasis,cash,realized,gain,fee]
    simp only [Option.map_some,Option.getD_some,if_true]
    rw [costBasis] at before
    by_cases closing : p.qtyLots = f.qtyLots
    · have whole := closingRemainder (kept _ _ known)
      rw [if_pos closing,← whole,closing]
      simp only [forall_const]
      omega
    · rw [if_neg closing]
      exact iff_of_true (by omega) fun h => absurd h closing

theorem flatBasis {positions : Positions} (kept : WellKept positions)
    (flat : ∀ k p, positions.lookup k = some p → p.qtyLots = 0) :
    sumOf (·.costBasisTick) positions = 0 := by
  unfold sumOf
  apply List.sum_eq_zero
  intro x mem
  obtain ⟨e,there,rfl⟩ := List.mem_map.mp mem
  have known : positions.lookup e.1 = some e.2 := AList.mem_lookup_iff.mpr there
  exact (kept _ _ known).flat (flat _ _ known)
theorem balancedIff {start : Int} {l : PaperLedger} {log : LedgerLog} (kept : WellKept l.positions) :
    Balanced start l log ↔ l.cash.cashTick + costBasis l = start + l.cash.realizedPnlTick - buyFees log := by
  refine ⟨Balanced.identity,fun identity => ⟨identity,fun flat => ?_⟩⟩
  have none := flatBasis kept flat
  rw [costBasis,none] at identity
  omega
theorem staysBalancedIff {start : Int} {l : PaperLedger} {log : LedgerLog} (kept : WellKept l.positions)
    (ok : Balanced start l log)
    (fill) : StaysBalanced start l log fill ↔ ClosesEvenly l log fill := by
  have step := fills l fill
  unfold StaysBalanced
  rw [balancedIff (fillsKept kept step)]
  exact identityIff kept ok.identity step

theorem paperLedgerBalancedIff (start : Int) (fillsOfRun : List LedgerFill) :
    Machine.Along applyFill (StaysBalanced start) (opened start) [] fillsOfRun ↔
      Machine.Along applyFill ClosesEvenly (opened start) [] fillsOfRun := by
  have kept : WellKept (opened start).positions := by
    intro k p found
    cases found
  have balanced : Balanced start (opened start) [] := (balancedIff kept).mpr (by simp [opened,costBasis,buyFees])
  constructor
  · exact Machine.alongImp (P := fun l log => WellKept l.positions ∧ Balanced start l log)
      (fun l log fill ok stays => ⟨fillsKept ok.1 (fills l fill),stays⟩)
      (fun l log fill ok => (staysBalancedIff ok.1 ok.2 fill).mp) ⟨kept,balanced⟩
  · exact Machine.alongImp (P := fun l log => WellKept l.positions ∧ Balanced start l log)
      (fun l log fill ok even => ⟨fillsKept ok.1 (fills l fill),(staysBalancedIff ok.1 ok.2 fill).mpr even⟩)
      (fun l log fill ok => (staysBalancedIff ok.1 ok.2 fill).mpr) ⟨kept,balanced⟩

def makerFill (id : UInt64) (side : OrderSide) (qtyLots fillPriceTick : Int) : LedgerFill :=
  .paper {fillId := id, assetId := "a", side, liquidityRole := .maker, qtyLots, fillPriceTick}
-- One lot at 10 and two lots at 11: 32 for three lots, 10 on average. Sold at 20 they bring 60,
-- of which 30 is booked as profit; the remaining 2 of the cost basis are in neither figure.
theorem closingDropsRemainder :
    ¬ Machine.Along applyFill (StaysBalanced 100) (opened 100) []
      [makerFill 1 .buy 1 10,makerFill 2 .buy 2 11,makerFill 3 .sell 3 20] := by
  intro balanced
  have identity := balanced.2.2.1.identity
  revert identity
  decide +kernel

end Polytope.PaperAccounting
