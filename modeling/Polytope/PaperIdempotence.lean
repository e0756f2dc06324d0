import Polytope.PaperTrading

/-! Replayed and refused fills: what the ledger keeps of a history is what its applied fills alone give,
and the portfolio of the trading engine holds the ledger's positions. -/
namespace Polytope.PaperIdempotence
open ExecutionTypes PaperAccounting PaperTrading

/-! When a fill is applied, and what it leaves. -/

structure Executable (fill : FillApplication) : Prop where
  named : deriveExecutionReportId fill ≠ 0
  status : isFillStatus fill.report.status = true
  lots : 0 < fill.report.filledLots
  price : 0 ≤ fill.report.avgFillPriceTick
  fee : 0 ≤ fill.feeTick
  asset : fill.assetId ≠ ""
  side : fill.side = .buy
def bookedExecution (l : PaperLedger) (fill : FillApplication) : PaperLedger :=
  let l := buyFill l fill.assetId fill.assetIndex fill.report.filledLots
    (fill.report.filledLots * fill.report.avgFillPriceTick) fill.feeTick
  {l with appliedExecutionReportIds := deriveExecutionReportId fill::l.appliedExecutionReportIds}

theorem executionApplied {l fill} (applied : (applyExecutionFill l fill).2.applied = true) :
    deriveExecutionReportId fill ∉ l.appliedExecutionReportIds ∧ Executable fill := by
  unfold applyExecutionFill at applied
  simp only at applied
  split at applied
  · cases applied
  next named =>
  split at applied
  · cases applied
  next fresh =>
  split at applied
  · cases applied
  next filled =>
  split at applied
  · cases applied
  next valid =>
  split at applied
  · cases applied
  next buy =>
  rw [not_or] at filled
  simp only [not_or,not_lt] at valid
  refine ⟨fresh,named,by simpa using filled.1,lt_of_le_of_ne valid.1
    (Ne.symm filled.2),valid.2.1,valid.2.2.1,valid.2.2.2,?_⟩
  cases side : fill.side with
  | buy => rfl
  | sell => exact absurd side buy
theorem executionAccepts {l fill} (fresh : deriveExecutionReportId fill ∉ l.appliedExecutionReportIds)
    (ok : Executable fill) :
    applyExecutionFill l fill = accept (bookedExecution l fill) (deriveExecutionReportId fill) := by
  have lots := ok.lots
  have price := ok.price
  have fee := ok.fee
  have filled : ¬ (isFillStatus fill.report.status = false ∨ fill.report.filledLots = 0) := by
    rintro (other | none')
    · exact absurd (ok.status.symm.trans other) Bool.true_eq_false_eq_False
    · omega
  have valid : ¬ (fill.report.filledLots < 0 ∨ fill.report.avgFillPriceTick < 0 ∨ fill.feeTick < 0 ∨
    fill.assetId = "") := by
    rintro (short | cheap | rebate | unnamed)
    · omega
    · omega
    · omega
    · exact ok.asset unnamed
  have buy : ¬ fill.side = .sell := by
    rw [ok.side]
    exact nofun
  unfold applyExecutionFill
  simp only [if_neg ok.named,if_neg fresh,if_neg filled,if_neg valid,if_neg buy]
  rfl
theorem executionRedelivered {l fill} (known : deriveExecutionReportId fill ∈ l.appliedExecutionReportIds) :
    (applyExecutionFill l fill).1 = l ∧ (applyExecutionFill l fill).2.applied = false := by
  unfold applyExecutionFill
  simp only
  split
  · exact ⟨rfl,rfl⟩
  · exact ⟨rfl,rfl⟩

def settledPaper (l : PaperLedger) (fill : PaperFill) : PaperLedger :=
  match fill.side with
  | .buy => buyFill l fill.assetId fill.assetIndex fill.qtyLots (fill.qtyLots * fill.fillPriceTick) fill.feeTick
  | .sell =>
    let sale := applySell l.positions fill.assetId fill.assetIndex fill.qtyLots fill.fillPriceTick
    { l with
      cash := { l.cash with
        cashTick := l.cash.cashTick + (fill.qtyLots * fill.fillPriceTick - fill.feeTick)
        realizedPnlTick := l.cash.realizedPnlTick + (sale.2.realizedPnlTick - fill.feeTick)
        feesPaidTick := l.cash.feesPaidTick + fill.feeTick }
      positions := sale.1 }
def Settles (l : PaperLedger) (fill : PaperFill) : Prop :=
  fill.side = .sell → (applySell l.positions fill.assetId fill.assetIndex fill.qtyLots
    fill.fillPriceTick).2.applied = true

theorem paperApplied {l fill} (applied : (applyPaperFill l fill).2.applied = true) :
    invalidPaperFill fill = false ∧ duplicatePaperFill l fill = false ∧ Settles l fill := by
  unfold applyPaperFill at applied
  simp only at applied
  split at applied
  · cases applied
  next valid =>
  split at applied
  · cases applied
  next fresh =>
  refine ⟨(Bool.not_eq_true _).mp valid,(Bool.not_eq_true _).mp fresh,fun side => ?_⟩
  rw [side] at applied
  simp only at applied
  split at applied
  · cases applied
  · next sold => exact (Bool.not_eq_false _).mp sold
theorem paperAccepts {l fill} (valid : invalidPaperFill fill = false) (fresh : duplicatePaperFill l fill = false)
    (settles : Settles l fill) :
    applyPaperFill l fill = accept (recordPaperFill (settledPaper l fill) fill) fill.fillId := by
  unfold applyPaperFill settledPaper
  rw [valid,fresh]
  simp only [Bool.false_eq_true,if_false]
  cases side : fill.side with
  | buy => rfl
  | sell =>
    simp only [settles side,Bool.true_eq_false,if_false]
theorem paperRedelivered {l fill} (known : fill.fillId ∈ l.appliedFillIds) :
    (applyPaperFill l fill).1 = l ∧ (applyPaperFill l fill).2.applied = false := by
  have again : duplicatePaperFill l fill = true := by
    unfold duplicatePaperFill
    rw [decide_eq_true known]
    rfl
  unfold applyPaperFill
  simp only
  split
  · exact ⟨rfl,rfl⟩
  · exact ⟨rfl,rfl⟩

/-! A ledger that has seen fewer fills, with the same cash and positions, does the same with a fill the other applies. -/

structure Shadows (small big : PaperLedger) : Prop where
  cash : small.cash = big.cash
  positions : small.positions = big.positions
  reports : small.appliedExecutionReportIds ⊆ big.appliedExecutionReportIds
  fills : small.appliedFillIds ⊆ big.appliedFillIds
  makerReports : small.appliedMakerReportIds ⊆ big.appliedMakerReportIds

theorem shadowsRecord {small big : PaperLedger} (shadows : Shadows small big) (fill : PaperFill) :
    Shadows (recordPaperFill small fill) (recordPaperFill big fill) := by
  refine ⟨shadows.cash,shadows.positions,shadows.reports,List.cons_subset_cons _ shadows.fills,?_⟩
  unfold recordPaperFill
  simp only
  split
  · exact List.cons_subset_cons _ shadows.makerReports
  · exact shadows.makerReports
theorem shadowsSettled {small big : PaperLedger} (shadows : Shadows small big) (fill : PaperFill) :
    Shadows (settledPaper small fill) (settledPaper big fill) := by
  obtain ⟨cash,positions,reports,fills,makerReports⟩ := shadows
  unfold settledPaper
  cases fill.side with
  | buy =>
    unfold buyFill
    rw [cash,positions]
    exact ⟨rfl,rfl,reports,fills,makerReports⟩
  | sell =>
    rw [cash,positions]
    exact ⟨rfl,rfl,reports,fills,makerReports⟩
theorem shadowsFresh {small big : PaperLedger} {fill} (shadows : Shadows small big)
    (fresh : duplicatePaperFill big fill = false) :
    duplicatePaperFill small fill = false := by
  unfold duplicatePaperFill at fresh ⊢
  simp only [Bool.or_eq_false_iff,Bool.and_eq_false_iff,decide_eq_false_iff_not] at fresh ⊢
  exact ⟨fun known => fresh.1 (shadows.fills known),fresh.2.imp_right fun unknown known =>
    unknown (shadows.makerReports known)⟩

theorem shadowsApplied {small big : PaperLedger} {fill} (shadows : Shadows small big)
    (applied : (applyFill big fill).2.applied = true) :
    Shadows (applyFill small fill).1 (applyFill big fill).1 := by
  cases fill with
  | execution fill =>
    obtain ⟨fresh,ok⟩ := executionApplied applied
    have fresh' : deriveExecutionReportId fill ∉ small.appliedExecutionReportIds :=
      fun known => fresh (shadows.reports known)
    rw [applyFill,executionAccepts fresh' ok,applyFill,executionAccepts fresh ok]
    obtain ⟨cash,positions,reports,fills,makerReports⟩ := shadows
    unfold bookedExecution buyFill accept
    rw [cash,positions]
    exact ⟨rfl,rfl,List.cons_subset_cons _ reports,fills,makerReports⟩
  | paper fill =>
    obtain ⟨valid,fresh,settles⟩ := paperApplied applied
    have settles' : Settles small fill := by
      unfold Settles
      rw [shadows.positions]
      exact settles
    rw [applyFill,paperAccepts valid
      (shadowsFresh shadows fresh) settles',applyFill,paperAccepts valid fresh settles]
    exact shadowsRecord (shadowsSettled shadows fill) fill

/-! Whatever becomes of a fill, the ids already known stay known. -/

structure Grows (l l' : PaperLedger) : Prop where
  reports : l.appliedExecutionReportIds ⊆ l'.appliedExecutionReportIds
  fills : l.appliedFillIds ⊆ l'.appliedFillIds
  makerReports : l.appliedMakerReportIds ⊆ l'.appliedMakerReportIds

theorem executionGrows (l fill) : Grows l (applyExecutionFill l fill).1 := by
  have same : Grows l l := ⟨List.Subset.refl _,List.Subset.refl _,List.Subset.refl _⟩
  unfold applyExecutionFill
  simp only
  split
  · exact same
  split
  · exact same
  split
  · exact ⟨List.subset_cons_self _ _,same.fills,same.makerReports⟩
  split
  · exact same
  split
  · exact same
  · exact ⟨List.subset_cons_self _ _,same.fills,same.makerReports⟩
theorem paperRefuses {l fill} (refused : (applyPaperFill l fill).2.applied = false) :
    (applyPaperFill l fill).1 = l := by
  unfold applyPaperFill at refused ⊢
  simp only at refused ⊢
  split
  · rfl
  next valid =>
  rw [if_neg valid] at refused
  split
  · rfl
  next fresh =>
  rw [if_neg fresh] at refused
  cases side : fill.side with
  | buy =>
    rw [side] at refused
    cases refused
  | sell =>
    rw [side] at refused
    simp only at refused ⊢
    split
    · rfl
    next sold =>
    rw [if_neg sold] at refused
    cases refused
theorem settledIds (l fill) : (settledPaper l fill).appliedExecutionReportIds = l.appliedExecutionReportIds ∧
    (settledPaper l fill).appliedFillIds = l.appliedFillIds ∧
    (settledPaper l fill).appliedMakerReportIds = l.appliedMakerReportIds := by
  unfold settledPaper
  cases fill.side with
  | buy => exact ⟨rfl,rfl,rfl⟩
  | sell => exact ⟨rfl,rfl,rfl⟩
theorem paperGrows (l fill) : Grows l (applyPaperFill l fill).1 := by
  cases applied : (applyPaperFill l fill).2.applied with
  | false =>
    rw [paperRefuses applied]
    exact ⟨List.Subset.refl _,List.Subset.refl _,List.Subset.refl _⟩
  | true =>
    obtain ⟨valid,fresh,settles⟩ := paperApplied applied
    obtain ⟨reports,fills,makerReports⟩ := settledIds l fill
    rw [paperAccepts valid fresh settles]
    refine ⟨reports ▸ List.Subset.refl _,?_,?_⟩
    · exact List.subset_cons_of_subset _ (fills ▸ List.Subset.refl _)
    · unfold accept recordPaperFill
      simp only
      split
      · exact List.subset_cons_of_subset _ (makerReports ▸ List.Subset.refl _)
      · exact makerReports ▸ List.Subset.refl _
theorem applyGrows (l fill) : Grows l (applyFill l fill).1 := by
  cases fill with
  | execution fill => exact executionGrows l fill
  | paper fill => exact paperGrows l fill

theorem refusedKeeps {l fill} (refused : (applyFill l fill).2.applied = false) :
    (applyFill l fill).1.cash = l.cash ∧ (applyFill l fill).1.positions = l.positions := by
  have step := PaperAccounting.fills l fill
  rw [refused] at step
  cases step with
  | refused cash positions _ => exact ⟨cash,positions⟩
theorem shadowsRefused {small big : PaperLedger} {fill} (shadows : Shadows small big)
    (refused : (applyFill big fill).2.applied = false) : Shadows small (applyFill big fill).1 := by
  obtain ⟨cash,positions⟩ := refusedKeeps refused
  have grows := applyGrows big fill
  exact ⟨shadows.cash.trans cash.symm,shadows.positions.trans positions.symm,List.Subset.trans
    shadows.reports grows.reports,
    List.Subset.trans shadows.fills grows.fills,List.Subset.trans shadows.makerReports grows.makerReports⟩

def Known (l : PaperLedger) : LedgerFill → Prop
  | .execution fill => deriveExecutionReportId fill ∈ l.appliedExecutionReportIds
  | .paper fill => fill.fillId ∈ l.appliedFillIds
theorem knownGrows {l l' : PaperLedger} (grows : Grows l l') {fill} (known : Known l fill) : Known l' fill := by
  cases fill with
  | execution fill => exact grows.reports known
  | paper fill => exact grows.fills known
theorem appliedKnown {l fill} (applied : (applyFill l fill).2.applied = true) :
    Known (applyFill l fill).1 fill := by
  cases fill with
  | execution fill =>
    obtain ⟨fresh,ok⟩ := executionApplied applied
    rw [applyFill,executionAccepts fresh ok]
    exact List.mem_cons_self
  | paper fill =>
    obtain ⟨valid,fresh,settles⟩ := paperApplied applied
    rw [applyFill,paperAccepts valid fresh settles]
    exact List.mem_cons_self
theorem knownRedelivered {l fill} (known : Known l fill) :
    (applyFill l fill).1 = l ∧ (applyFill l fill).2.applied = false := by
  cases fill with
  | execution fill => exact executionRedelivered known
  | paper fill => exact paperRedelivered known

/-! Histories. -/

def appliedFills (log : LedgerLog) : List LedgerFill := (log.filter fun x => x.2.applied).map Prod.fst
def replay (start : Int) (fills : List LedgerFill) : PaperLedger :=
  (Machine.run applyFill (opened start) [] fills).1

structure LedgerLaw (start : Int) (l : PaperLedger) (log : LedgerLog) : Prop where
  redelivered : ∀ fill r, (fill,r) ∈ log → r.applied = true →
    (applyFill l fill).1 = l ∧ (applyFill l fill).2.applied = false
  refused : ∀ fill, (applyFill l fill).2.applied = false →
    (applyFill l fill).1.cash = l.cash ∧ (applyFill l fill).1.positions = l.positions
  nonneg : ∀ asset position, l.positions.lookup asset = some position → 0 ≤ position.qtyLots
  appliedOnly : l.cash = (replay start (appliedFills log)).cash ∧
    l.positions = (replay start (appliedFills log)).positions

structure Followed (start : Int) (l : PaperLedger) (log : LedgerLog) : Prop where
  shadows : Shadows (replay start (appliedFills log)) l
  known : ∀ fill r, (fill,r) ∈ log → r.applied = true → Known l fill
  kept : WellKept l.positions

theorem followedStart (start) : Followed start (opened start) [] where
  shadows := ⟨rfl,rfl,List.Subset.refl _,List.Subset.refl _,List.Subset.refl _⟩
  known _ _ mem := nomatch mem
  kept _ _ found := nomatch found
theorem appliedAppend (log : LedgerLog) (x) :
    appliedFills (log ++ [x]) = appliedFills log ++ if x.2.applied then [x.1] else [] := by
  unfold appliedFills
  rw [List.filter_append,List.map_append]
  cases applied : x.2.applied <;> simp [applied]
theorem replayAppend (start fills fill) :
    replay start (fills ++ [fill]) = (applyFill (replay start fills) fill).1 := by
  unfold replay
  rw [Machine.runAppend]
  rfl
theorem followedNext {start l log} (followed : Followed start l log) (fill) :
    Followed start (applyFill l fill).1 (log ++ [(fill,(applyFill l fill).2)]) where
  shadows := by
    rw [appliedAppend]
    cases applied : (applyFill l fill).2.applied with
    | true =>
      rw [if_pos rfl,replayAppend]
      exact shadowsApplied followed.shadows applied
    | false =>
      rw [if_neg Bool.false_ne_true,List.append_nil]
      exact shadowsRefused followed.shadows applied
  known other r mem applied := by
    rcases List.mem_append.mp mem with old | new
    · exact knownGrows (applyGrows l fill) (followed.known other r old applied)
    · cases List.mem_singleton.mp new
      exact appliedKnown applied
  kept := fillsKept followed.kept (PaperAccounting.fills l fill)
theorem followedLaw {start l log} (followed : Followed start l log) : LedgerLaw start l log where
  redelivered fill r mem applied := knownRedelivered (followed.known fill r mem applied)
  refused _ := refusedKeeps
  nonneg asset position found := (followed.kept asset position found).qty
  appliedOnly := ⟨followed.shadows.cash.symm,followed.shadows.positions.symm⟩

/-! The engine's portfolio. -/

theorem portfolioFollows {positions : Positions} {fill} (ok : Executable fill) :
    (portfolioApply positions fill).1 =
      applyBuy positions fill.assetId fill.assetIndex fill.report.filledLots
        (fill.report.filledLots * fill.report.avgFillPriceTick) := by
  have buy : ¬ fill.side = .sell := by
    rw [ok.side]
    exact nofun
  have valid : ¬ (fill.assetId = "" ∨ fill.report.filledLots ≤ 0 ∨ fill.report.avgFillPriceTick < 0) := by
    rintro (unnamed | none' | cheap)
    · exact ok.asset unnamed
    · exact absurd ok.lots (not_lt.mpr none')
    · exact absurd ok.price (not_le.mpr cheap)
  unfold portfolioApply
  rw [if_neg buy,if_neg valid]
theorem handleFollows {engine : PaperTradingEngine} {fill} (same : engine.portfolio = engine.ledger.positions) :
    (engine.handleFill fill).portfolio = (engine.handleFill fill).ledger.positions := by
  unfold PaperTradingEngine.handleFill
  simp only
  cases applied : (applyExecutionFill engine.ledger fill).2.applied with
  | true =>
    obtain ⟨fresh,ok⟩ := executionApplied applied
    rw [if_pos rfl,executionAccepts fresh ok]
    exact (portfolioFollows ok).trans (by rw [same]; rfl)
  | false =>
    rw [if_neg Bool.false_ne_true]
    have kept : (applyFill engine.ledger (.execution fill)).1.positions = engine.ledger.positions :=
      (@refusedKeeps engine.ledger (.execution fill) applied).2
    exact same.trans kept.symm
theorem planKeepsFills (engine : PaperTradingEngine) (plan) :
    (engine.onOrderPlan plan).portfolio = engine.portfolio ∧ (engine.onOrderPlan plan).ledger = engine.ledger := by
  have orders : ∀ (orders : List ChildOrder) (engine : PaperTradingEngine),
      (orders.foldl (PaperTradingEngine.recordOrder plan) engine).portfolio = engine.portfolio ∧
        (orders.foldl (PaperTradingEngine.recordOrder plan) engine).ledger = engine.ledger := by
    intro orders
    induction orders with
    | nil => exact fun _ => ⟨rfl,rfl⟩
    | cons order rest ih => exact fun engine => ih (engine.recordOrder plan order)
  exact orders plan.orders _
theorem portfolioNext {engine : PaperTradingEngine} (same : engine.portfolio = engine.ledger.positions) (input) :
    (engineStep engine input).1.portfolio = (engineStep engine input).1.ledger.positions := by
  cases input with
  | executionReport report =>
    unfold engineStep PaperTradingEngine.onExecutionReport
    simp only
    split
    · exact handleFollows same
    · exact same
  | orderPlan plan =>
    obtain ⟨portfolio,ledger⟩ := planKeepsFills engine plan
    exact portfolio.trans (same.trans (congrArg PaperLedger.positions ledger).symm)
  | markSnapshot snapshot => exact same
  | observation => exact same

end Polytope.PaperIdempotence
