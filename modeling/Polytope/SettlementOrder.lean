import Polytope.MarketShard
import Mathlib.Data.List.Induction

/-! Settlement over runs of a shard: which events write it, when a resolution is final and when a market
is closed only by an event that says so. The entity store closes an entity on market_closed and
market_resolved alone; the shard closes the market on every lifecycle event. -/
namespace Polytope.SettlementOrder
open MarketShard

def settles (event : MarketStateEvent) : Bool :=
  decide (event.type = .wsLifecycle) || decide (event.type = .chainSettlement)
def resolves (event : MarketStateEvent) : Bool :=
  decide (event.type = .wsLifecycle) && decide (event.wsEvent.winningAssetId ≠ "")
def statusFor (event : MarketStateEvent) : SettlementStatus := if resolves event = true then .resolved else .closed
def winnerFor (event : MarketStateEvent) : String :=
  if resolves event = true then event.wsEvent.winningAssetId else ""
def announces (event : MarketStateEvent) : Bool :=
  decide (event.type = .chainSettlement) ||
    (decide (event.type = .wsLifecycle) &&
      (decide (event.wsEvent.rawType = "market_closed") || decide (event.wsEvent.rawType = "market_resolved")))

def settlementOf (shard : LOBShard) (marketId : String) : Option SettlementState :=
  shard.settlementWriter.get marketId
def statusOf (shard : LOBShard) (marketId : String) : Option SettlementStatus :=
  (settlementOf shard marketId).map SettlementState.status

/-! What one event writes. -/

theorem noteQualitySettlement (out : LOBShard × StateApplyResult) (assetId : String) :
    (noteQuality out assetId).1.settlementWriter = out.1.settlementWriter := by
  unfold noteQuality
  split
  · rfl
  · simp only
    split <;> rfl
theorem fingerprintSettlement (out : LOBShard × StateApplyResult) (assetId : String) :
    (fingerprint out assetId).1.settlementWriter = out.1.settlementWriter := by
  unfold fingerprint
  simp only
  split <;> rfl
theorem publishSettlement (out : LOBShard × StateApplyResult) (event : MarketStateEvent) :
    (publishAfterApply out event).1.settlementWriter = out.1.settlementWriter := by
  unfold publishAfterApply publishAssetSnapshot
  simp only
  split
  · rfl
  · split <;> rfl
theorem settleGet (writer : SettlementStateWriter) (event : MarketStateEvent) (marketId : String) :
    ∃ block version, (settle writer event).1.get marketId =
      if marketIdForEvent event ≠ "" ∧ marketIdForEvent event = marketId then
        some ⟨statusFor event,decide (statusFor event = .resolved),winnerFor event,block,version⟩
      else writer.get marketId := by
  have written : ∀ status winner block, ∃ version,
    (writer.applyStatus (marketIdForEvent event) status winner block).1.get marketId =
      if marketIdForEvent event ≠ "" ∧ marketIdForEvent event = marketId then
        some ⟨status,decide (status = .resolved),winner,block,version⟩
      else writer.get marketId := by
    intro status winner block
    refine ⟨((writer.get (marketIdForEvent event)).getD {}).version + 1,?_⟩
    unfold SettlementStateWriter.applyStatus SettlementStateWriter.get
    by_cases missing : marketIdForEvent event = ""
    · simp [missing]
    · by_cases same : marketIdForEvent event = marketId
      · subst same
        simp [missing]
      · simp [missing,same,AList.lookup_insert_ne (Ne.symm same)]
  unfold settle
  by_cases lifecycle : event.type = .wsLifecycle
  · by_cases winner : event.wsEvent.winningAssetId = ""
    · obtain ⟨version,eq⟩ := written .closed "" event.wsEvent.packetId
      refine ⟨event.wsEvent.packetId,version,?_⟩
      rw [if_neg (fun both => both.2 winner),if_pos lifecycle]
      simpa [SettlementStateWriter.markClosed,statusFor,winnerFor,resolves,winner] using eq
    · obtain ⟨version,eq⟩ := written .resolved event.wsEvent.winningAssetId event.wsEvent.packetId
      refine ⟨event.wsEvent.packetId,version,?_⟩
      rw [if_pos ⟨lifecycle,winner⟩]
      simpa [SettlementStateWriter.markResolved,statusFor,winnerFor,resolves,lifecycle,winner] using eq
  · obtain ⟨version,eq⟩ := written .closed "" event.sourceSequence
    refine ⟨event.sourceSequence,version,?_⟩
    rw [if_neg (fun both => lifecycle both.1),if_neg lifecycle]
    simpa [SettlementStateWriter.markClosed,statusFor,winnerFor,resolves,lifecycle] using eq
theorem dispatchSettlement (shard : LOBShard) (event : MarketStateEvent) :
    (dispatch shard event).1.settlementWriter =
      if settles event = true then (settle shard.settlementWriter event).1 else shard.settlementWriter := by
  unfold dispatch settles
  cases kind : event.type with
  | wsLifecycle =>
    simp only [applyLifecycle]
    split <;> rfl
  | chainSettlement => rfl
  | _ => rfl
theorem applySettlement (shard : LOBShard) (event : MarketStateEvent) (marketId : String) :
    ∃ block version, settlementOf (apply shard event).1 marketId =
      if settles event = true ∧ marketIdForEvent event ≠ "" ∧ marketIdForEvent event = marketId then
        some ⟨statusFor event,decide (statusFor event = .resolved),winnerFor event,block,version⟩
      else settlementOf shard marketId := by
  obtain ⟨block,version,written⟩ := settleGet shard.settlementWriter event marketId
  refine ⟨block,version,?_⟩
  unfold apply settlementOf
  rw [publishSettlement,fingerprintSettlement,noteQualitySettlement,dispatchSettlement]
  by_cases writes : settles event = true
  · rw [if_pos writes,written]
    simp only [writes,true_and]
  · rw [if_neg writes,if_neg (fun all => writes all.1)]

/-! Runs. -/

def after (shard : LOBShard) (events : List MarketStateEvent) : LOBShard := (Machine.run apply shard [] events).1

def ResolvedWith (shard : LOBShard) (marketId winner : String) : Prop :=
  ∃ state, settlementOf shard marketId = some state ∧ state.status = .resolved ∧ state.winningAssetId = winner
def Becomes (before next : LOBShard) (marketId : String) (status : SettlementStatus) : Prop :=
  statusOf next marketId = some status ∧ statusOf before marketId ≠ some status

structure Monotone (shard : LOBShard) (events : List MarketStateEvent) : Prop where
  stays : ∀ before more rest, events = before ++ more ++ rest → ∀ marketId winner, winner ≠ "" →
    ResolvedWith (after shard before) marketId winner → ResolvedWith (after shard (before ++ more)) marketId winner
  announced : ∀ before event rest, events = before ++ event::rest →
    ∀ marketId status, status = .closed ∨ status = .resolved →
    Becomes (after shard before) (after shard (before ++ [event])) marketId status → announces event = true

-- What has to be true of an event and the settlement it meets.
def Orderly (shard : LOBShard) (event : MarketStateEvent) : Prop :=
  settles event = true → marketIdForEvent event ≠ "" →
    (∀ state ∈ settlementOf shard (marketIdForEvent event), state.status = .resolved →
      resolves event = true ∧ event.wsEvent.winningAssetId = state.winningAssetId) ∧
    (announces event = true ∨ statusOf shard (marketIdForEvent event) = some (statusFor event))

def WinnersNamed (shard : LOBShard) : Prop :=
  ∀ marketId, ∀ state ∈ settlementOf shard marketId, state.status = .resolved → state.winningAssetId ≠ ""

theorem winnersNamedStep {shard : LOBShard} (named : WinnersNamed shard) (event : MarketStateEvent) :
    WinnersNamed (apply shard event).1 := by
  intro marketId state found resolved
  obtain ⟨block,version,eq⟩ := applySettlement shard event marketId
  rw [eq] at found
  split at found
  · cases found
    simp only [statusFor] at resolved
    split at resolved
    · next winner =>
      simp only [winnerFor,winner,if_true]
      have both : event.type = .wsLifecycle ∧ event.wsEvent.winningAssetId ≠ "" := by simpa [resolves] using winner
      exact both.2
    · cases resolved
  · exact named marketId state found resolved

-- One event: it keeps every resolution and announces every close exactly when it is orderly.
structure StepMonotone (shard : LOBShard) (event : MarketStateEvent) : Prop where
  stays : ∀ marketId winner, winner ≠ "" → ResolvedWith shard marketId winner →
    ResolvedWith (apply shard event).1 marketId winner
  announced : ∀ marketId status, status = .closed ∨ status = .resolved →
    Becomes shard (apply shard event).1 marketId status →
    announces event = true

theorem orderlyStays {shard : LOBShard} {event : MarketStateEvent} (orderly : Orderly shard event)
    {marketId winner : String}
    (resolved : ResolvedWith shard marketId winner) : ResolvedWith (apply shard event).1 marketId winner := by
  obtain ⟨state,found,status,named⟩ := resolved
  obtain ⟨block,version,eq⟩ := applySettlement shard event marketId
  unfold ResolvedWith
  rw [eq]
  split
  · next writes =>
    obtain ⟨writes,market,rfl⟩ := writes
    obtain ⟨resolves,same⟩ := (orderly writes market).1 state found status
    refine ⟨_,rfl,?_,?_⟩
    · simp only [statusFor,resolves,if_true]
    · simp only [winnerFor,resolves,if_true]
      rw [same,named]
  · exact ⟨state,found,status,named⟩
theorem orderlyAnnounced {shard : LOBShard} {event : MarketStateEvent} (orderly : Orderly shard event)
    {marketId : String}
    {status : SettlementStatus} (becomes : Becomes shard (apply shard event).1 marketId status) :
      announces event = true := by
  obtain ⟨next,before⟩ := becomes
  obtain ⟨block,version,eq⟩ := applySettlement shard event marketId
  rw [statusOf,eq] at next
  split at next
  · next writes =>
    obtain ⟨writes,market,rfl⟩ := writes
    rcases (orderly writes market).2 with said | already
    · exact said
    · exact absurd (already.trans next) before
  · exact absurd next before
theorem monotoneOrderly {shard : LOBShard} (named : WinnersNamed shard) {event : MarketStateEvent}
    (monotone : StepMonotone shard event) :
    Orderly shard event := by
  intro writes market
  obtain ⟨block,version,eq⟩ := applySettlement shard event (marketIdForEvent event)
  rw [if_pos ⟨writes,market,rfl⟩] at eq
  constructor
  · intro state found status
    obtain ⟨last,there,resolved,same⟩ := monotone.stays _ _ (named _ state found status) ⟨state,found,status,rfl⟩
    cases eq.symm.trans there
    have resolves : resolves event = true := by
      by_contra closes
      simp [statusFor,closes] at resolved
    refine ⟨resolves,?_⟩
    simpa [winnerFor,resolves] using same
  · by_cases already : statusOf shard (marketIdForEvent event) = some (statusFor event)
    · exact .inr already
    · refine .inl (monotone.announced (marketIdForEvent event) (statusFor event) ?_ ⟨?_,already⟩)
      · unfold statusFor
        split
        · exact .inr rfl
        · exact .inl rfl
      · rw [statusOf,eq]
        rfl
theorem stepMonotoneIff {shard : LOBShard} (named : WinnersNamed shard) (event : MarketStateEvent) :
    StepMonotone shard event ↔ Orderly shard event :=
  ⟨monotoneOrderly named,fun orderly => ⟨fun _ _ _ => orderlyStays orderly,fun _ _ _ => orderlyAnnounced orderly⟩⟩

theorem afterSnoc (shard : LOBShard) (events : List MarketStateEvent) (event : MarketStateEvent) :
    after shard (events ++ [event]) = (apply (after shard events) event).1 := by
  unfold after
  rw [Machine.runAppend]
  rfl
theorem monotoneIffSteps (shard : LOBShard) (events : List MarketStateEvent) :
    Monotone shard events ↔ Machine.Along apply (fun shard _ event => StepMonotone shard event) shard
      [] events := by
  rw [Machine.alongIff]
  constructor
  · intro monotone before event rest split
    refine ⟨fun marketId winner named resolved => ?_,fun marketId status moved becomes => ?_⟩
    · have kept := monotone.stays before [event] rest (by rw [split]; simp) marketId winner named resolved
      rwa [afterSnoc] at kept
    · refine monotone.announced before event rest split marketId status moved ?_
      rwa [afterSnoc]
  · intro steps
    refine ⟨fun before more rest split => ?_,fun before event rest split => ?_⟩
    · -- one more event at a time, from the end of the part that is added
      induction more using List.reverseRecOn generalizing rest with
      | nil =>
        intro marketId winner named resolved
        rwa [List.append_nil]
      | append_singleton more event ih =>
        intro marketId winner named resolved
        have earlier := ih (event::rest) (by rw [split]; simp) marketId winner named resolved
        have step := steps (before ++ more) event rest (by rw [split]; simp)
        rw [← List.append_assoc,afterSnoc]
        exact step.stays marketId winner named earlier
    · rw [afterSnoc]
      exact (steps before event rest split).announced

theorem settlementMonotoneIff (hashMode : EntityStore.StateHashMode) (events : List MarketStateEvent) :
    Monotone {bookStore := {hashMode}} events ↔
      Machine.Along apply (fun shard _ event => Orderly shard event) {bookStore := {hashMode}} [] events := by
  rw [monotoneIffSteps]
  have start : WinnersNamed {bookStore := {hashMode}} := fun marketId state found => nomatch found
  constructor
  · exact Machine.alongImp (P := fun shard _ => WinnersNamed shard)
      (fun _ _ event named _ => winnersNamedStep named event)
      (fun _ _ event named => (stepMonotoneIff named event).mp) start
  · exact Machine.alongImp (P := fun shard _ => WinnersNamed shard)
      (fun _ _ event named _ => winnersNamedStep named event)
      (fun _ _ event named => (stepMonotoneIff named event).mpr) start

-- A new market announcement closes the market, and a close after the resolution takes the winner back.
def newMarket : MarketStateEvent :=
  {type := .wsLifecycle, marketId := "M", assetId := "A"
   wsEvent :=
     { eventType := .lifecycleEvent
       rawType := "new_market"
       marketId := "M"
       assetId := "A"
       entityId := "A"
       packetId := 1 } }
def resolution : MarketStateEvent :=
  {newMarket with wsEvent :=
    {newMarket.wsEvent with rawType := "market_resolved", winningAssetId := "A", packetId := 2}}
theorem newMarketCloses :
    ¬ Monotone {bookStore := {hashMode := .hotPathLight}} [newMarket] ∧
      ¬ Monotone {bookStore := {hashMode := .hotPathLight}} [resolution,newMarket] := by
  constructor
  · intro monotone
    have said := monotone.announced [] newMarket [] rfl "M" .closed (.inl rfl)
      ⟨by decide +kernel,by decide +kernel⟩
    exact absurd said (by decide)
  · intro monotone
    obtain ⟨state,found,resolved,-⟩ := monotone.stays [resolution] [newMarket] [] rfl "M" "A" (by decide)
      ⟨⟨.resolved,true,"A",2,1⟩,by decide +kernel,rfl,rfl⟩
    have closed : statusOf (after {bookStore := {hashMode := .hotPathLight}} [resolution,newMarket]) "M" =
      some .closed := by decide +kernel
    have status : statusOf (after {bookStore := {hashMode := .hotPathLight}} [resolution,newMarket]) "M" =
      some state.status :=
      congrArg (Option.map SettlementState.status) found
    rw [closed,resolved] at status
    cases status

end Polytope.SettlementOrder
