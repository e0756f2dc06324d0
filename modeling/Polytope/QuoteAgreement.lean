import Polytope.QuoteSoundness

/-! The risk evaluator next to the builder whose quotes it has to accept: both work out how much of an inventory
may be reduced, each in its own way. -/
namespace Polytope.QuoteAgreement
open FixedPointMath MarketDepth QuoteTypes QuoteRisk QuoteBuilding QuoteSoundness

/-! When the evaluator refuses a quote as one that unwinds wrongly. -/

def unwindReasons : List String :=
  ["unwind quote contains non-reducing side","reduce-only quantity exceeds reducible inventory"]
def BlockedAsInvalid (r : QuoteRiskResult) : Prop :=
  r.decision.decision = .rejectInvalidQuote ∧ r.decision.reason ∈ unwindReasons
instance (r) : Decidable (BlockedAsInvalid r) := by unfold BlockedAsInvalid; infer_instance
def Refused (cs : List QuoteCheck) : Prop :=
  ∃ c, cs.find? QuoteCheck.refused = some c ∧ c.decision = .rejectInvalidQuote ∧ c.reason ∈ unwindReasons

theorem refusedHere {refused decision reason rest} (invalid : decision = .rejectInvalidQuote)
    (listed : reason ∈ unwindReasons) :
    Refused (⟨refused,decision,reason⟩::rest) ↔ refused = true ∨ (refused = false ∧ Refused rest) := by
  unfold Refused
  cases refused with
  | true => simp [invalid,listed]
  | false => simp
theorem refusedLater {refused decision reason rest} (other : reason ∉ unwindReasons) :
    Refused (⟨refused,decision,reason⟩::rest) ↔ refused = false ∧ Refused rest := by
  unfold Refused
  cases refused with
  | true => simp [other]
  | false => simp
theorem refusedNil : ¬ Refused [] := by
  rintro ⟨c,found,_⟩
  cases found
theorem refusedAppend {left right} (other : ∀ c ∈ left, c.reason ∉ unwindReasons) :
    Refused (left ++ right) ↔ (∀ c ∈ left, c.refused = false) ∧ Refused right := by
  induction left with
  | nil => simp
  | cons c rest ih =>
    obtain ⟨refused,decision,reason⟩ := c
    obtain ⟨here,later⟩ := List.forall_mem_cons.mp other
    rw [List.cons_append,refusedLater here,ih later,List.forall_mem_cons,and_assoc]

theorem blockedRefused {input quote policy} (quoted : input.quote = some quote)
    (governed : input.policy = some policy) :
    BlockedAsInvalid (evaluate input) ↔ quotable quote = true ∧ Refused (checks input quote policy) := by
  unfold BlockedAsInvalid Refused
  rw [evaluateQuoted quoted governed,evaluateReason quoted governed]
  cases quotable quote with
  | false =>
    rw [if_pos rfl,if_pos rfl]
    exact ⟨fun h => absurd h.2 (by decide),fun h => absurd h.1 Bool.false_ne_true⟩
  | true =>
    rw [if_neg (by decide),if_neg (by decide)]
    cases (checks input quote policy).find? QuoteCheck.refused with
    | none => exact ⟨fun h => absurd h.1 (by decide),fun ⟨_,_,found,_⟩ => nomatch found⟩
    | some c =>
      constructor
      · rintro ⟨decision,reason⟩
        exact ⟨rfl,c,rfl,decision,reason⟩
      · rintro ⟨_,c',found,decision,reason⟩
        cases Option.some.inj found
        exact ⟨decision,reason⟩

def OtherReasons (cs : List QuoteCheck) : Prop := ∀ c ∈ cs, c.reason ∉ unwindReasons
theorem otherCons {refused decision reason rest} (here : reason ∉ unwindReasons) (later : OtherReasons rest) :
    OtherReasons (⟨refused,decision,reason⟩::rest) := List.forall_mem_cons.mpr ⟨here,later⟩
theorem otherNil : OtherReasons [] := fun _ none => nomatch none
theorem refusedNone {cs} (other : OtherReasons cs) : ¬ Refused cs := by
  intro refused
  rw [← List.append_nil cs] at refused
  exact refusedNil ((refusedAppend other).mp refused).2

theorem policyOther (input quote policy) : OtherReasons (policyChecks input quote policy) := by
  repeat' first | exact otherNil | refine otherCons (by decide) ?_
theorem bookOther (input quote policy depth) : OtherReasons (bookChecks input quote policy depth) := by
  repeat' first | exact otherNil | refine otherCons (by decide) ?_
theorem rewardOther (quote policy) : OtherReasons (rewardChecks quote policy) := by
  unfold rewardChecks
  split <;> repeat' first | exact otherNil | refine otherCons (by decide) ?_
theorem fairOther (input quote policy depth) : OtherReasons (fairChecks input quote policy depth) := by
  repeat' first | exact otherNil | refine otherCons (by decide) ?_
theorem limitOther (input quote policy) : OtherReasons (limitChecks input quote policy).tail := by
  repeat' first | exact otherNil | refine otherCons (by decide) ?_

-- The checks in front of the two, and the two themselves.
theorem refusedShown {input quote policy depth} (shown : input.depth = some depth) :
    Refused (checks input quote policy) ↔
    (∀ c ∈ policyChecks input quote policy, c.refused = false) ∧
    (∀ c ∈ bookChecks input quote policy depth, c.refused = false) ∧
    (!quote.hasBid && !quote.hasAsk) = false ∧ invalidSides quote = false ∧ crossesItself quote = false ∧
    (nonReducingUnwind input quote = true ∨ (nonReducingUnwind input quote = false ∧
      (∀ c ∈ rewardChecks quote policy, c.refused = false) ∧
      (∀ c ∈ fairChecks input quote policy depth, c.refused = false) ∧
      (bidOverReduces input quote || askOverReduces input quote) = true)) := by
  have limits : Refused (limitChecks input quote policy) ↔
    (bidOverReduces input quote || askOverReduces input quote) = true := by
    refine (refusedHere rfl (by decide)).trans ⟨fun h => h.elim id fun h => ?_,.inl⟩
    exact absurd h.2 (refusedNone (limitOther input quote policy))
  unfold checks
  rw [shown]
  simp only [List.append_assoc]
  rw [refusedAppend (policyOther input quote policy),refusedAppend (bookOther input quote policy depth)]
  refine and_congr_right fun _ => and_congr_right fun _ => ?_
  refine (refusedLater (by decide)).trans (and_congr_right fun _ => ?_)
  refine (refusedLater (by decide)).trans (and_congr_right fun _ => ?_)
  refine (refusedLater (by decide)).trans (and_congr_right fun _ => ?_)
  refine (refusedHere rfl (by decide)).trans (or_congr_right (and_congr_right fun _ => ?_))
  change Refused (rewardChecks quote policy ++
    (fairChecks input quote policy depth ++ limitChecks input quote policy)) ↔ _
  rw [refusedAppend (rewardOther quote policy),refusedAppend (fairOther input quote policy depth),limits]

-- The part of the evaluator's verdict that no policy, book or clock decides.
def Blockable (input : QuoteRiskInput) (quote : QuoteIntent) : Prop :=
  quotable quote = true ∧ quote.expiresAtNs ≠ 0 ∧ (quote.hasBid = true ∨ quote.hasAsk = true) ∧
    invalidSides quote = false ∧ crossesItself quote = false ∧
    (nonReducingUnwind input quote = true ∨ (crossesFair input quote = false ∧
      (bidOverReduces input quote || askOverReduces input quote) = true))

theorem blockedBlockable {input quote policy} (quoted : input.quote = some quote)
    (governed : input.policy = some policy)
    (blocked : BlockedAsInvalid (evaluate input)) : Blockable input quote := by
  obtain ⟨quotable,refused⟩ := (blockedRefused quoted governed).mp blocked
  cases shown : input.depth with
  | none =>
    unfold checks at refused
    rw [shown,refusedAppend (policyOther input quote policy)] at refused
    exact absurd ((refusedLater (by decide)).mp refused.2).1 (by decide)
  | some depth =>
    obtain ⟨policyPass,-,sided,valid,uncrossed,last⟩ := (refusedShown shown).mp refused
    have alive := policyPass ⟨quote.expiresAtNs ≤ input.nowNs,.rejectExpiredQuote,"quote expired"⟩
      (by unfold policyChecks; simp only [List.mem_cons,true_or,or_true])
    refine ⟨quotable,?_,?_,valid,uncrossed,last.imp id fun ⟨_,_,fair,exceeds⟩ => ⟨?_,exceeds⟩⟩
    · have later := of_decide_eq_false alive
      omega
    · cases bid : quote.hasBid <;> cases ask : quote.hasAsk <;> simp [bid,ask] at sided ⊢
    · exact fair ⟨crossesFair input quote,.rejectFairValueDeviation,"quote side crosses fair value"⟩
        (.tail _ (.head _))

def permissive (quote : QuoteIntent) (currentPositionLots : Int) : QuoteRiskInput :=
  {quote := some quote, depth := some calmBook, policy := some {}, currentPositionLots}
theorem permissiveBlocked {quote pos} (blockable : Blockable (permissive quote pos) quote) :
    BlockedAsInvalid (evaluate (permissive quote pos)) := by
  obtain ⟨quotable,expires,sided,valid,uncrossed,last⟩ := blockable
  refine (blockedRefused rfl rfl).mpr ⟨quotable,(refusedShown rfl).mpr ⟨?_,?_,?_,valid,uncrossed,?_⟩⟩
  · have alive : decide (quote.expiresAtNs ≤ 0) = false := decide_eq_false (by omega)
    refine List.forall_mem_cons.mpr
      ⟨rfl,List.forall_mem_cons.mpr ⟨rfl,List.forall_mem_cons.mpr ⟨rfl,List.forall_mem_cons.mpr
      ⟨rfl,List.forall_mem_cons.mpr ⟨rfl,List.forall_mem_cons.mpr ⟨rfl,List.forall_mem_cons.mpr ⟨alive,?_⟩⟩⟩⟩⟩⟩⟩
    exact fun _ none => nomatch none
  · refine List.forall_mem_cons.mpr
      ⟨rfl,List.forall_mem_cons.mpr ⟨rfl,List.forall_mem_cons.mpr ⟨rfl,List.forall_mem_cons.mpr
      ⟨rfl,List.forall_mem_cons.mpr
        ⟨rfl,List.forall_mem_cons.mpr ⟨rfl,List.forall_mem_cons.mpr ⟨rfl,List.forall_mem_cons.mpr
      ⟨rfl,?_⟩⟩⟩⟩⟩⟩⟩⟩
    exact fun _ none => nomatch none
  · rcases sided with h | h <;> simp [h]
  · cases opening : nonReducingUnwind (permissive quote pos) quote with
    | true => exact .inl rfl
    | false =>
      obtain ⟨fair,exceeds⟩ := last.resolve_left (Bool.eq_false_iff.mp opening)
      refine .inr ⟨rfl,(fun _ none => nomatch none),?_,exceeds⟩
      have unbounded : ∀ leg fairValueTick, quoteDeviatesTooFar leg fairValueTick 0 0 = false := by
        intro leg fairValueTick
        simp [quoteDeviatesTooFar,fairDeviationThreshold]
      refine List.forall_mem_cons.mpr
        ⟨rfl,List.forall_mem_cons.mpr ⟨fair,List.forall_mem_cons.mpr ⟨?_,List.forall_mem_cons.mpr
        ⟨?_,fun _ none => nomatch none⟩⟩⟩⟩
      · change ((_ && _ && quoteDeviatesTooFar _ _ 0 0) || (_ && _ && quoteDeviatesTooFar _ _ 0 0)) = false
        rw [unbounded,unbounded,Bool.and_false,Bool.and_false]
        rfl
      · change ((quote.hasBid && !true && _) || (quote.hasAsk && !true && _)) = false
        simp

theorem blockableSame {a b quote} (same : a.currentPositionLots = b.currentPositionLots)
    (blockable : Blockable a quote) :
    Blockable b quote := by
  unfold Blockable nonReducingUnwind crossesFair bidOverReduces askOverReduces reducibleQtyLots bidReducesInventory
    askReducesInventory at blockable ⊢
  rw [same] at blockable
  exact blockable

/-! Builder and evaluator agree on how much may be reduced. -/

-- What the evaluator takes as reducible on a side, for the type and target the builder puts into the quote.
def reducible (config : MarketMakingConfig) (input : QuoteBuildInput) (side : QuoteSide) : Int :=
  reducibleQtyLots {currentPositionLots := input.currentPositionLots}
    {type := quoteType config input, targetPositionLots := config.targetPositionLots} side true
structure CapsAgree (config : MarketMakingConfig) (depth : MarketDepthView) (input : QuoteBuildInput) : Prop where
  bid : bidReduces config input = true → bidStands config depth input = true →
    min input.size.bidQtyLots (reduceQtyCap config input .bid) ≤ reducible config input .bid
  ask : askReduces config input = true → askStands config depth input = true →
    min input.size.askQtyLots (reduceQtyCap config input .ask) ≤ reducible config input .ask
  unwind : quoteType config input = .passiveUnwind ∨ quoteType config input = .forcedUnwind →
    (bidStands config depth input = true → bidReduces config input = true) ∧
    (askStands config depth input = true → askReduces config input = true)
-- What the evaluator asks of every quote, whatever the policy, the book and the clock.
structure Presentable (config : MarketMakingConfig) (depth : MarketDepthView)
    (input : QuoteBuildInput) : Prop where
  type : quoteType config input ∈ [.placeQuote,.replaceQuote,.passiveUnwind,.forcedUnwind]
  expires : (input.nowNs + config.quoteTtlNs) % 2^64 ≠ 0
  bid : bidStands config depth input = true → 0 < (shownPrices config depth input).1 ∧ 0 < bidLots config input
  ask : askStands config depth input = true → 0 < (shownPrices config depth input).2 ∧ 0 < askLots config input
  bidFair : ¬ (quoteType config input = .passiveUnwind ∨ quoteType config input = .forcedUnwind) →
    bidStands config depth input = true →
    bidReduces config input = false → (shownPrices config depth input).1 < input.fairValue.fairValueTick
  askFair : ¬ (quoteType config input = .passiveUnwind ∨ quoteType config input = .forcedUnwind) →
    askStands config depth input = true →
    askReduces config input = false → input.fairValue.fairValueTick < (shownPrices config depth input).2

section
variable {config : MarketMakingConfig} {depth : MarketDepthView} {input : QuoteBuildInput} {quote : QuoteIntent}

theorem builtBidReduces (built : Built config depth input quote) :
    bidReducesInventory (permissive quote input.currentPositionLots) quote =
      (bidStands config depth input && bidReduces config input) := by
  unfold bidReducesInventory bidReduces permissive
  rw [built.hasBid,built.target]
  simp
theorem builtAskReduces (built : Built config depth input quote) :
    askReducesInventory (permissive quote input.currentPositionLots) quote =
      (askStands config depth input && askReduces config input) := by
  unfold askReducesInventory askReduces permissive
  rw [built.hasAsk,built.target]
  simp
theorem builtReducible (built : Built config depth input quote) (side) :
    reducibleQtyLots (permissive quote input.currentPositionLots) quote side true =
      reducible config input side := by
  unfold reducible reducibleQtyLots permissive
  rw [built.type,built.target]

theorem builtBidOver (built : Built config depth input quote) :
    bidOverReduces (permissive quote input.currentPositionLots) quote = true ↔
      bidReduces config input = true ∧ bidStands config depth input = true ∧
        ¬ min input.size.bidQtyLots (reduceQtyCap config input .bid) ≤ reducible config input .bid := by
  unfold bidOverReduces
  rw [builtBidReduces built,decide_eq_true_iff,Bool.and_eq_true]
  constructor
  · rintro ⟨⟨stands,reduces⟩,exceeds⟩
    rw [stands,reduces,Bool.and_self,builtReducible built,built.bidQty (built.hasBid.trans stands) reduces,bidQty,
      if_pos reduces] at exceeds
    exact ⟨reduces,stands,not_le.mpr exceeds⟩
  · rintro ⟨reduces,stands,exceeds⟩
    refine ⟨⟨stands,reduces⟩,?_⟩
    rw [stands,reduces,Bool.and_self,builtReducible built,built.bidQty (built.hasBid.trans stands) reduces,bidQty,
      if_pos reduces]
    exact not_le.mp exceeds
theorem builtAskOver (built : Built config depth input quote) :
    askOverReduces (permissive quote input.currentPositionLots) quote = true ↔
      askReduces config input = true ∧ askStands config depth input = true ∧
        ¬ min input.size.askQtyLots (reduceQtyCap config input .ask) ≤ reducible config input .ask := by
  unfold askOverReduces
  rw [builtAskReduces built,decide_eq_true_iff,Bool.and_eq_true]
  constructor
  · rintro ⟨⟨stands,reduces⟩,exceeds⟩
    rw [stands,reduces,Bool.and_self,builtReducible built,built.askQty (built.hasAsk.trans stands) reduces,askQty,
      if_pos reduces] at exceeds
    exact ⟨reduces,stands,not_le.mpr exceeds⟩
  · rintro ⟨reduces,stands,exceeds⟩
    refine ⟨⟨stands,reduces⟩,?_⟩
    rw [stands,reduces,Bool.and_self,builtReducible built,built.askQty (built.hasAsk.trans stands) reduces,askQty,
      if_pos reduces]
    exact not_le.mp exceeds

theorem builtUnwind (built : Built config depth input quote) : isUnwindQuote quote = true ↔
    quoteType config input = .passiveUnwind ∨ quoteType config input = .forcedUnwind := by
  unfold isUnwindQuote
  rw [built.type,decide_eq_true_iff]
theorem builtNonReducing (built : Built config depth input quote) :
    nonReducingUnwind (permissive quote input.currentPositionLots) quote = true ↔
      (quoteType config input = .passiveUnwind ∨ quoteType config input = .forcedUnwind) ∧
        ¬ ((bidStands config depth input = true → bidReduces config input = true) ∧
          (askStands config depth input = true → askReduces config input = true)) := by
  unfold nonReducingUnwind
  rw [builtBidReduces built,builtAskReduces built,built.hasBid,built.hasAsk,decide_eq_true_iff,builtUnwind built]
  refine and_congr_right fun _ => ?_
  cases bidStands config depth input <;> cases askStands config depth input <;>
    cases bidReduces config input <;> cases askReduces config input <;> decide

-- In an unwind whose sides all reduce inventory, every side is exempt from the fair value check.
theorem unwindFair (unwind : isUnwindQuote quote = true)
    (reducing : nonReducingUnwind (permissive quote input.currentPositionLots) quote = false) :
    crossesFair (permissive quote input.currentPositionLots) quote = false := by
  have sides := of_decide_eq_false reducing
  rw [not_and,not_or,not_and,not_and,Bool.not_eq_false,Bool.not_eq_false] at sides
  obtain ⟨bid,ask⟩ := sides unwind
  refine decide_eq_false ?_
  rintro (⟨has,held,_⟩ | ⟨has,held,_⟩)
  · rw [bid has] at held
    exact of_decide_eq_false held ⟨rfl,.inr (.inr unwind)⟩
  · rw [ask has] at held
    exact of_decide_eq_false held ⟨rfl,.inr (.inr unwind)⟩

theorem builtCaps (built : Built config depth input quote) : CapsAgree config depth input ↔
    nonReducingUnwind (permissive quote input.currentPositionLots) quote = false ∧
      (bidOverReduces (permissive quote input.currentPositionLots) quote ||
        askOverReduces (permissive quote input.currentPositionLots) quote) = false := by
  rw [Bool.or_eq_false_iff,← Bool.not_eq_true,← Bool.not_eq_true (bidOverReduces _ _),← Bool.not_eq_true
    (askOverReduces _ _),
    builtNonReducing built,builtBidOver built,builtAskOver built]
  constructor
  · rintro ⟨bid,ask,unwind⟩
    exact ⟨fun h => h.2 (unwind h.1),fun h => h.2.2 (bid h.1 h.2.1),fun h => h.2.2 (ask h.1 h.2.1)⟩
  · rintro ⟨unwind,bid,ask⟩
    refine ⟨fun reduces stands => ?_,fun reduces stands => ?_,fun type => ?_⟩
    · by_contra exceeds
      exact bid ⟨reduces,stands,exceeds⟩
    · by_contra exceeds
      exact ask ⟨reduces,stands,exceeds⟩
    · by_contra opening
      exact unwind ⟨type,opening⟩

theorem builtQuotable (built : Built config depth input quote) : quotable quote = true ↔
    quote.quoteIntentId ≠ 0 ∧
      quoteType config input ∈ [.placeQuote,.replaceQuote,.passiveUnwind,.forcedUnwind] := by
  unfold quotable isUnwindQuote
  rw [built.type,decide_eq_true_iff,decide_eq_true_iff]
  simp
theorem shownValid (shown : Shown config depth input quote) : invalidSides quote = false ↔
    (bidStands config depth input = true → 0 < (shownPrices config depth input).1 ∧ 0 < bidLots config input) ∧
      (askStands config depth input = true →
        0 < (shownPrices config depth input).2 ∧ 0 < askLots config input) := by
  have bid (has : quote.hasBid = true) : activeSideValid quote.bid = true ↔
      0 < (shownPrices config depth input).1 ∧ 0 < bidLots config input := by
    rw [activeSideValid,(shown.bid has).price,(shown.bid has).lots,decide_eq_true_iff]
  have ask (has : quote.hasAsk = true) : activeSideValid quote.ask = true ↔
      0 < (shownPrices config depth input).2 ∧ 0 < askLots config input := by
    rw [activeSideValid,(shown.ask has).price,(shown.ask has).lots,decide_eq_true_iff]
  rw [invalidSides,Bool.or_eq_false_iff,Bool.and_eq_false_imp,Bool.and_eq_false_imp,Bool.not_eq_false',
    Bool.not_eq_false',
    ← shown.hasBid,← shown.hasAsk]
  exact and_congr (forall_congr' bid) (forall_congr' ask)
-- A side that reduces is flagged so, and is exempt from the fair value check; no other side is, outside an unwind.
theorem bidExempt (built : Built config depth input quote) (has : quote.hasBid = true) :
    allowsFairExemption quote quote.bid
      (bidReducesInventory (permissive quote input.currentPositionLots) quote) = bidReduces config input := by
  rw [builtBidReduces built,← built.hasBid,has,Bool.true_and,allowsFairExemption,built.bidFlag has]
  cases bidReduces config input <;> simp
theorem askExempt (built : Built config depth input quote) (has : quote.hasAsk = true) :
    allowsFairExemption quote quote.ask
      (askReducesInventory (permissive quote input.currentPositionLots) quote) = askReduces config input := by
  rw [builtAskReduces built,← built.hasAsk,has,Bool.true_and,allowsFairExemption,built.askFlag has]
  cases askReduces config input <;> simp
theorem shownFair (built : Built config depth input quote) (shown : Shown config depth input quote) :
    crossesFair (permissive quote input.currentPositionLots) quote = false ↔
      (bidStands config depth input = true → bidReduces config input = false →
        (shownPrices config depth input).1 < input.fairValue.fairValueTick) ∧
      (askStands config depth input = true → askReduces config input = false →
        input.fairValue.fairValueTick < (shownPrices config depth input).2) := by
  rw [crossesFair,decide_eq_false_iff_not,not_or,built.fair,← shown.hasBid,← shown.hasAsk]
  refine and_congr ?_ ?_
  · rw [not_and]
    refine forall_congr' fun has => ?_
    rw [not_and,bidExempt built has,(shown.bid has).price,not_le]
  · rw [not_and]
    refine forall_congr' fun has => ?_
    rw [not_and,askExempt built has,(shown.ask has).price,not_le]
theorem builtPresentable (built : Built config depth input quote) (shown : Shown config depth input quote) :
    quote.quoteIntentId ≠ 0 ∧ Presentable config depth input ↔
      quotable quote = true ∧ quote.expiresAtNs ≠ 0 ∧ invalidSides quote = false ∧
        (isUnwindQuote quote = false →
          crossesFair (permissive quote input.currentPositionLots) quote = false) := by
  rw [builtQuotable built,built.expires,shownValid shown,shownFair built shown,←
    Bool.not_eq_true,builtUnwind built]
  constructor
  · rintro ⟨id,type,expires,bid,ask,bidFair,askFair⟩
    exact ⟨⟨id,type⟩,expires,⟨bid,ask⟩,fun placed => ⟨bidFair placed,askFair placed⟩⟩
  · rintro ⟨⟨id,type⟩,expires,⟨bid,ask⟩,fair⟩
    exact ⟨id,type,expires,bid,ask,fun placed => (fair placed).1,fun placed => (fair placed).2⟩

theorem builtBlockable (built : Built config depth input quote) (shown : Shown config depth input quote)
    (sided : quote.hasBid = true ∨ quote.hasAsk = true) :
    Blockable (permissive quote input.currentPositionLots) quote ↔
      (quote.quoteIntentId ≠ 0 ∧ Presentable config depth input) ∧ ¬ CapsAgree config depth input := by
  have uncrossed : crossesItself quote = false :=
    decide_eq_false fun ⟨bid,ask,crossed⟩ => absurd crossed (not_le.mpr (built.uncrossed bid ask))
  rw [builtPresentable built shown,builtCaps built]
  constructor
  · rintro ⟨quotable,expires,-,valid,-,last⟩
    rcases last with opening | ⟨unfair,exceeds⟩
    · have unwind := (of_decide_eq_true opening).1
      refine ⟨⟨quotable,expires,valid,fun placed =>
        absurd (placed.symm.trans unwind) Bool.false_ne_true⟩,fun clear => ?_⟩
      exact absurd (clear.1.symm.trans opening) Bool.false_ne_true
    · refine ⟨⟨quotable,expires,valid,fun _ => unfair⟩,fun clear => ?_⟩
      exact absurd (clear.2.symm.trans exceeds) Bool.false_ne_true
  · rintro ⟨⟨quotable,expires,valid,fair⟩,apart⟩
    refine ⟨quotable,expires,sided,valid,uncrossed,?_⟩
    cases reducing : nonReducingUnwind (permissive quote input.currentPositionLots) quote with
    | true => exact .inl rfl
    | false =>
      refine .inr ⟨?_,(Bool.not_eq_false _).mp fun within => apart ⟨reducing,within⟩⟩
      cases unwind : isUnwindQuote quote with
      | true => exact unwindFair unwind reducing
      | false => exact fair unwind

end

theorem neverBlocked {input : QuoteRiskInput} (missing : input.quote = none ∨ input.policy = none) :
    ¬ BlockedAsInvalid (evaluate input) := by
  have reason : (evaluate input).decision.reason = "invalid quote input" := by
    unfold evaluate
    rcases missing with h | h
    · rw [h]
      rfl
    · rw [h]
      cases input.quote <;> rfl
  rintro ⟨-,listed⟩
  rw [reason] at listed
  exact absurd listed (by decide)

theorem builderAndRiskAgreeIff (input : QuoteBuildInput) :
    (∀ quote, build input = .ok quote → ∀ r : QuoteRiskInput, r.quote = some quote →
      r.currentPositionLots = input.currentPositionLots → ¬ BlockedAsInvalid (evaluate r)) ↔
    ∀ config depth quote, input.config = some config → input.depth = some depth → build input = .ok quote →
      quote.quoteIntentId = 0 ∨ ¬ Presentable config depth input ∨ CapsAgree config depth input := by
  constructor
  · intro never config depth quote configured seen made
    obtain ⟨config',depth',configured',seen',built,sided⟩ := buildBuilt made
    cases configured.symm.trans configured'
    cases seen.symm.trans seen'
    have unblocked := fun h => never quote made _ rfl rfl (permissiveBlocked h)
    rw [builtBlockable built (buildShown configured seen made).1 sided] at unblocked
    by_contra apart
    rw [not_or,not_or,not_not] at apart
    exact unblocked ⟨⟨apart.1,apart.2.1⟩,apart.2.2⟩
  · intro apart quote made r quoted position blocked
    obtain ⟨config,depth,configured,seen,built,sided⟩ := buildBuilt made
    cases governed : r.policy with
    | none => exact neverBlocked (.inr governed) blocked
    | some policy =>
      have h : Blockable (permissive quote input.currentPositionLots) quote :=
        blockableSame position (blockedBlockable quoted governed blocked)
      obtain ⟨⟨id,presentable⟩,exceeds⟩ := (builtBlockable built (buildShown configured seen made).1 sided).mp h
      rcases apart config depth quote configured seen made with zero | hidden | caps
      · exact id zero
      · exact hidden presentable
      · exact exceeds caps

-- No position, a target of 50 and 100 at most: the builder may buy up to 100, the evaluator allows 50.
def forcedConfig : MarketMakingConfig := {baseQuoteSizeLots := 30, targetPositionLots := 50}
def forcedInput : QuoteBuildInput :=
  { depth := some deepBook
    config := some forcedConfig
    fairValue := {ok := true, fairValueTick := 400000}
    spread := computeSpread forcedConfig
    size := quoteSize exactScaledSize forcedConfig deepBook 0
    nowNs := 1000 }
theorem forcedUnwindBlocked :
    forcedConfig.minInventoryLots ≤ forcedConfig.targetPositionLots ∧
    forcedConfig.targetPositionLots ≤ forcedConfig.maxInventoryLots ∧
    ∃ quote ∈ (build forcedInput).toOption,
      BlockedAsInvalid (evaluate (permissive quote forcedInput.currentPositionLots)) := by
  decide +kernel

end Polytope.QuoteAgreement
