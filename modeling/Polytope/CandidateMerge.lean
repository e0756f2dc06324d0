import Polytope.CandidateCursor
import Polytope.VwapAgreement

/-! KWayCandidateCursor call by call, with its level indices, its budget test and its endless loop. A
smallest bundle quantity below one takes the zero of an exhausted leg for a candidate, and the largest
64-bit quantity is the cursor's end mark; apart from these the calls emit the merged quantities. -/
namespace Polytope.CandidateMerge
open FixedPointMath MarketDepth
open SizeCandidates (CostCurve CostCurveLevel CursorLeg Bounds stream streamRound streamMoreRounds streamEnough
  levelsLeft roundPasses)
open CurvePricing (CostForQuantityResult costForQuantity)
open VwapAgreement.OrderDecision (buyVwapFromPrefix)

structure CandidateLeg where
  curve : CostCurve := {}
  ratioQtyLots : Int := 0
  depthView : Option MarketDepthView := none
structure SizeCandidateEnumerationInput where
  curves : List CostCurve := []
  ratioQtyLots : List Int := []
  depthViews : List (Option MarketDepthView) := []
  legCount : Nat := 0
  minBundleQty : Int := 1
  maxBundleQty : Int := 0
  maxTotalCostTick : Int := 0
  usePrefixVwap : Bool := true
namespace SizeCandidateEnumerationInput
variable (input : SizeCandidateEnumerationInput)
-- The arrays hold zeros and null pointers where nothing was set.
def leg (i : Nat) : CandidateLeg :=
  ⟨input.curves.getD i {},input.ratioQtyLots.getD i 0,input.depthViews.getD i none⟩
def legs : List CandidateLeg := (List.range input.legCount).map input.leg
def bounds : Bounds := ⟨input.minBundleQty,input.maxBundleQty⟩
end SizeCandidateEnumerationInput

/-! The budget test. -/

def hasAskPrefix (view : MarketDepthView) : Bool :=
  decide (view.depthPrefix.asks ≠ [] ∧ view.depthPrefix.asks.length ≤ view.asks.length ∧
    0 < askDepthFromPrefix view.depthPrefix)
def costForQuantityRecorded (leg : CandidateLeg) (qtyLots : Int) (usePrefixVwap : Bool) : CostForQuantityResult :=
  match leg.depthView with
  | some view =>
    if usePrefixVwap && hasAskPrefix view then
      let priced := buyVwapFromPrefix view qtyLots
      ⟨priced.ok,qtyLots,priced.totalCostTick,priced.vwapTick,priced.worstPriceTick⟩
    else costForQuantity leg.curve qtyLots
  | none => costForQuantity leg.curve qtyLots

section
variable (input : SizeCandidateEnumerationInput)

def costWithin (bundleQty : Int) : Int → List CandidateLeg → Bool
  | _,[] => true
  | totalCost,leg::rest =>
    let priced := costForQuantityRecorded leg (leg.ratioQtyLots * bundleQty) input.usePrefixVwap
    if priced.ok = false then false
    else if input.maxTotalCostTick < totalCost + priced.totalCostTick then false
    else costWithin bundleQty (totalCost + priced.totalCostTick) rest
def candidateWithinBudget (bundleQty : Int) : Bool :=
  if input.maxTotalCostTick ≤ 0 then true else costWithin input bundleQty 0 input.legs

/-! The cursor. -/

def candidateAt (leg : CandidateLeg) (level : Nat) : Int :=
  match leg.curve.levels[level]? with
  | none => 0
  | some l => SizeCandidates.candidateAt input.bounds leg.ratioQtyLots l.cumulativeQtyLots
-- While there are levels and the candidate is passed.
def passLevels (leg : CandidateLeg) (passed : Int → Bool) : (remaining level : Nat) → Nat
  | 0,level => level
  | remaining + 1,level =>
    if passed (candidateAt input leg level) then passLevels leg passed remaining (level + 1) else level
def passAll (passed : Int → Bool) (levels : List Nat) : List Nat :=
  (input.legs.zip levels).map fun x => passLevels input x.1 passed (x.1.curve.levels.length - x.2) x.2

def advanceInvalidCandidates (levels : List Nat) : List Nat :=
  passAll input (fun q => decide (q < input.minBundleQty)) levels
def leastCandidate (levels : List Nat) : Int :=
  (input.legs.zip levels).foldl (fun next x =>
    let q := candidateAt input x.1 x.2
    if input.minBundleQty ≤ q ∧ q < next then q else next) i64Max
def passCandidate (next : Int) (levels : List Nat) : List Nat := passAll input (fun q => decide (q ≤ next)) levels

structure KWayCandidateCursor where
  levels : List Nat
  lastEmitted : Int := 0
  done : Bool := false
def start : KWayCandidateCursor := {levels := List.replicate input.legCount 0}

-- A call that runs out of fuel has not returned; an answer without a quantity is false.
def nextFrom : (fuel : Nat) → KWayCandidateCursor → Option (KWayCandidateCursor × Option Int)
  | 0,_ => none
  | fuel + 1,cursor =>
    let levels := advanceInvalidCandidates input cursor.levels
    let next := leastCandidate input levels
    if next = i64Max then some (⟨levels,cursor.lastEmitted,true⟩,none)
    else
      let levels := passCandidate input next levels
      if next = cursor.lastEmitted then nextFrom fuel ⟨levels,cursor.lastEmitted,cursor.done⟩
      else if candidateWithinBudget input next = false then nextFrom fuel ⟨levels,cursor.lastEmitted,cursor.done⟩
      else some (⟨levels,next,cursor.done⟩,some next)
def KWayCandidateCursor.next (fuel : Nat) (cursor : KWayCandidateCursor) :
    Option (KWayCandidateCursor × Option Int) :=
  if cursor.done = true ∨ input.legCount = 0 ∨ input.curves.length < input.legCount then some (cursor,none)
  else nextFrom input fuel cursor

-- Calls until one answers false.
def drain (fuel : Nat) : (calls : Nat) → KWayCandidateCursor → Option (List Int)
  | 0,_ => none
  | calls + 1,cursor =>
    match cursor.next input fuel with
    | none => none
    | some (_,none) => some []
    | some (cursor,some q) => (drain fuel calls cursor).map fun rest => q::rest
def enumerate (fuel calls : Nat) : Option (List Int) :=
  if input.legCount = 0 ∨ input.curves.length < input.legCount then some []
  else drain input fuel calls (start input)

/-! What the calls are to emit. -/

structure Admissible : Prop where
  covered : input.legCount ≤ input.curves.length
  positive : ∀ leg ∈ input.legs, 0 < leg.ratioQtyLots
  rising : ∀ leg ∈ input.legs, leg.curve.breakpoints.Pairwise (· < ·)
  unbudgeted : input.maxTotalCostTick ≤ 0

def quantityOf (leg : CandidateLeg) (cumulative : Int) : Int :=
  if 0 < input.maxBundleQty then min (cumulative / leg.ratioQtyLots) input.maxBundleQty
  else cumulative / leg.ratioQtyLots
def Expected (q : Int) : Prop :=
  max 1 input.minBundleQty ≤ q ∧
    ∃ leg ∈ input.legs, ∃ cumulative ∈ leg.curve.breakpoints, quantityOf input leg cumulative = q
def MergesExactly : Prop :=
  ∃ enough, ∀ fuel calls, enough ≤ fuel → enough ≤ calls → ∃ out, drain input fuel calls (start input) = some out ∧
    enumerate input fuel calls = some out ∧ out.Pairwise (· < ·) ∧ ∀ q, q ∈ out ↔ Expected input q
end

section
variable (input : SizeCandidateEnumerationInput)

theorem candidateQuantity {leg : CandidateLeg} (positive : 0 < leg.ratioQtyLots) (c : Int) :
    SizeCandidates.candidateAt input.bounds leg.ratioQtyLots c = max 0 (quantityOf input leg c) := by
  have quotient : c.tdiv leg.ratioQtyLots = c / leg.ratioQtyLots ∨
      c.tdiv leg.ratioQtyLots ≤ 0 ∧ c / leg.ratioQtyLots ≤ 0 := by
    rcases le_or_gt 0 c with nonneg | negative
    · exact .inl (Int.tdiv_eq_ediv_of_nonneg nonneg)
    · have mirrored := Int.tdiv_nonneg (neg_nonneg.mpr negative.le) positive.le
      rw [Int.neg_tdiv] at mirrored
      exact .inr ⟨by omega,(Int.ediv_neg_of_neg_of_pos negative positive).le⟩
  have capped : quantityOf input leg c =
      if 0 < input.maxBundleQty ∧ input.maxBundleQty < c / leg.ratioQtyLots then input.maxBundleQty
      else c / leg.ratioQtyLots := by
    unfold quantityOf
    split <;> split <;> omega
  rw [SizeCandidates.candidateAt,if_neg (not_le.mpr positive),capped]
  by_cases low : c.tdiv leg.ratioQtyLots ≤ 0
  · rw [if_pos low]
    split <;> omega
  · have same : c.tdiv leg.ratioQtyLots = c / leg.ratioQtyLots := quotient.resolve_right fun both => low both.1
    rw [if_neg low]
    simp only [same,SizeCandidateEnumerationInput.bounds]
    split <;> omega

/-! A leg from a level on is the leg the walk over lists knows. -/

def restOf (leg : CandidateLeg) (level : Nat) : CursorLeg :=
  ⟨leg.ratioQtyLots,(leg.curve.levels.drop level).map CostCurveLevel.cumulativeQtyLots⟩
def legsFrom (levels : List Nat) : List CursorLeg := (input.legs.zip levels).map fun x => restOf x.1 x.2

theorem restCandidate (leg : CandidateLeg) (level : Nat) :
    (restOf leg level).candidate input.bounds = candidateAt input leg level := by
  unfold candidateAt restOf CursorLeg.candidate
  rcases lt_or_ge level leg.curve.levels.length with inside | outside
  · rw [List.drop_eq_getElem_cons inside,List.getElem?_eq_getElem inside]
    rfl
  · rw [List.drop_of_length_le outside,List.getElem?_eq_none outside]
    rfl
theorem restPassed (leg : CandidateLeg) (passed : Int → Bool) {remaining level : Nat}
    (left : remaining = leg.curve.levels.length - level) :
    restOf leg (passLevels input leg passed remaining level) = (restOf leg level).skip input.bounds passed := by
  induction remaining generalizing level with
  | zero =>
    have none : leg.curve.levels.drop level = [] := List.drop_of_length_le (by omega)
    simp only [passLevels,restOf,CursorLeg.skip,none,List.map_nil,List.dropWhile_nil]
  | succ remaining ih =>
    have inside : level < leg.curve.levels.length := by omega
    have head : candidateAt input leg level =
        SizeCandidates.candidateAt input.bounds leg.ratioQtyLots leg.curve.levels[level].cumulativeQtyLots := by
      rw [candidateAt,List.getElem?_eq_getElem inside]
    have split : restOf leg level =
      ⟨leg.ratioQtyLots,leg.curve.levels[level].cumulativeQtyLots::(restOf leg (level + 1)).breakpoints⟩ := by
      rw [restOf,List.drop_eq_getElem_cons inside]
      rfl
    rw [passLevels,head]
    cases here : passed (SizeCandidates.candidateAt input.bounds leg.ratioQtyLots
      leg.curve.levels[level].cumulativeQtyLots) with
    | true =>
      rw [if_pos rfl,ih (by omega),split,SizeCandidates.skipTaken here]
      rfl
    | false => rw [if_neg Bool.false_ne_true,split,SizeCandidates.skipKept here]
theorem zipMapped {α β : Type} (f : α × β → β) (xs : List α) (ys : List β) :
    xs.zip ((xs.zip ys).map f) = (xs.zip ys).map fun x => (x.1,f x) := by
  induction xs generalizing ys with
  | nil => rfl
  | cons x xs ih =>
    cases ys with
    | nil => rfl
    | cons y ys => simp only [List.zip_cons_cons,List.map_cons,ih]

theorem legsPassed (passed : Int → Bool) (levels : List Nat) :
    legsFrom input (passAll input passed levels) = (legsFrom input levels).map
      (CursorLeg.skip input.bounds passed) := by
  unfold legsFrom passAll
  rw [zipMapped,List.map_map,List.map_map]
  exact List.map_congr_left fun x _ => restPassed input x.1 passed rfl
theorem leastFrom (levels : List Nat) :
    leastCandidate input levels = SizeCandidates.leastCandidate input.bounds (legsFrom input levels) := by
  unfold leastCandidate SizeCandidates.leastCandidate legsFrom
  rw [List.foldl_map]
  simp only [restCandidate]
  rfl
theorem legsStart : legsFrom input (start input).levels = input.legs.map fun leg =>
    ⟨leg.ratioQtyLots,leg.curve.breakpoints⟩ := by
  have size : input.legs.length = input.legCount := by simp [SizeCandidateEnumerationInput.legs]
  have zeros : input.legs.zip (List.replicate input.legCount 0) = input.legs.map fun leg => (leg,0) := by
    rw [← size]
    induction input.legs with
    | nil => rfl
    | cons leg rest ih => rw [List.length_cons,List.replicate_succ,List.zip_cons_cons,ih,List.map_cons]
  rw [legsFrom,start,zeros,List.map_map]
  rfl
end

/-! With a smallest quantity of at least one, the calls give the walk. -/

def walk (bounds : Bounds) (last : Int) (legs : List CursorLeg) : List Int :=
  stream bounds (levelsLeft legs) last legs
def nextOf (bounds : Bounds) (legs : List CursorLeg) : Int :=
  SizeCandidates.leastCandidate bounds (SizeCandidates.advanceInvalidCandidates bounds legs)
def legsAfter (bounds : Bounds) (legs : List CursorLeg) : List CursorLeg :=
  SizeCandidates.passCandidate bounds (nextOf bounds legs) (SizeCandidates.advanceInvalidCandidates bounds legs)

theorem walkRound {bounds : Bounds} (positive : 1 ≤ bounds.minBundleQty) (last : Int) (legs : List CursorLeg) :
    walk bounds last legs =
      if nextOf bounds legs = i64Max then []
      else if nextOf bounds legs = last then walk bounds (nextOf bounds legs) (legsAfter bounds legs)
      else nextOf bounds legs::walk bounds (nextOf bounds legs) (legsAfter bounds legs) := by
  have round : walk bounds last legs = stream bounds (levelsLeft legs + 1) last legs :=
    (streamMoreRounds positive le_rfl).symm
  rw [round,streamRound]
  by_cases ended : nextOf bounds legs = i64Max
  · rw [if_pos ended]
    exact if_pos ended
  · have fewer : levelsLeft (legsAfter bounds legs) < levelsLeft legs := roundPasses positive ended
    have rest : stream bounds (levelsLeft legs) (nextOf bounds legs) (legsAfter bounds legs) =
        walk bounds (nextOf bounds legs) (legsAfter bounds legs) := streamEnough positive fewer.le
    rw [← rest]
    rfl

section
variable {input : SizeCandidateEnumerationInput} (positive : 1 ≤ input.minBundleQty)
  (unbudgeted : input.maxTotalCostTick ≤ 0)

theorem nextAgrees (levels : List Nat) :
    leastCandidate input (advanceInvalidCandidates input levels) = nextOf input.bounds
      (legsFrom input levels) := by
  rw [leastFrom,advanceInvalidCandidates,legsPassed]
  rfl
theorem passAgrees (levels : List Nat) :
    legsFrom input (passCandidate input (nextOf input.bounds (legsFrom input levels))
      (advanceInvalidCandidates input levels)) =
      legsAfter input.bounds (legsFrom input levels) := by
  rw [passCandidate,legsPassed,advanceInvalidCandidates,legsPassed]
  rfl

theorem nextFresh (some_ : input.legCount ≠ 0) (covered : input.legCount ≤ input.curves.length) {fuel : Nat}
    {cursor : KWayCandidateCursor}
    (fresh : cursor.done = false) : cursor.next input fuel = nextFrom input fuel cursor :=
  if_neg (by rw [fresh]; simp [some_,covered])

include positive unbudgeted

theorem nextWalks {fuel : Nat} (cursor : KWayCandidateCursor)
    (enough : levelsLeft (legsFrom input cursor.levels) < fuel) :
    (∃ ended, nextFrom input fuel cursor = some (ended,none) ∧
      walk input.bounds cursor.lastEmitted (legsFrom input cursor.levels) = []) ∨
    ∃ moved q, nextFrom input fuel cursor = some (moved,some q) ∧ moved.done = cursor.done ∧
      walk input.bounds cursor.lastEmitted
        (legsFrom input cursor.levels) = q::walk input.bounds moved.lastEmitted (legsFrom input moved.levels) ∧
      levelsLeft (legsFrom input moved.levels) < levelsLeft (legsFrom input cursor.levels) := by
  induction fuel generalizing cursor with
  | zero => omega
  | succ fuel ih =>
    rw [walkRound positive,nextFrom]
    simp only [nextAgrees]
    by_cases ended : nextOf input.bounds (legsFrom input cursor.levels) = i64Max
    · refine .inl ⟨_,if_pos ended,if_pos ended⟩
    · have fewer : levelsLeft (legsAfter input.bounds (legsFrom input cursor.levels)) < levelsLeft
        (legsFrom input cursor.levels) :=
        roundPasses positive ended
      rw [if_neg ended,if_neg ended]
      by_cases again : nextOf input.bounds (legsFrom input cursor.levels) = cursor.lastEmitted
      · rw [if_pos again,if_pos again,← passAgrees,again]
        rw [← passAgrees,again] at fewer
        rcases ih ⟨_,cursor.lastEmitted,cursor.done⟩ (lt_of_lt_of_le fewer (Nat.le_of_lt_succ enough)) with
          finished | ⟨moved,q,found,still,walked,less⟩
        · exact .inl finished
        · exact .inr ⟨moved,q,found,still,walked,less.trans fewer⟩
      · have within : candidateWithinBudget input (nextOf input.bounds (legsFrom input cursor.levels)) = true :=
          if_pos unbudgeted
        rw [if_neg again,if_neg again,within,if_neg Bool.noConfusion]
        refine .inr ⟨_,_,rfl,rfl,?_,?_⟩
        · rw [passAgrees]
        · rw [passAgrees]
          exact fewer
theorem drainWalks (some_ : input.legCount ≠ 0) (covered : input.legCount ≤ input.curves.length) {fuel calls : Nat}
    {cursor : KWayCandidateCursor} (fresh : cursor.done = false)
      (fuelled : levelsLeft (legsFrom input cursor.levels) < fuel)
    (called : levelsLeft (legsFrom input cursor.levels) < calls) :
    drain input fuel calls cursor = some
      (walk input.bounds cursor.lastEmitted (legsFrom input cursor.levels)) := by
  induction calls generalizing cursor with
  | zero => omega
  | succ calls ih =>
    rw [drain,nextFresh some_ covered fresh]
    rcases nextWalks positive unbudgeted cursor fuelled with
      ⟨ended,found,finished⟩ | ⟨moved,q,found,still,walked,less⟩
    · rw [found,finished]
    · rw [found,walked]
      simp only [ih (still.trans fresh) (less.trans fuelled)
        (lt_of_lt_of_le less (Nat.le_of_lt_succ called)),Option.map_some]
end

/-! Whatever the bounds are, no call emits the end mark, and the last one found nothing below it. -/

section
variable {input : SizeCandidateEnumerationInput}

theorem legsLength : input.legs.length = input.legCount := by simp [SizeCandidateEnumerationInput.legs]
theorem passAllLength (passed : Int → Bool) {levels : List Nat} (size : levels.length = input.legCount) :
    (passAll input passed levels).length = input.legCount := by
  rw [passAll,List.length_map,List.length_zip,size,legsLength,Nat.min_self]

structure Answered (input : SizeCandidateEnumerationInput) (cursor moved : KWayCandidateCursor)
    (answer : Option Int) : Prop where
  size : moved.levels.length = input.legCount
  emitted : ∀ q, answer = some q → q < i64Max ∧ moved.done = cursor.done
  ended : answer = none → leastCandidate input moved.levels = i64Max

theorem nextAnswered {fuel : Nat} {cursor moved : KWayCandidateCursor} {answer : Option Int}
    (size : cursor.levels.length = input.legCount) (found : nextFrom input fuel cursor = some (moved,answer)) :
    Answered input cursor moved answer := by
  induction fuel generalizing cursor with
  | zero => cases found
  | succ fuel ih =>
    have advanced : (advanceInvalidCandidates input cursor.levels).length = input.legCount := passAllLength _ size
    have below : leastCandidate input (advanceInvalidCandidates input cursor.levels) ≤ i64Max := by
      rw [leastFrom]
      exact CandidateCursor.leastStart _ _
    have again (rest : nextFrom input fuel
      ⟨passCandidate input (leastCandidate input (advanceInvalidCandidates input cursor.levels))
          (advanceInvalidCandidates input cursor.levels),cursor.lastEmitted,cursor.done⟩ = some (moved,answer)) :
        Answered input cursor moved answer :=
      have later := ih (passAllLength _ advanced) rest
      ⟨later.size,later.emitted,later.ended⟩
    rw [nextFrom] at found
    split at found
    · next ended =>
      cases found
      exact ⟨advanced,fun q some_ => (by cases some_),fun _ => ended⟩
    · next more =>
      split at found
      · exact again found
      · split at found
        · exact again found
        · cases found
          refine ⟨passAllLength _ advanced,fun q some_ => ?_,fun none_ => (by cases none_)⟩
          cases some_
          exact ⟨lt_of_le_of_ne below more,rfl⟩
theorem drainAnswered (some_ : input.legCount ≠ 0) (covered : input.legCount ≤ input.curves.length)
    {fuel calls : Nat}
    {cursor : KWayCandidateCursor} {out : List Int} (size : cursor.levels.length = input.legCount)
      (fresh : cursor.done = false)
    (drained : drain input fuel calls cursor = some out) :
    (∀ q ∈ out, q < i64Max) ∧
    ∃ levels : List Nat, levels.length = input.legCount ∧ leastCandidate input levels = i64Max := by
  induction calls generalizing cursor out with
  | zero => cases drained
  | succ calls ih =>
    rw [drain,nextFresh some_ covered fresh] at drained
    split at drained
    · cases drained
    · next moved call =>
      cases drained
      have answered := nextAnswered size call
      exact ⟨fun q mem => absurd mem List.not_mem_nil,moved.levels,answered.size,answered.ended rfl⟩
    · next moved first call =>
      obtain ⟨rest,later,rfl⟩ := Option.map_eq_some_iff.mp drained
      have answered := nextAnswered size call
      obtain ⟨small,still⟩ := answered.emitted first rfl
      obtain ⟨rests,finished⟩ := ih answered.size (still.trans fresh) later
      exact ⟨fun q mem => (List.mem_cons.mp mem).elim (fun same => same ▸ small) (rests q),finished⟩

/-! An exhausted leg's zero is a candidate for a smallest quantity below one. -/

theorem candidateNonneg (leg : CandidateLeg) (level : Nat) (ratio : 0 < leg.ratioQtyLots) :
    0 ≤ candidateAt input leg level := by
  unfold candidateAt
  split
  · exact le_rfl
  · rw [candidateQuantity input ratio]
    exact le_max_left 0 _
theorem endedExpects (admissible : Admissible input) (low : input.minBundleQty ≤ 0) (some_ : input.legCount ≠ 0)
    {levels : List Nat}
    (size : levels.length = input.legCount) (ended : leastCandidate input levels = i64Max) :
    ∃ q, Expected input q ∧ i64Max ≤ q := by
  have inside : 0 < input.legs.length := legsLength ▸ Nat.pos_of_ne_zero some_
  have first : 0 < levels.length := size ▸ Nat.pos_of_ne_zero some_
  have there : input.legs[0] ∈ input.legs := List.getElem_mem inside
  have ratio := admissible.positive _ there
  have pair : restOf input.legs[0] levels[0] ∈ legsFrom input levels :=
    List.mem_map.mpr ⟨(input.legs[0],levels[0]),List.mem_iff_getElem.mpr ⟨0,by simp; omega,by simp⟩,rfl⟩
  have enough : input.bounds.minBundleQty ≤ (restOf input.legs[0] levels[0]).candidate input.bounds := by
    rw [restCandidate]
    exact le_trans low (candidateNonneg _ _ ratio)
  have large : i64Max ≤ candidateAt input input.legs[0] levels[0] := by
    rw [← ended,leastFrom,← restCandidate]
    exact CandidateCursor.leastBelow pair enough
  rw [candidateAt] at large
  split at large
  · exact absurd large (by decide)
  · next l found =>
    rw [candidateQuantity input ratio] at large
    have value : i64Max ≤ quantityOf input input.legs[0] l.cumulativeQtyLots :=
      (le_max_iff.mp large).resolve_left (by decide)
    have one : (1 : Int) ≤ i64Max := by decide
    exact ⟨_,⟨by omega,_,there,_,List.mem_map_of_mem (List.mem_of_getElem? found),rfl⟩,value⟩
theorem lowMisses (admissible : Admissible input) (low : input.minBundleQty ≤ 0) (some_ : input.legCount ≠ 0) :
    ¬ MergesExactly input := by
  rintro ⟨enough,merges⟩
  obtain ⟨out,drained,_,_,exact_⟩ := merges enough enough le_rfl le_rfl
  obtain ⟨small,levels,size,ended⟩ := drainAnswered some_ admissible.covered List.length_replicate rfl drained
  obtain ⟨q,expected,large⟩ := endedExpects admissible low some_ size ended
  exact absurd (small q ((exact_ q).mpr expected)) (not_lt.mpr large)
theorem largeMisses (admissible : Admissible input) (some_ : input.legCount ≠ 0) {q : Int}
    (expected : Expected input q)
    (large : i64Max ≤ q) : ¬ MergesExactly input := by
  rintro ⟨enough,merges⟩
  obtain ⟨out,drained,_,_,exact_⟩ := merges enough enough le_rfl le_rfl
  exact absurd ((drainAnswered some_ admissible.covered List.length_replicate rfl drained).1 q
    ((exact_ q).mpr expected)) (not_lt.mpr large)

/-! Elsewhere the calls give the merged quantities. -/

theorem expectedLegs {q : Int} (expected : Expected input q) : input.legCount ≠ 0 := by
  obtain ⟨_,leg,there,_⟩ := expected
  have some_ := List.length_pos_of_mem there
  rw [legsLength] at some_
  omega
theorem offersExpected (admissible : Admissible input) (positive : 1 ≤ input.minBundleQty) (q : Int) :
    input.bounds.minBundleQty ≤ q ∧
      CandidateCursor.Offers input.bounds (legsFrom input (start input).levels) q ↔ Expected input q := by
  unfold Expected
  rw [legsStart,max_eq_right positive]
  refine and_congr_right fun (large : input.minBundleQty ≤ q) => ?_
  have value {leg : CandidateLeg} (there : leg ∈ input.legs) (c : Int) :
      SizeCandidates.candidateAt input.bounds leg.ratioQtyLots c = q ↔ quantityOf input leg c = q := by
    rw [candidateQuantity input (admissible.positive leg there)]
    omega
  constructor
  · rintro ⟨_,mem,c,inside,same⟩
    obtain ⟨leg,there,rfl⟩ := List.mem_map.mp mem
    exact ⟨leg,there,c,inside,(value there c).mp same⟩
  · rintro ⟨leg,there,c,inside,same⟩
    exact ⟨_,List.mem_map_of_mem there,c,inside,(value there c).mpr same⟩
theorem startRising (admissible : Admissible input) :
    CandidateCursor.Rising (legsFrom input (start input).levels) := by
  rw [legsStart]
  intro _ mem
  obtain ⟨leg,there,rfl⟩ := List.mem_map.mp mem
  exact (admissible.rising leg there).imp le_of_lt
theorem positiveMerges (admissible : Admissible input) (some_ : input.legCount ≠ 0)
    (positive : 1 ≤ input.minBundleQty)
    (small : ∀ q, Expected input q → q < i64Max) : MergesExactly input := by
  refine ⟨levelsLeft (legsFrom input (start input).levels) + 1,fun fuel calls fuelled called => ?_⟩
  have atLeast : 1 ≤ input.bounds.minBundleQty := positive
  have drained : drain input fuel calls (start input) = some
    (SizeCandidates.enumerate input.bounds (legsFrom input (start input).levels)) :=
    drainWalks positive admissible.unbudgeted some_ admissible.covered rfl fuelled called
  have same : enumerate input fuel calls = drain input fuel calls (start input) :=
    if_neg (by have covered := admissible.covered; omega)
  have rising := startRising admissible
  refine ⟨_,drained,same.trans drained,CandidateCursor.enumerateSorted atLeast rising,fun q => ?_⟩
  have expects := offersExpected admissible positive q
  have emits := CandidateCursor.enumerateMem atLeast rising q
  exact ⟨fun mem => expects.mp ⟨(emits.mp mem).1,(emits.mp mem).2.2⟩,
    fun expected => emits.mpr ⟨(expects.mpr expected).1,small q expected,(expects.mpr expected).2⟩⟩
theorem emptyMerges (none_ : input.legCount = 0) : MergesExactly input := by
  refine ⟨1,fun fuel calls fuelled called => ⟨[],?_,if_pos (.inl none_),List.Pairwise.nil,fun q => ?_⟩⟩
  · obtain ⟨calls,rfl⟩ := Nat.exists_eq_add_of_le' called
    have call : (start input).next input fuel = some (start input,none) := if_pos (.inr (.inl none_))
    rw [drain,call]
  · exact ⟨fun mem => absurd mem List.not_mem_nil,fun expected => absurd none_ (expectedLegs expected)⟩

theorem cursorExact (admissible : Admissible input) :
    MergesExactly input ↔ input.legCount = 0 ∨ 1 ≤ input.minBundleQty ∧ ∀ q, Expected input q → q < i64Max := by
  constructor
  · intro merges
    by_cases none_ : input.legCount = 0
    · exact .inl none_
    · refine .inr ⟨?_,fun q expected => ?_⟩
      · by_contra low
        exact lowMisses admissible (by omega) none_ merges
      · by_contra large
        exact largeMisses admissible none_ expected (not_lt.mp large) merges
  · rintro (none_ | ⟨positive,small⟩)
    · exact emptyMerges none_
    · by_cases none_ : input.legCount = 0
      · exact emptyMerges none_
      · exact positiveMerges admissible none_ positive small

-- The last level of either leg is capped to the largest quantity.
def twoLegs : SizeCandidateEnumerationInput :=
  {curves := [{levels := [⟨10,3,3,30⟩,⟨11,4,7,74⟩]},{levels := [⟨20,4,4,80⟩,⟨21,5,9,185⟩,⟨22,3,12,251⟩]}]
   ratioQtyLots := [1,2]
   depthViews := [none,none]
   legCount := 2
   maxBundleQty := 5}
def zeroMin : SizeCandidateEnumerationInput :=
  {curves := [{levels := [⟨10,5,5,50⟩]}],ratioQtyLots := [1],depthViews := [none],legCount := 1,minBundleQty := 0}

theorem twoLegsMerge : Admissible twoLegs ∧ MergesExactly twoLegs := by
  have admissible : Admissible twoLegs := ⟨by decide,by decide,by decide,by decide⟩
  refine ⟨admissible,(cursorExact admissible).mpr (.inr ⟨by decide,fun q expected => ?_⟩)⟩
  obtain ⟨_,leg,there,c,inside,rfl⟩ := expected
  revert c
  revert leg
  decide
theorem zeroMinRuns : Admissible zeroMin ∧ ¬ MergesExactly zeroMin := by
  have admissible : Admissible zeroMin := ⟨by decide,by decide,by decide,by decide⟩
  exact ⟨admissible,lowMisses admissible (by decide) (by decide)⟩
end

end Polytope.CandidateMerge
