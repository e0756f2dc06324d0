import Polytope.SizingState

/-! The depth prefix of a book: the entry of a level holds what sweeping the book to the end of that level
takes, cut off where it no longer fits, and pricing by the prefix is the sweep. -/
namespace Polytope.PrefixSweep
open FixedPointMath MarketDepth AskSweep SizingState

def wholeCost (asks : List PriceLevel) : Int := sweep (askSteps asks) (depth (askSteps asks))

theorem wholeNonneg (asks : List PriceLevel) : 0 ≤ depth (askSteps asks) ∧ 0 ≤ wholeCost asks :=
  ⟨depthNonneg (askSized asks),sweepNonneg (askSized asks) (askPriced asks) (depthNonneg (askSized asks))⟩
theorem lotsPriced (level : PriceLevel) : 0 ≤ level.priceTick * levelLots level := by
  rcases Int.lt_or_eq_of_le (levelLotsNonneg level) with some | none
  · exact Int.mul_nonneg (le_of_lt (levelPriced some)) (le_of_lt some)
  · rw [← none,Int.mul_zero]
theorem wholeCons (level : PriceLevel) (rest) :
    depth (askSteps (level::rest)) = levelLots level + depth (askSteps rest) ∧
    wholeCost (level::rest) = level.priceTick * levelLots level + wholeCost rest := by
  have lots : depth (askSteps (level::rest)) = levelLots level + depth (askSteps rest) := by
    simp [askSteps,depthCons]
  refine ⟨lots,?_⟩
  have later := depthNonneg (askSized rest)
  have here := levelLotsNonneg level
  unfold wholeCost
  rw [lots]
  change level.priceTick * min (levelLots level + depth (askSteps rest)) (levelLots level) +
    sweep (askSteps rest) (levelLots level + depth (askSteps rest) - min
      (levelLots level + depth (askSteps rest)) (levelLots level)) = _
  rw [show min (levelLots level + depth (askSteps rest)) (levelLots level) = levelLots level by omega,
    show levelLots level + depth (askSteps rest) - levelLots level = depth (askSteps rest) by omega]

/-! Sums of what is not negative, in saturating arithmetic, are the exact sums cut off at the top. -/

def capped (v : Int) : Int := min v i64Max
theorem cappedExact {v : Int} (fits : v ≤ i64Max) : capped v = v := min_eq_left fits
theorem cappedNonneg {v : Int} (nonneg : 0 ≤ v) : 0 ≤ capped v := le_min nonneg (by decide)
theorem saturatingMulCapped {lhs rhs : Int} (nonneg : 0 ≤ lhs * rhs) (left : 0 ≤ lhs) (right : 0 ≤ rhs) :
    saturatingMulI64 lhs rhs = capped (lhs * rhs) := by
  have least : i64Min ≤ 0 := by decide
  unfold saturatingMulI64
  by_cases fits : lhs * rhs ≤ i64Max
  · rw [checkedMulExact.mpr ⟨⟨by omega,fits⟩,rfl⟩,cappedExact fits]
  · have none : checkedMulI64 lhs rhs = none := if_neg fun inside => fits inside.2
    rw [none]
    simp only
    rw [if_pos (.inl ⟨left,right⟩)]
    exact (min_eq_right (by omega)).symm
theorem saturatingAddCapped {lhs rhs : Int} (left : 0 ≤ lhs) (right : 0 ≤ rhs) :
    saturatingAddI64 (capped lhs) (capped rhs) = capped (lhs + rhs) := by
  have least : i64Min ≤ 0 := by decide
  have top : 0 ≤ i64Max := by decide
  have start := cappedNonneg left
  have more := cappedNonneg right
  unfold saturatingAddI64
  by_cases fits : capped lhs + capped rhs ≤ i64Max
  · rw [checkedAddExact.mpr ⟨⟨by omega,fits⟩,rfl⟩]
    unfold capped at fits ⊢
    simp only
    omega
  · have none : checkedAddI64 (capped lhs) (capped rhs) = none := if_neg fun inside => fits inside.2
    rw [none]
    simp only
    rw [if_pos more]
    unfold capped at fits ⊢
    omega
theorem lotsCapped (level : PriceLevel) : capped (levelLots level) = levelLots level := by
  apply cappedExact
  unfold levelLots
  split
  · exact sizeLotsFits level
  · decide

section
variable {qty cost : Int}

theorem prefixCons {level : PriceLevel} (rest : List PriceLevel) (qtySome : 0 ≤ qty) (costSome : 0 ≤ cost) :
    prefixFrom (capped qty) (capped cost) (level::rest) =
      ⟨capped (qty + levelLots level),capped (cost + level.priceTick * levelLots level)⟩::
        prefixFrom (capped (qty + levelLots level)) (capped (cost + level.priceTick * levelLots level)) rest := by
  have here := levelLotsNonneg level
  have price := lotsPriced level
  have levelCost : (if 0 < levelLots level then saturatingMulI64 level.priceTick (levelLots level) else 0) =
      capped (level.priceTick * levelLots level) := by
    split
    · next some => exact saturatingMulCapped price (le_of_lt (levelPriced some)) here
    · rw [show levelLots level = 0 by omega,Int.mul_zero]
      rfl
  have lots : saturatingAddI64 (capped qty) (levelLots level) = capped (qty + levelLots level) := by
    rw [← saturatingAddCapped qtySome here,lotsCapped]
  rw [prefixFrom,levelCost,lots,saturatingAddCapped costSome price]
theorem prefixAppend {a : List PriceLevel} (b : List PriceLevel) (qtySome : 0 ≤ qty) (costSome : 0 ≤ cost) :
    prefixFrom (capped qty) (capped cost) (a ++ b) = prefixFrom (capped qty) (capped cost) a ++
      prefixFrom (capped (qty + depth (askSteps a))) (capped (cost + wholeCost a)) b := by
  induction a generalizing qty cost with
  | nil => simp [prefixFrom,askSteps,depth,wholeCost,sweep]
  | cons level rest ih =>
    obtain ⟨lotsCons,costCons⟩ := wholeCons level rest
    have here := levelLotsNonneg level
    have price := lotsPriced level
    rw [lotsCons,costCons,List.cons_append,prefixCons _ qtySome costSome,prefixCons _ qtySome
      costSome,List.cons_append,
      ih (by omega) (by omega),← Int.add_assoc,← Int.add_assoc]
theorem prefixBelow {a : List PriceLevel} (qtySome : 0 ≤ qty) (costSome : 0 ≤ cost) :
    ∀ entry ∈ prefixFrom (capped qty) (capped cost) a, entry.cumQty ≤ qty + depth (askSteps a) ∧
      0 ≤ entry.cumCost := by
  induction a generalizing qty cost with
  | nil => exact fun entry mem => (by cases mem)
  | cons level rest ih =>
    obtain ⟨lotsCons,costCons⟩ := wholeCons level rest
    obtain ⟨later,laterCost⟩ := wholeNonneg rest
    have here := levelLotsNonneg level
    have price := lotsPriced level
    have top : capped (qty + levelLots level) ≤ qty + levelLots level := min_le_left _ _
    rw [lotsCons,prefixCons _ qtySome costSome]
    refine List.forall_mem_cons.mpr ⟨⟨by simp only; omega,cappedNonneg (by omega)⟩,fun entry mem => ?_⟩
    obtain ⟨below,paid⟩ := ih (by omega) (by omega) entry mem
    exact ⟨by omega,paid⟩
theorem prefixLast {a : List PriceLevel} (qtySome : 0 ≤ qty) (costSome : 0 ≤ cost) (default : PrefixLevel)
    (same : default = ⟨capped qty,capped cost⟩) : (prefixFrom (capped qty) (capped cost) a).getLast?.getD default =
      ⟨capped (qty + depth (askSteps a)),capped (cost + wholeCost a)⟩ := by
  subst same
  induction a generalizing qty cost with
  | nil => simp [prefixFrom,askSteps,depth,wholeCost,sweep]
  | cons level rest ih =>
    obtain ⟨lotsCons,costCons⟩ := wholeCons level rest
    have here := levelLotsNonneg level
    have price := lotsPriced level
    rw [lotsCons,costCons,prefixCons _ qtySome costSome,List.getLast?_cons,Option.getD_some,ih
      (by omega) (by omega),
      Int.add_assoc,Int.add_assoc]
theorem prefixLength (asks : List PriceLevel) : (prefixFrom qty cost asks).length = asks.length := by
  induction asks generalizing qty cost with
  | nil => rfl
  | cons level rest ih => rw [prefixFrom,List.length_cons,List.length_cons,ih]

end

/-! The entry a quantity falls into: everything before it is smaller, and what was paid before it stands
in the entry before. -/

section
variable (front : List PriceLevel) (level : PriceLevel) (others : List PriceLevel)

theorem prefixSplit : prefixFrom 0 0 (front ++ level::others) = prefixFrom 0 0 front ++
    ⟨capped (depth (askSteps front) + levelLots level),capped
      (wholeCost front + level.priceTick * levelLots level)⟩::
      prefixFrom (capped (depth (askSteps front) + levelLots level))
        (capped (wholeCost front + level.priceTick * levelLots level)) others := by
  obtain ⟨lotsFront,costFront⟩ := wholeNonneg front
  have split := prefixAppend (level::others) (le_refl (0 : Int)) (le_refl (0 : Int)) (a := front)
  rw [Int.zero_add,Int.zero_add,prefixCons others lotsFront costFront] at split
  exact split
theorem prefixFound {q : Int} (fits : q ≤ i64Max) (lower : depth (askSteps front) < q)
    (upper : q ≤ depth (askSteps front) + levelLots level) :
    (prefixFrom 0 0 (front ++ level::others)).findIdx?
    (fun entry => decide (q ≤ entry.cumQty)) = some front.length := by
  have none : (prefixFrom 0 0 front).findIdx? (fun entry => decide (q ≤ entry.cumQty)) = .none := by
    rw [List.findIdx?_eq_none_iff]
    intro entry mem
    have below := prefixBelow (le_refl (0 : Int)) (le_refl (0 : Int)) entry mem
    rw [decide_eq_false_iff_not]
    omega
  have here : q ≤ capped (depth (askSteps front) + levelLots level) := le_min upper fits
  rw [prefixSplit,List.findIdx?_append,none,List.findIdx?_cons,if_pos (decide_eq_true here),prefixLength]
  simp
theorem prefixBefore : (if front.length = 0 then (⟨0,0⟩ : PrefixLevel)
    else (prefixFrom 0 0 (front ++ level::others)).getD (front.length - 1) ⟨0,0⟩) =
      ⟨capped (depth (askSteps front)),capped (wholeCost front)⟩ := by
  have last : (prefixFrom 0 0 front).getLast?.getD ⟨0,0⟩ = _ :=
    prefixLast (le_refl (0 : Int)) (le_refl (0 : Int)) ⟨0,0⟩ rfl
  rw [Int.zero_add,Int.zero_add] at last
  rw [← last]
  split
  · next none => rw [List.length_eq_zero_iff.mp none]; rfl
  · have inside : front.length - 1 < (prefixFrom 0 0 front).length := by
      rw [prefixLength]
      omega
    rw [prefixSplit,List.getD_eq_getElem?_getD,List.getElem?_append_left
      inside,List.getLast?_eq_getElem?,prefixLength]

end

/-! A book no longer than its prefix. -/

section
variable {bids asks : List PriceLevel} (few : asks.length ≤ kMaxSnapshotDepth)
include few

theorem prefixWhole : (buildDepthPrefix bids asks).asks = prefixFrom 0 0 asks := by
  unfold buildDepthPrefix
  rw [List.take_of_length_le few]
theorem prefixCapped : askDepthFromPrefix (buildDepthPrefix bids asks) = capped (depth (askSteps asks)) := by
  have last : (prefixFrom 0 0 asks).getLast?.getD ⟨0,0⟩ = _ :=
    prefixLast (le_refl (0 : Int)) (le_refl (0 : Int)) ⟨0,0⟩ rfl
  rw [Int.zero_add,Int.zero_add] at last
  have entry := congrArg PrefixLevel.cumQty last
  simp only at entry
  unfold askDepthFromPrefix
  rw [prefixWhole few,← entry]
  cases (prefixFrom 0 0 asks).getLast? with
  | none => rfl
  | some entry => rfl

-- What a quantity that can be counted inside the book costs is the sweep, as long as that fits.
theorem prefixSold {q : Int} (some : 0 < q) (within : q ≤ capped (depth (askSteps asks))) :
    buyVwapPrefix (buildDepthPrefix bids asks) asks q =
    if sweep (askSteps asks) q ≤ i64Max then
      ⟨true,sweep (askSteps asks) q,(sweep (askSteps asks) q).tdiv q,lastPrice (askSteps asks) q,capped
        (depth (askSteps asks))⟩
    else {} := by
  obtain ⟨inside,fits⟩ := le_min_iff.mp within
  obtain ⟨used,price,size,rest,split,lower,upper⟩ := lastFound (askSteps asks) q some inside
  obtain ⟨front,back,rfl,rfl,tail⟩ := List.map_eq_append_iff.mp split
  obtain ⟨level,others,rfl,step,rfl⟩ := List.map_eq_cons_iff.mp tail
  cases step
  change depth (askSteps front) < q at lower
  change q ≤ depth (askSteps front) + levelLots level at upper
  obtain ⟨lotsFront,costFront⟩ := wholeNonneg front
  have visible : askDepthFromPrefix (buildDepthPrefix bids (front ++ level::others)) = _ := prefixCapped few
  have whole : (buildDepthPrefix bids (front ++ level::others)).asks = _ := prefixWhole few
  have found := prefixFound front level others fits lower upper
  have before := prefixBefore front level others
  have priceAt : ((front ++ level::others).map PriceLevel.priceTick).getD front.length 0 = level.priceTick := by
    simp
  have steps : askSteps (front ++ level::others) = askSteps front ++
    (level.priceTick,levelLots level)::askSteps others := by simp [askSteps]
  have sized := steps ▸ askSized (front ++ level::others)
  have cost : sweep (askSteps (front ++ level::others)) q =
    wholeCost front + level.priceTick * (q - depth (askSteps front)) := by
    rw [steps]
    exact sweepSegment sized (le_of_lt lower) upper
  have last : lastPrice (askSteps (front ++ level::others)) q = level.priceTick := by
    rw [steps]
    exact lastSegment sized lower upper
  have price : 0 < level.priceTick := levelPriced (by omega)
  have positive : 0 < level.priceTick * (q - depth (askSteps front)) := Int.mul_pos price (by omega)
  have least : i64Min ≤ 0 := by decide
  have shape : ¬ (q ≤ 0 ∨ prefixFrom 0 0 (front ++ level::others) = [] ∨ front ++ level::others = [] ∨
      (front ++ level::others).length < (prefixFrom 0 0 (front ++ level::others)).length) := by
    rw [prefixLength,prefixSplit]
    simp
    omega
  unfold buyVwapPrefix
  rw [visible,whole,if_neg shape]
  simp only
  rw [if_neg (not_lt.mpr within),found]
  simp only
  rw [before,priceAt,cappedExact (show depth (askSteps front) ≤ i64Max by omega)]
  simp only
  rw [if_neg (by omega),cost,last]
  by_cases fits : wholeCost front + level.priceTick * (q - depth (askSteps front)) ≤ i64Max
  · have mul : checkedMulI64 level.priceTick (q - depth (askSteps front)) = .some _ :=
      checkedMulExact.mpr ⟨⟨by omega,by omega⟩,rfl⟩
    have add : checkedAddI64 (wholeCost front) (level.priceTick * (q - depth (askSteps front))) = .some _ :=
      checkedAddExact.mpr ⟨⟨by omega,by omega⟩,rfl⟩
    rw [if_pos fits,cappedExact (by omega),mul]
    simp only
    rw [add]
  · rw [if_neg fits]
    cases product : checkedMulI64 level.priceTick (q - depth (askSteps front)) with
    | none => rfl
    | some partialCost =>
      obtain ⟨_,rfl⟩ := checkedMulExact.mp product
      have none : checkedAddI64 (capped (wholeCost front))
        (level.priceTick * (q - depth (askSteps front))) = none := by
        refine if_neg fun inside => fits ?_
        have upper := inside.2
        unfold capped at upper
        omega
      simp only
      rw [none]

variable (lots : depth (askSteps asks) ≤ i64Max)
include lots

theorem prefixDepth : askDepthFromPrefix (buildDepthPrefix bids asks) = depth (askSteps asks) :=
  (prefixCapped few).trans (cappedExact lots)
theorem prefixSwept {q : Int} (some : 0 < q) (within : q ≤ depth (askSteps asks)) :
    buyVwapPrefix (buildDepthPrefix bids asks) asks q =
    if sweep (askSteps asks) q ≤ i64Max then
      ⟨true,sweep (askSteps asks) q,(sweep (askSteps asks) q).tdiv q,lastPrice (askSteps asks) q,depth
        (askSteps asks)⟩
    else {} := by
  rw [prefixSold few some (within.trans (cappedExact lots).ge),cappedExact lots]
theorem prefixPriced (costs : wholeCost asks ≤ i64Max) {q : Int} (some : 0 < q)
    (within : q ≤ depth (askSteps asks)) :
    buyVwapPrefix (buildDepthPrefix bids asks) asks q =
      ⟨true,sweep (askSteps asks) q,(sweep (askSteps asks) q).tdiv q,lastPrice (askSteps asks) q,depth
        (askSteps asks)⟩ := by
  have below : sweep (askSteps asks) q ≤ wholeCost asks :=
    sweepMono (askSized asks) (askPriced asks) (le_of_lt some) within
  rw [prefixSwept few lots some within,if_pos (le_trans below costs)]

end

end Polytope.PrefixSweep
