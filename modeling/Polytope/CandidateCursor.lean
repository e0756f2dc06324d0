import Polytope.SizeCandidates
import Mathlib.Algebra.Order.BigOperators.Group.List

/-! What the K-way cursor emits: every quantity some level of some leg stands for, once and in
increasing order, as far as it is not below the smallest quantity asked for and not the sentinel. -/
namespace Polytope.CandidateCursor
open FixedPointMath SizeCandidates

def Offers (bounds : Bounds) (legs : List CursorLeg) (q : Int) : Prop :=
  ∃ leg ∈ legs, ∃ cumulative ∈ leg.breakpoints, candidateAt bounds leg.ratio cumulative = q
def Rising (legs : List CursorLeg) : Prop := ∀ leg ∈ legs, leg.breakpoints.Pairwise (· ≤ ·)

theorem candidateMono (bounds : Bounds) (ratio : Int) {c c' : Int} (le : c ≤ c') :
    candidateAt bounds ratio c ≤ candidateAt bounds ratio c' := by
  unfold candidateAt
  split
  · exact le_rfl
  · next positive =>
    have quotient : c.tdiv ratio ≤ c'.tdiv ratio := Int.tdiv_le_tdiv (by omega) le
    simp only
    split <;> split <;> (try split) <;> (try split) <;> omega

theorem dropWhileMem {p : Int → Bool} {l : List Int} (down : l.Pairwise fun a b => p b = true → p a = true) {x} :
    x ∈ l.dropWhile p ↔ x ∈ l ∧ p x = false := by
  induction l with
  | nil => simp
  | cons head rest ih =>
    obtain ⟨first,later⟩ := List.pairwise_cons.mp down
    cases here : p head with
    | true =>
      rw [List.dropWhile_cons_of_pos here,ih later,List.mem_cons]
      constructor
      · exact fun ⟨mem,stays⟩ => ⟨.inr mem,stays⟩
      · rintro ⟨rfl | mem,stays⟩
        · rw [here] at stays
          cases stays
        · exact ⟨mem,stays⟩
    | false =>
      rw [List.dropWhile_cons_of_neg (by rw [here]; exact Bool.false_ne_true)]
      refine ⟨fun mem => ⟨mem,?_⟩,And.left⟩
      rcases List.mem_cons.mp mem with rfl | mem
      · exact here
      · by_contra passes
        rw [first x mem (Bool.not_eq_false _ ▸ passes)] at here
        cases here

section
variable {bounds : Bounds} {legs : List CursorLeg} {passed : Int → Bool}

-- The candidates that are passed are the small ones.
theorem skipMem (down : ∀ q q', q ≤ q' → passed q' = true → passed q = true) {leg : CursorLeg}
    (rising : leg.breakpoints.Pairwise (· ≤ ·)) {c} :
    c ∈ (leg.skip bounds passed).breakpoints ↔
      c ∈ leg.breakpoints ∧ passed (candidateAt bounds leg.ratio c) = false :=
  dropWhileMem (rising.imp fun le => down _ _ (candidateMono bounds leg.ratio le))
theorem skipOffers (down : ∀ q q', q ≤ q' → passed q' = true → passed q = true) (rising : Rising legs) {q} :
    Offers bounds (legs.map (CursorLeg.skip bounds passed)) q ↔ Offers bounds legs q ∧ passed q = false := by
  constructor
  · rintro ⟨_,mem,c,inside,rfl⟩
    obtain ⟨leg,there,rfl⟩ := List.mem_map.mp mem
    obtain ⟨old,stays⟩ := (skipMem down (rising leg there)).mp inside
    exact ⟨⟨leg,there,c,old,rfl⟩,stays⟩
  · rintro ⟨⟨leg,there,c,inside,rfl⟩,stays⟩
    exact ⟨_,List.mem_map_of_mem there,c,(skipMem down (rising leg there)).mpr ⟨inside,stays⟩,rfl⟩
theorem skipRising (rising : Rising legs) : Rising (legs.map (CursorLeg.skip bounds passed)) := by
  intro _ mem
  obtain ⟨leg,there,rfl⟩ := List.mem_map.mp mem
  exact (rising leg there).sublist (List.dropWhile_suffix _).sublist

theorem leastStart (legs : List CursorLeg) (start : Int) : legs.foldl (fun next leg =>
    let q := leg.candidate bounds
    if bounds.minBundleQty ≤ q ∧ q < next then q else next) start ≤ start := by
  induction legs generalizing start with
  | nil => exact le_rfl
  | cons leg rest ih =>
    refine le_trans (ih _) ?_
    simp only
    split
    · next lower => exact le_of_lt lower.2
    · exact le_rfl
theorem leastBelow {leg : CursorLeg} {start : Int} (there : leg ∈ legs)
    (enough : bounds.minBundleQty ≤ leg.candidate bounds) :
    legs.foldl (fun next leg =>
      let q := leg.candidate bounds
      if bounds.minBundleQty ≤ q ∧ q < next then q else next) start ≤ leg.candidate bounds := by
  induction legs generalizing start with
  | nil => cases there
  | cons first rest ih =>
    rcases List.mem_cons.mp there with rfl | later
    · refine le_trans (leastStart rest _) ?_
      simp only
      split <;> omega
    · exact ih later

theorem advanceOffers (rising : Rising legs) {q} :
    Offers bounds (advanceInvalidCandidates bounds legs) q ↔ Offers bounds legs q ∧ bounds.minBundleQty ≤ q := by
  unfold advanceInvalidCandidates
  rw [skipOffers (fun q q' le small => ?_) rising,decide_eq_false_iff_not,not_lt]
  rw [decide_eq_true_iff] at small ⊢
  omega
theorem passOffers (rising : Rising legs) {next q} :
    Offers bounds (passCandidate bounds next legs) q ↔ Offers bounds legs q ∧ next < q := by
  unfold passCandidate
  rw [skipOffers (fun q q' le small => ?_) rising,decide_eq_false_iff_not,not_le]
  rw [decide_eq_true_iff] at small ⊢
  omega
theorem advanceRising (rising : Rising legs) : Rising (advanceInvalidCandidates bounds legs) := skipRising rising
theorem passRising (rising : Rising legs) {next} : Rising (passCandidate bounds next legs) := skipRising rising

theorem leastOffered (rising : Rising legs) {q} (enough : bounds.minBundleQty ≤ q)
    (offered : Offers bounds legs q) :
    leastCandidate bounds (advanceInvalidCandidates bounds legs) ≤ q := by
  obtain ⟨leg,there,c,inside,value⟩ := (advanceOffers rising).mpr ⟨offered,enough⟩
  obtain ⟨head,rest,shape⟩ := List.exists_cons_of_ne_nil (List.ne_nil_of_mem inside)
  have first : leg.candidate bounds = candidateAt bounds leg.ratio head := by rw [CursorLeg.candidate,shape]
  have large : bounds.minBundleQty ≤ leg.candidate bounds :=
    ((advanceOffers rising).mp ⟨leg,there,head,shape ▸ List.mem_cons_self,first.symm⟩).2
  have sorted : leg.breakpoints.Pairwise (· ≤ ·) := advanceRising rising leg there
  have below : head ≤ c := by
    rw [shape] at inside sorted
    rcases List.mem_cons.mp inside with rfl | later
    · exact le_rfl
    · exact (List.pairwise_cons.mp sorted).1 c later
  calc leastCandidate bounds (advanceInvalidCandidates bounds legs) ≤ leg.candidate bounds :=
    leastBelow there large
    _ ≤ q := by
      rw [first,← value]
      exact candidateMono bounds leg.ratio below
theorem leastIsOffered (positive : 1 ≤ bounds.minBundleQty) (found : leastCandidate bounds legs ≠ i64Max) :
    Offers bounds legs (leastCandidate bounds legs) := by
  obtain ⟨leg,there,some,value⟩ := leastFound positive found
  obtain ⟨head,rest,shape⟩ := List.exists_cons_of_ne_nil some
  refine ⟨leg,there,head,shape ▸ List.mem_cons_self,?_⟩
  rw [← value,CursorLeg.candidate,shape]
end

theorem streamMem {bounds : Bounds} {legs : List CursorLeg} {rounds : Nat} {last : Int}
    (positive : 1 ≤ bounds.minBundleQty)
    (rising : Rising legs) (enough : levelsLeft legs ≤ rounds)
    (later : ∀ q, Offers bounds legs q → bounds.minBundleQty ≤ q → last < q) :
    (∀ q, q ∈ stream bounds rounds last legs ↔ bounds.minBundleQty ≤ q ∧ q < i64Max ∧ Offers bounds legs q) ∧
      (stream bounds rounds last legs).Pairwise (· < ·) := by
  induction rounds generalizing last legs with
  | zero =>
    refine ⟨fun q => ⟨fun mem => (by cases mem),?_⟩,List.Pairwise.nil⟩
    rintro ⟨_,_,leg,there,c,inside,_⟩
    have empty : leg.breakpoints.length ≤ levelsLeft legs := List.le_sum_of_mem (List.mem_map_of_mem there)
    have some := List.length_pos_of_mem inside
    omega
  | succ rounds ih =>
    rw [streamRound]
    split
    · next ended =>
      refine ⟨fun q => ⟨fun mem => (by cases mem),?_⟩,List.Pairwise.nil⟩
      rintro ⟨large,small,offered⟩
      have least := leastOffered rising large offered
      omega
    · next found =>
      have fewer := roundPasses positive found
      have below : leastCandidate bounds (advanceInvalidCandidates bounds legs) ≤ i64Max := leastStart _ _
      obtain ⟨offeredHere,bound⟩ := (advanceOffers rising).mp (leastIsOffered positive found)
      have fresh := later _ offeredHere bound
      rw [if_neg (by omega)]
      have left : ∀ q, Offers bounds
        (passCandidate bounds (leastCandidate bounds (advanceInvalidCandidates bounds legs))
          (advanceInvalidCandidates bounds legs)) q ↔ Offers bounds legs q ∧ bounds.minBundleQty ≤ q ∧
            leastCandidate bounds (advanceInvalidCandidates bounds legs) < q := by
        intro q
        rw [passOffers (advanceRising rising),advanceOffers rising,and_assoc]
      obtain ⟨mem,sorted⟩ := ih (passRising (advanceRising rising)) (by omega) fun q offered _ =>
        ((left q).mp offered).2.2
      constructor
      · intro q
        rw [List.mem_cons,mem,left]
        constructor
        · rintro (rfl | ⟨large,small,offered,_⟩)
          · exact ⟨bound,lt_of_le_of_ne below found,offeredHere⟩
          · exact ⟨large,small,offered⟩
        · rintro ⟨large,small,offered⟩
          have least := leastOffered rising large offered
          rcases eq_or_lt_of_le least with same | more
          · exact .inl same.symm
          · exact .inr ⟨large,small,offered,large,more⟩
      · exact List.pairwise_cons.mpr ⟨fun q inside => ((left q).mp ((mem q).mp inside).2.2).2.2,sorted⟩

theorem enumerateMem {bounds : Bounds} {legs : List CursorLeg} (positive : 1 ≤ bounds.minBundleQty)
    (rising : Rising legs) (q : Int) :
    q ∈ enumerate bounds legs ↔ bounds.minBundleQty ≤ q ∧ q < i64Max ∧ Offers bounds legs q :=
  (streamMem positive rising le_rfl fun q _ large => by omega).1 q
theorem enumerateSorted {bounds : Bounds} {legs : List CursorLeg} (positive : 1 ≤ bounds.minBundleQty)
    (rising : Rising legs) :
    (enumerate bounds legs).Pairwise (· < ·) :=
  (streamMem positive rising le_rfl fun q _ large => by omega).2

end Polytope.CandidateCursor
