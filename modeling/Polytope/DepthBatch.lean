import Polytope.SnapshotPublishing

/-! The batch read of depth views by asset id. Its answer has room for 16 views and only the first 16 ids of a
request are looked up, so the answer is complete and aligned exactly when no more are asked for or one of
those 16 is missing. -/
namespace Polytope.DepthBatch
open MarketDepth (MarketDepthView marketDepthViewFromSnapshot hashDepthViews)
open MarketShard (SnapshotPublisher)
open SnapshotPublishing

def kMaxDepthBatchViews : Nat := 16
-- The views past the count stay default ones and are left out.
structure DepthBatchReadResult where
  ok : Bool := false
  count : Nat := 0
  views : List MarketDepthView := []
  combinedSnapshotHash : UInt64 := 0

-- The store has one shard, whose publisher answers.
def readDepthBatchByAssetId (publisher : SnapshotPublisher) (assetIds : List String) :
    Option DepthBatchReadResult :=
  if assetIds = [] then some {}
  else
    let ids := assetIds.take kMaxDepthBatchViews
    (publisher.readDepthMany (ids.map some) (List.range ids.length) kMaxDepthBatchViews).map fun views =>
      {count := views.length, views, ok := decide (views.length = ids.length),
        combinedSnapshotHash := hashDepthViews views}

def afterCalls (calls : List PublisherCall) : SnapshotPublisher × PublisherLog :=
  Machine.run publisherStep {} [] calls
-- View i is that of the last snapshot published for id i.
def Aligned (log : PublisherLog) (assetIds : List String) (views : List MarketDepthView) : Prop :=
  ∀ i assetId, assetIds[i]? = some assetId → ∃ shown, Latest log assetId (some shown) ∧
    views[i]? = some (marketDepthViewFromSnapshot shown.toMarketStateSnapshot i)
def Complete (log : PublisherLog) (assetIds : List String) (result : DepthBatchReadResult) : Prop :=
  result.ok = true → (result.count = assetIds.length ∧ result.views.length = result.count) ∧
    Aligned log assetIds result.views

/-! What the publisher shows of a list of ids. -/

section
variable (publisher : SnapshotPublisher)

def shownView (asked : String × Nat) : Option MarketDepthView :=
  (publisher.current asked.1).map fun snapshot =>
  marketDepthViewFromSnapshot snapshot.toMarketStateSnapshot asked.2
theorem viewsShown (ids : List String) :
    viewsOf publisher (List.range ids.length) (ids.map some) 0 = ids.zipIdx.filterMap (shownView publisher) := by
  unfold viewsOf
  rw [List.zipIdx_map,List.filterMap_map]
  refine List.filterMap_congr fun asked mem => ?_
  have inside : asked.2 < ids.length := by simpa using List.snd_lt_of_mem_zipIdx mem
  have index : (List.range ids.length).getD asked.2 0 = asked.2 := by simp [List.getD_eq_getElem?_getD,inside]
  simp only [Function.comp_apply,Prod.map_fst,Prod.map_snd,id,Option.bind_some,index]
  rfl
theorem foundAt {α β : Type} {f : α → Option β} {xs : List α} (found : ∀ x ∈ xs, (f x).isSome) (i : Nat) :
    (xs.filterMap f)[i]? = xs[i]?.bind f := by
  induction xs generalizing i with
  | nil => rfl
  | cons x xs ih =>
    obtain ⟨y,here⟩ := Option.isSome_iff_exists.mp (found x List.mem_cons_self)
    rw [List.filterMap_cons_some here]
    cases i with
    | zero => exact here.symm
    | succ i => exact ih (fun x mem => found x (List.mem_cons_of_mem _ mem)) i
end

section
variable {publisher : SnapshotPublisher} {log : PublisherLog}

theorem missingIff (kept : Kept publisher log) (assetId : String) : publisher.current assetId = none ↔
    lastPublish log assetId = none := by
  have latest := kept.latest assetId
  unfold Latest at latest
  split at latest
  · next none => exact iff_of_true latest none
  · next snapshot some =>
    obtain ⟨version,-,shown⟩ := latest
    simp [shown,some]
theorem shownIff (ids : List String) :
    (ids.zipIdx.filterMap (shownView publisher)).length = ids.length ↔
    ∀ assetId ∈ ids, publisher.current assetId ≠ none := by
  have size : ids.length = ids.zipIdx.length := List.length_zipIdx.symm
  rw [size,List.filterMap_length_eq_length]
  simp only [shownView,Option.isSome_map,Option.isSome_iff_ne_none]
  constructor
  · intro found assetId mem
    obtain ⟨i,here⟩ := List.getElem?_of_mem mem
    exact found (assetId,i) (List.mk_mem_zipIdx_iff_getElem?.mpr here)
  · exact fun found asked mem => found asked.1 (List.fst_mem_of_mem_zipIdx mem)
theorem shownAligned (kept : Kept publisher log) {ids : List String}
    (found : ∀ assetId ∈ ids, publisher.current assetId ≠ none) :
    Aligned log ids (ids.zipIdx.filterMap (shownView publisher)) := by
  intro i assetId asked
  have all : ∀ e ∈ ids.zipIdx, (shownView publisher e).isSome := by
    intro e mem
    rw [shownView,Option.isSome_map]
    exact Option.isSome_iff_ne_none.mpr (found e.1 (List.fst_mem_of_mem_zipIdx mem))
  obtain ⟨shown,current⟩ := Option.ne_none_iff_exists'.mp (found assetId (List.mem_of_getElem? asked))
  refine ⟨shown,current ▸ kept.latest assetId,?_⟩
  rw [foundAt all,List.getElem?_zipIdx,asked]
  simp [shownView,current]
theorem batchRead (kept : Kept publisher log) {assetIds : List String} (asked : assetIds ≠ []) :
    readDepthBatchByAssetId publisher assetIds =
      let views := (assetIds.take kMaxDepthBatchViews).zipIdx.filterMap (shownView publisher)
      some {count := views.length, views, ok := decide (views.length = (assetIds.take kMaxDepthBatchViews).length),
            combinedSnapshotHash := hashDepthViews views} := by
  have short : (assetIds.take kMaxDepthBatchViews).length ≤ kMaxDepthBatchViews := List.length_take_le _ _
  have answer := (readDepthIff kept.turned
    (List.range (assetIds.take kMaxDepthBatchViews).length) kMaxDepthBatchViews
    ((assetIds.take kMaxDepthBatchViews).map some)).mpr
      (.inr (by rw [List.length_map]; exact short.trans (by decide)))
  have fits : ((assetIds.take kMaxDepthBatchViews).zipIdx.filterMap (shownView publisher)).length ≤
    kMaxDepthBatchViews :=
    (List.length_filterMap_le _ _).trans (List.length_zipIdx.le.trans short)
  rw [viewsShown,List.take_of_length_le fits] at answer
  rw [readDepthBatchByAssetId,if_neg asked]
  simp only [answer,Option.map_some]
end

theorem depthBatchExact (calls : List PublisherCall) (assetIds : List String) :
    ∃ result, readDepthBatchByAssetId (afterCalls calls).1 assetIds = some result ∧
      (Complete (afterCalls calls).2 assetIds result ↔
        assetIds.length ≤ kMaxDepthBatchViews ∨
          ∃ assetId ∈ assetIds.take kMaxDepthBatchViews, lastPublish (afterCalls calls).2 assetId = none) := by
  have kept : Kept (afterCalls calls).1 (afterCalls calls).2 :=
    Machine.invariant (P := Kept) (fun _ _ call before => keptNext before call) calls freshKept
  by_cases asked : assetIds = []
  · subst asked
    exact ⟨{},rfl,iff_of_true (fun impossible => (nomatch impossible)) (.inl (Nat.zero_le _))⟩
  · refine ⟨_,batchRead kept asked,?_⟩
    have every := @shownIff (afterCalls calls).1 (assetIds.take kMaxDepthBatchViews)
    by_cases found : ∀ assetId ∈ assetIds.take kMaxDepthBatchViews, (afterCalls calls).1.current assetId ≠ none
    · have size := every.mpr found
      have published : ¬ ∃ assetId ∈ assetIds.take kMaxDepthBatchViews,
        lastPublish (afterCalls calls).2 assetId = none := by
        rintro ⟨assetId,mem,none⟩
        exact found assetId mem ((missingIff kept assetId).mpr none)
      simp only [published,or_false]
      constructor
      · intro complete
        have whole := (complete (decide_eq_true size)).1.1
        simp only [size,List.length_take] at whole
        omega
      · intro few _
        have all : assetIds.take kMaxDepthBatchViews = assetIds := List.take_of_length_le few
        have aligned := shownAligned kept found
        rw [all] at aligned size
        simp only [all]
        exact ⟨⟨size,trivial⟩,aligned⟩
    · refine iff_of_true (fun ok => absurd (every.mp (of_decide_eq_true ok)) found) (.inr ?_)
      simp only [ne_eq,not_forall,not_not] at found
      obtain ⟨assetId,mem,none⟩ := found
      exact ⟨assetId,mem,(missingIff kept assetId).mp none⟩

def publishId (assetId : String) : PublisherCall := .publish {entityId := assetId} (Nat.two_pow_pos 64)
def seventeenIds : List String := ["a","b","c","d","e","f","g","h","i","j","k","l","m","n","o","p","q"]
theorem seventeenthLeftOut :
    ¬ ∀ (calls : List PublisherCall) (assetIds : List String) (result : DepthBatchReadResult),
    readDepthBatchByAssetId (afterCalls calls).1 assetIds = some result →
      Complete (afterCalls calls).2 assetIds result := by
  intro claimed
  have shown : (readDepthBatchByAssetId (afterCalls (seventeenIds.map publishId)).1 seventeenIds).any
    (fun result =>
      result.ok && decide (result.count ≠ seventeenIds.length)) = true := by decide +kernel
  obtain ⟨result,read,state⟩ := (Option.any_eq_true _ _).mp shown
  rw [Bool.and_eq_true,decide_eq_true_eq] at state
  exact state.2 (claimed _ _ result read state.1).1.1

end Polytope.DepthBatch
