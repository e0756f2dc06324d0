import Polytope.Sorting

/-! An inverted index lists, under every key, the ids of the items that carry the key. A scan for a set of
keys gathers the listed ids, each once, orders them and looks the items up again: when the items are ordered
by id this is the filter of all items by those keys. -/
namespace Polytope.InvertedIndex
open Sorting (risingEq)

variable {α κ ι : Type}

/-! Posting. -/

section
variable [DecidableEq κ] (idOf : α → ι) (keysOf : α → List κ)

def postKey (id : ι) (index : κ → List ι) (key : κ) : κ → List ι := Function.update index key (index key ++ [id])
def post (index : κ → List ι) (item : α) : κ → List ι := (keysOf item).foldl (postKey (idOf item)) index

theorem postKeysMem {keys : List κ} {index : κ → List ι} {id other : ι} {key : κ} :
    other ∈ keys.foldl (postKey id) index key ↔ other ∈ index key ∨ id = other ∧ key ∈ keys := by
  induction keys generalizing index with
  | nil => simp
  | cons first rest ih =>
    rw [List.foldl_cons,ih,postKey,List.mem_cons]
    by_cases here : key = first
    · subst here
      simp only [Function.update_self,List.mem_append,List.mem_singleton,true_or,and_true]
      constructor
      · rintro ((old | rfl) | ⟨rfl,_⟩)
        · exact .inl old
        · exact .inr rfl
        · exact .inr rfl
      · rintro (old | rfl)
        · exact .inl (.inl old)
        · exact .inl (.inr rfl)
    · simp [here]
theorem postAllMem {items : List α} {index : κ → List ι} {id : ι} {key : κ} :
    id ∈ items.foldl (post idOf keysOf) index key ↔
      id ∈ index key ∨ ∃ item ∈ items, idOf item = id ∧ key ∈ keysOf item := by
  induction items generalizing index with
  | nil => simp
  | cons item rest ih =>
    rw [List.foldl_cons,ih,post,postKeysMem,or_assoc,List.exists_mem_cons_iff]
end

/-! Gathering. -/

section
variable [DecidableEq ι]

def addFresh (seen : List ι) (id : ι) : List ι := if id ∈ seen then seen else seen ++ [id]
def gather (ids : List ι) : List ι := ids.foldl addFresh []

theorem addFreshMem {seen : List ι} {id other} : other ∈ addFresh seen id ↔ other ∈ seen ∨ other = id := by
  unfold addFresh
  split
  · next old => exact ⟨.inl,fun here => here.elim (fun there => there) fun same => same ▸ old⟩
  · exact List.mem_append.trans (or_congr Iff.rfl List.mem_singleton)
theorem addFreshNodup {seen : List ι} {id} (distinct : seen.Nodup) : (addFresh seen id).Nodup := by
  unfold addFresh
  split
  · exact distinct
  · next fresh => exact List.nodup_append.mpr ⟨distinct,List.nodup_singleton id,fun a old b last same =>
      fresh (List.mem_singleton.mp last ▸ same ▸ old)⟩
theorem gatherMem {ids : List ι} {id} : id ∈ gather ids ↔ id ∈ ids := by
  have all : ∀ (rest seen : List ι), id ∈ rest.foldl addFresh seen ↔ id ∈ seen ∨ id ∈ rest := by
    intro rest
    induction rest with
    | nil => simp
    | cons next rest ih =>
      intro seen
      rw [List.foldl_cons,ih,addFreshMem,List.mem_cons,or_assoc]
  exact (all ids []).trans (by simp)
theorem gatherNodup (ids : List ι) : (gather ids).Nodup := by
  have all : ∀ (rest seen : List ι), seen.Nodup → (rest.foldl addFresh seen).Nodup := by
    intro rest
    induction rest with
    | nil => exact fun _ distinct => distinct
    | cons next rest ih => exact fun seen distinct => ih _ (addFreshNodup distinct)
  exact all ids [] List.nodup_nil
end

-- Runs of equal neighbours cut to one.
def unique [DecidableEq ι] : List ι → List ι
  | [] => []
  | [id] => [id]
  | id::next::rest => if id = next then unique (next::rest) else id::unique (next::rest)
theorem uniqueMem [DecidableEq ι] {ids : List ι} {id} : id ∈ unique ids ↔ id ∈ ids := by
  fun_induction unique ids with
  | case1 => rfl
  | case2 => rfl
  | case3 first rest ih =>
    rw [ih]
    simp
  | case4 first next rest apart ih => rw [List.mem_cons,ih,List.mem_cons (l := next::rest)]

/-! Looking up. -/

theorem positionAppended [DecidableEq ι] {ids : List ι} {find : ι → Option Nat}
    (finds : ∀ id i, find id = some i ↔ ids[i]? = some id) {last : ι} (fresh : last ∉ ids) (id i) :
    Function.update find last (some ids.length) id = some i ↔ (ids ++ [last])[i]? = some id := by
  rw [List.getElem?_append]
  by_cases here : id = last
  · subst here
    rw [Function.update_self]
    split
    · next inside =>
      refine iff_of_false (fun same => ?_) fun found => fresh (List.mem_of_getElem? found)
      have position := Option.some.inj same
      omega
    · next outside =>
      rw [List.getElem?_eq_some_iff]
      constructor
      · intro same
        have position := Option.some.inj same
        exact ⟨by rw [List.length_singleton]; omega,List.getElem_singleton _⟩
      · rintro ⟨bound,_⟩
        rw [List.length_singleton] at bound
        exact congrArg some (by omega)
  · rw [Function.update_of_ne here,finds]
    split
    · rfl
    · next outside =>
      refine iff_of_false (fun found => outside (List.getElem?_eq_some_iff.mp found).1) fun found => ?_
      exact here (List.mem_singleton.mp (List.mem_of_getElem? found))

section
variable [LinearOrder ι] {idOf : α → ι}

theorem sortedIds (ids : List ι) : ((gather ids).insertionSort (· ≤ ·)).Pairwise (· < ·) := by
  have ordered := List.pairwise_insertionSort (· ≤ ·) (gather ids)
  have apart := ((List.perm_insertionSort (· ≤ ·) (gather ids)).nodup_iff).mpr (gatherNodup ids)
  exact (ordered.and apart).imp fun ⟨below,differ⟩ => lt_of_le_of_ne below differ

theorem scanIsFilter {items : List α} {find : ι → Option α} (rising : items.Pairwise fun a b => idOf a < idOf b)
    (finds : ∀ id item, find id = some item ↔ item ∈ items ∧ idOf item = id) (ids : List ι) :
    ((gather ids).insertionSort (· ≤ ·)).filterMap find = items.filter fun item => decide (idOf item ∈ ids) := by
  have distinct : ∀ {found : List α}, (found.Pairwise fun a b => idOf a < idOf b) → found.Nodup :=
    fun ordered => ordered.imp fun below equal => absurd (equal ▸ below) (lt_irrefl _)
  have scanned : (((gather ids).insertionSort (· ≤ ·)).filterMap find).Pairwise fun a b => idOf a < idOf b := by
    refine List.pairwise_filterMap.mpr ((sortedIds ids).imp fun below a here b there => ?_)
    rwa [((finds _ a).mp here).2,((finds _ b).mp there).2]
  have filtered := rising.sublist (List.filter_sublist (p := fun item => decide (idOf item ∈ ids)))
  refine risingEq ((List.perm_ext_iff_of_nodup (distinct scanned) (distinct filtered)).mpr fun item => ?_)
    scanned filtered
  rw [List.mem_filterMap,List.mem_filter,decide_eq_true_iff]
  simp only [(List.perm_insertionSort _ _).mem_iff,gatherMem]
  constructor
  · rintro ⟨id,listed,here⟩
    obtain ⟨there,rfl⟩ := (finds id item).mp here
    exact ⟨there,listed⟩
  · exact fun ⟨there,listed⟩ => ⟨idOf item,listed,(finds _ item).mpr ⟨there,rfl⟩⟩
end

end Polytope.InvertedIndex
