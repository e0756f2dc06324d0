import Mathlib.Order.Lattice
import Mathlib.Data.List.Basic

/-! A map kept in the order of its keys. Two keys that compare equal are one key, and an assignment
keeps the key that is already there. The order of the entries is part of the type, so the first entry
is always the least one. -/
namespace Polytope.OrderedMap

variable {α κ β : Type} [LinearOrder κ]

structure KeyedMap (key : α → κ) (β : Type) where
  entries : List (α × β)
  sorted : entries.Pairwise fun a b => key a.1 < key b.1

def assigned (key : α → κ) (k : α) (v : β) : List (α × β) → List (α × β)
  | [] => [(k,v)]
  | (x,y)::rest =>
    if key k < key x then (k,v)::(x,y)::rest
    else if key x < key k then (x,y)::assigned key k v rest
    else (x,v)::rest

theorem assignedMem {key : α → κ} {k : α} {v : β} {m : List (α × β)} {e} (mem : e ∈ assigned key k v m) :
    e ∈ m ∨ e.2 = v ∧ key e.1 = key k ∧ (e.1 = k ∨ e.1 ∈ m.map Prod.fst) := by
  induction m with
  | nil =>
    have eq : e = (k,v) := List.mem_singleton.mp mem
    subst eq
    exact .inr ⟨rfl,rfl,.inl rfl⟩
  | cons head rest ih =>
    obtain ⟨x,y⟩ := head
    rw [assigned] at mem
    split at mem
    · rcases List.mem_cons.mp mem with rfl | mem
      · exact .inr ⟨rfl,rfl,.inl rfl⟩
      · exact .inl mem
    · next notBefore =>
      split at mem
      · rcases List.mem_cons.mp mem with rfl | mem
        · exact .inl List.mem_cons_self
        · rcases ih mem with old | ⟨value,same,origin⟩
          · exact .inl (List.mem_cons_of_mem _ old)
          · exact .inr ⟨value,same,origin.imp_right (List.mem_cons_of_mem _)⟩
      · next notAfter =>
        rcases List.mem_cons.mp mem with rfl | mem
        · exact .inr ⟨rfl,le_antisymm (not_lt.mp notBefore) (not_lt.mp notAfter),.inr List.mem_cons_self⟩
        · exact .inl (List.mem_cons_of_mem _ mem)
theorem assignedSorted {key : α → κ} {k : α} {v : β} {m : List (α × β)}
    (sorted : m.Pairwise fun a b => key a.1 < key b.1) :
    (assigned key k v m).Pairwise fun a b => key a.1 < key b.1 := by
  induction m with
  | nil => exact List.pairwise_singleton _ _
  | cons head rest ih =>
    obtain ⟨x,y⟩ := head
    obtain ⟨least,later⟩ := List.pairwise_cons.mp sorted
    rw [assigned]
    split
    · next before =>
      refine List.pairwise_cons.mpr ⟨?_,sorted⟩
      intro e mem
      rcases List.mem_cons.mp mem with rfl | mem
      · exact before
      · exact lt_trans before (least e mem)
    · split
      · next after =>
        refine List.pairwise_cons.mpr ⟨?_,ih later⟩
        intro e mem
        rcases assignedMem mem with old | ⟨-,same,-⟩
        · exact least e old
        · exact same ▸ after
      · exact List.pairwise_cons.mpr ⟨least,later⟩

def empty {key : α → κ} : KeyedMap key β := ⟨[],List.Pairwise.nil⟩
def KeyedMap.assign {key : α → κ} (m : KeyedMap key β) (k : α) (v : β) : KeyedMap key β :=
  ⟨assigned key k v m.entries,assignedSorted m.sorted⟩
def KeyedMap.erase {key : α → κ} (m : KeyedMap key β) (k : α) : KeyedMap key β :=
  ⟨m.entries.filter fun e => decide (key e.1 ≠ key k),m.sorted.filter _⟩
def KeyedMap.find {key : α → κ} (m : KeyedMap key β) (k : α) : Option β :=
  (m.entries.find? fun e => decide (key e.1 = key k)).map Prod.snd
def KeyedMap.first {key : α → κ} (m : KeyedMap key β) : Option α := m.entries.head?.map Prod.fst
def KeyedMap.All {key : α → κ} (m : KeyedMap key β) (P : α → β → Prop) : Prop := ∀ e ∈ m.entries, P e.1 e.2

section
variable {key : α → κ} {m : KeyedMap key β}

theorem firstNone : m.first = none ↔ m.entries = [] := by
  simp [KeyedMap.first]
theorem firstSome {k : α} (found : m.first = some k) : k ∈ m.entries.map Prod.fst ∧
    ∀ e ∈ m.entries, key k ≤ key e.1 := by
  obtain ⟨entries,sorted⟩ := m
  cases entries with
  | nil => cases found
  | cons head rest =>
    have eq : head.1 = k := Option.some.inj found
    subst eq
    refine ⟨List.mem_cons_self,fun e mem => ?_⟩
    rcases List.mem_cons.mp mem with rfl | mem
    · exact le_rfl
    · exact le_of_lt ((List.pairwise_cons.mp sorted).1 e mem)

theorem emptyAll (P : α → β → Prop) : (empty : KeyedMap key β).All P := fun _ mem => nomatch mem
theorem assignAll {P : α → Prop} {Q : β → Prop} {k : α} {v : β} (all : m.All fun a b => P a ∧ Q b) (here : P k)
    (fresh : Q v) :
    (m.assign k v).All fun a b => P a ∧ Q b := by
  intro e mem
  rcases assignedMem mem with old | ⟨value,-,origin⟩
  · exact all e old
  · refine ⟨?_,value ▸ fresh⟩
    rcases origin with same | kept
    · exact same ▸ here
    · obtain ⟨old,inOld,eq⟩ := List.mem_map.mp kept
      exact eq ▸ (all old inOld).1
theorem eraseAll {P : α → β → Prop} {k : α} (all : m.All P) : (m.erase k).All P :=
  fun e mem => all e (List.mem_of_mem_filter mem)

theorem findAssigned (l : List (α × β)) (k k' : α) (v : β) :
    ((assigned key k v l).find? fun e => decide (key e.1 = key k')).map Prod.snd =
      if key k = key k' then some v else (l.find? fun e => decide (key e.1 = key k')).map Prod.snd := by
  induction l with
  | nil => by_cases asked : key k = key k' <;> simp [assigned,asked]
  | cons head rest ih =>
    obtain ⟨x,y⟩ := head
    rw [assigned]
    split
    · by_cases asked : key k = key k' <;> simp [List.find?_cons,asked]
    · next notBefore =>
      split
      · next after =>
        by_cases here : key x = key k'
        · have other : key k ≠ key k' := fun same => absurd after (by rw [here,same]; exact lt_irrefl _)
          simp [here,other]
        · simpa [List.find?_cons,here] using ih
      · next notAfter =>
        have same : key x = key k := le_antisymm (not_lt.mp notBefore) (not_lt.mp notAfter)
        by_cases asked : key k = key k' <;> simp [same,asked]
theorem findAssign (m : KeyedMap key β) (k k' : α) (v : β) : (m.assign k v).find k' = if key k = key k' then
    some v
  else m.find k' :=
  findAssigned m.entries k k' v
theorem findErase (m : KeyedMap key β) (k k' : α) : (m.erase k).find k' = if key k = key k' then none
    else m.find k' := by
  unfold KeyedMap.erase KeyedMap.find
  rw [List.find?_filter]
  split
  · next same =>
    rw [List.find?_eq_none.mpr,Option.map_none]
    intro e _ kept
    simp only [ne_eq,decide_eq_true_eq] at kept
    exact kept.1 (kept.2.trans same.symm)
  · next other =>
    congr 2
    funext e
    by_cases asked : key e.1 = key k'
    · simp [asked,Ne.symm other]
    · simp [asked]
theorem findSome {k : α} {v : β} : m.find k = some v ↔ ∃ k', key k' = key k ∧ (k',v) ∈ m.entries := by
  obtain ⟨entries,sorted⟩ := m
  unfold KeyedMap.find
  simp only [Option.map_eq_some_iff]
  constructor
  · rintro ⟨⟨k',v⟩,found,rfl⟩
    exact ⟨k',by simpa using List.find?_some found,List.mem_of_find?_eq_some found⟩
  · rintro ⟨k',same,mem⟩
    induction entries with
    | nil => cases mem
    | cons head rest ih =>
      obtain ⟨least,later⟩ := List.pairwise_cons.mp sorted
      rcases List.mem_cons.mp mem with rfl | mem
      · exact ⟨(k',v),by simp [same],rfl⟩
      · obtain ⟨e,found,value⟩ := ih later mem
        have before : key head.1 ≠ key k := by
          rw [← same]
          exact ne_of_lt (least _ mem)
        exact ⟨e,by rwa [List.find?_cons_of_neg (by simpa using before)],value⟩

end

/-! A second map kept beside the first: from a key of its values, where they have one, to their own keys. -/

section
variable {γ κ' : Type} [LinearOrder κ'] {key : α → κ} {key' : γ → κ'}

def Indexes (f : β → Option γ) (m : KeyedMap key β) (index : KeyedMap key' α) : Prop :=
  ∀ c k, index.find c = some k ↔ ∃ v, m.find k = some v ∧ f v = some c
def KeyedMap.eraseKey (index : KeyedMap key' α) : Option γ → KeyedMap key' α
  | some c => index.erase c
  | none => index
def KeyedMap.assignKey (index : KeyedMap key' α) (k : α) : Option γ → KeyedMap key' α
  | some c => index.assign c k
  | none => index

theorem findEraseKey [DecidableEq γ] (inj : Function.Injective key') (index : KeyedMap key' α)
    (dropped : Option γ) (c : γ) :
    (index.eraseKey dropped).find c = if dropped = some c then none else index.find c := by
  cases dropped with
  | none => rfl
  | some d =>
    refine (findErase index d c).trans ?_
    by_cases same : d = c
    · rw [if_pos (congrArg key' same),if_pos (congrArg some same)]
    · rw [if_neg fun h => same (inj h),if_neg fun h => same (Option.some.inj h)]
theorem findAssignKey [DecidableEq γ] (inj : Function.Injective key') (index : KeyedMap key' α) (k : α)
    (added : Option γ) (c : γ) :
    (index.assignKey k added).find c = if added = some c then some k else index.find c := by
  cases added with
  | none => rfl
  | some d =>
    refine (findAssign index d c k).trans ?_
    by_cases same : d = c
    · rw [if_pos (congrArg key' same),if_pos (congrArg some same)]
    · rw [if_neg fun h => same (inj h),if_neg fun h => same (Option.some.inj h)]

variable {f : β → Option γ} {m : KeyedMap key β} {index : KeyedMap key' α} {k : α} {v : β}

theorem indexedOnce (indexes : Indexes f m index) {c k' v'} (found : m.find k = some v) (named : f v = some c)
    (found' : m.find k' = some v') (named' : f v' = some c) : k = k' :=
  Option.some.inj (((indexes c k).mpr ⟨v,found,named⟩).symm.trans ((indexes c k').mpr ⟨v',found',named'⟩))

theorem indexesErase [DecidableEq γ] (inj : Function.Injective key) (inj' : Function.Injective key')
    (indexes : Indexes f m index)
    (found : m.find k = some v) : Indexes f (m.erase k) (index.eraseKey (f v)) := by
  intro c k'
  rw [findEraseKey inj',findErase]
  by_cases own : f v = some c
  · rw [if_pos own]
    refine ⟨nofun,?_⟩
    rintro ⟨other,kept,named⟩
    by_cases here : k = k'
    · rw [if_pos (congrArg key here)] at kept
      cases kept
    · rw [if_neg fun h => here (inj h)] at kept
      exact absurd (indexedOnce indexes found own kept named) here
  · rw [if_neg own,indexes]
    by_cases here : k = k'
    · subst here
      rw [if_pos rfl,found]
      constructor
      · rintro ⟨other,same,named⟩
        cases same
        exact absurd named own
      · rintro ⟨_,kept,_⟩
        cases kept
    · rw [if_neg fun h => here (inj h)]

theorem indexesAssign [DecidableEq γ] (inj : Function.Injective key) (inj' : Function.Injective key')
    (indexes : Indexes f m index)
    (free : m.find k = none) (unnamed : ∀ c, f v = some c → index.find c = none) :
    Indexes f (m.assign k v) (index.assignKey k (f v)) := by
  intro c k'
  rw [findAssignKey inj',findAssign]
  by_cases here : k = k'
  · subst here
    rw [if_pos rfl]
    by_cases own : f v = some c
    · rw [if_pos own]
      exact ⟨fun _ => ⟨v,rfl,own⟩,fun _ => rfl⟩
    · rw [if_neg own,indexes,free]
      constructor
      · rintro ⟨_,kept,_⟩
        cases kept
      · rintro ⟨other,same,named⟩
        cases same
        exact absurd named own
  · rw [if_neg fun h => here (inj h)]
    by_cases own : f v = some c
    · rw [if_pos own]
      refine ⟨fun same => absurd (Option.some.inj same) here,fun kept => ?_⟩
      rw [← indexes,unnamed c own] at kept
      cases kept
    · rw [if_neg own,indexes]

theorem indexesReplace (inj : Function.Injective key) (indexes : Indexes f m index) {new}
    (found : m.find k = some v)
    (same : f new = f v) : Indexes f (m.assign k new) index := by
  intro c k'
  rw [indexes,findAssign]
  by_cases here : k = k'
  · subst here
    rw [if_pos rfl,found]
    constructor
    · rintro ⟨old,here,named⟩
      cases here
      exact ⟨new,rfl,same.trans named⟩
    · rintro ⟨other,here,named⟩
      cases here
      exact ⟨v,rfl,same.symm.trans named⟩
  · rw [if_neg fun h => here (inj h)]

end

end Polytope.OrderedMap
