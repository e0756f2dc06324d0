import Mathlib.Data.List.AList
import Mathlib.Algebra.BigOperators.Group.List.Basic
import Mathlib.Algebra.Order.BigOperators.Group.List
import Mathlib.Tactic.Linarith

/-! Running totals by key, as a hash map of counters keeps them: a credit creates the
entry, a debit of a missing entry is ignored and an entry that reaches zero is dropped.
Dropping loses nothing as long as every credit is nonnegative. -/
namespace Polytope.Tally

variable {κ : Type*} [DecidableEq κ]

abbrev Totals (κ : Type*) := AList (fun _ : κ => Int)

def entries (t : Totals κ) : List (κ × Int) := (AList.entries t).map fun e => (e.1,e.2)
def figure (t : Totals κ) (k : κ) : Int := (t.lookup k).getD 0
def credit (t : Totals κ) (k : κ) (v : Int) : Totals κ := t.insert k (figure t k + v)
def debit (t : Totals κ) (k : κ) (v : Int) : Totals κ :=
  match t.lookup k with
  | none => t
  | some x => if x - v = 0 then t.erase k else t.insert k (x - v)

def total (items : List (κ × Int)) (k : κ) : Int := (items.map fun e => if e.1 = k then e.2 else 0).sum
def creditAll (t : Totals κ) (items : List (κ × Int)) : Totals κ := items.foldl (fun t e => credit t e.1 e.2) t
def debitAll (t : Totals κ) (items : List (κ × Int)) : Totals κ := items.foldl (fun t e => debit t e.1 e.2) t

@[simp] theorem figureEmpty (k : κ) : figure (∅ : Totals κ) k = 0 := rfl
@[simp] theorem totalNil (k : κ) : total [] k = 0 := rfl
@[simp] theorem totalCons (e : κ × Int) (items k) :
    total (e::items) k = (if e.1 = k then e.2 else 0) + total items k := by
  simp [total]

theorem totalNonneg {items : List (κ × Int)} {k} (nonneg : ∀ e ∈ items, e.1 = k → 0 ≤ e.2) :
    0 ≤ total items k := by
  induction items with
  | nil => simp
  | cons e rest ih =>
    have later := ih fun x mem => nonneg x (List.mem_cons_of_mem _ mem)
    have head := nonneg e List.mem_cons_self
    rw [totalCons]
    split
    · next same => exact Int.add_nonneg (head same) later
    · omega

theorem figureCredit (t : Totals κ) (k : κ) (v : Int) (k') :
    figure (credit t k v) k' = figure t k' + if k = k' then v else 0 := by
  by_cases same : k = k'
  · subst same
    simp [figure,credit]
  · simp [figure,credit,same,AList.lookup_insert_ne (Ne.symm same)]

theorem figureDebitOther {t : Totals κ} {k : κ} {v : Int} {k'} (other : k ≠ k') :
    figure (debit t k v) k' = figure t k' := by
  unfold debit
  split
  · rfl
  · split
    · simp [figure,AList.lookup_erase_ne other.symm]
    · simp [figure,AList.lookup_insert_ne other.symm]

-- A key whose figure is not zero has an entry, so the debit reaches it.
theorem figureDebitSelf {t : Totals κ} {k : κ} {v : Int} (reached : figure t k ≠ 0 ∨ v = 0) :
    figure (debit t k v) k = figure t k - v := by
  unfold debit
  cases found : t.lookup k with
  | none =>
    have zero : figure t k = 0 := by simp [figure,found]
    rcases reached with live | rfl
    · exact absurd zero live
    · simp
  | some x =>
    have here : figure t k = x := by simp [figure,found]
    simp only
    split
    · next empty =>
      rw [here,empty]
      simp [figure]
    · simp [figure,found]

theorem figureCreditAll (t : Totals κ) (items k) :
    figure (creditAll t items) k = figure t k + total items k := by
  induction items generalizing t with
  | nil => simp [creditAll]
  | cons e rest ih =>
    rw [totalCons,← Int.add_assoc,← figureCredit]
    exact ih (credit t e.1 e.2)

theorem figureDebitAll {t : Totals κ} {items k} (nonneg : ∀ e ∈ items, e.1 = k → 0 ≤ e.2)
    (covered : total items k ≤ figure t k) : figure (debitAll t items) k = figure t k - total items k := by
  induction items generalizing t with
  | nil => simp [debitAll]
  | cons e rest ih =>
    have later := totalNonneg fun x mem => nonneg x (List.mem_cons_of_mem e mem)
    have head := nonneg e List.mem_cons_self
    rw [totalCons] at covered ⊢
    have first : figure (debit t e.1 e.2) k = figure t k - if e.1 = k then e.2 else 0 := by
      split at covered
      · next same =>
        subst same
        have := head rfl
        rw [if_pos rfl]
        exact figureDebitSelf (by omega)
      · next other => rw [figureDebitOther other,if_neg other,Int.sub_zero]
    have step := ih (t := debit t e.1 e.2) (fun x mem => nonneg x (List.mem_cons_of_mem e mem)) (by omega)
    exact step.trans (by omega)

theorem entryKey {t : Totals κ} {k : κ} {v : Int} (mem : (k,v) ∈ entries t) : k ∈ t := by
  obtain ⟨⟨_,_⟩,here,same⟩ := List.mem_map.mp mem
  cases same
  exact AList.lookup_isSome.mp (by simp [Option.mem_def.mp (AList.mem_lookup_iff.mpr here)])

theorem entryOfFigure {t : Totals κ} {k : κ} (live : figure t k ≠ 0) : (k,figure t k) ∈ entries t := by
  cases found : t.lookup k with
  | none => simp [figure,found] at live
  | some v =>
    have here : figure t k = v := by simp [figure,found]
    rw [here]
    exact List.mem_map.mpr ⟨⟨k,v⟩,AList.mem_lookup_iff.mp (by simp [found]),rfl⟩

/-! The sum of a measure over the values of a map. -/

section
variable {β : Type*} (f : β → Int)

def sumOf (m : AList (fun _ : κ => β)) : Int := (m.entries.map fun e => f e.2).sum

omit [DecidableEq κ] in
@[simp] theorem sumOfEmpty : sumOf f (∅ : AList (fun _ : κ => β)) = 0 := rfl
theorem sumOfErase (m : AList (fun _ : κ => β)) (k) :
    sumOf f (m.erase k) = sumOf f m - ((m.lookup k).map f).getD 0 := by
  have entries : ∀ es : List (Sigma fun _ : κ => β),
      ((List.kerase k es).map fun e => f e.2).sum =
      (es.map fun e => f e.2).sum - ((List.dlookup k es).map f).getD 0 := by
    intro es
    induction es with
    | nil => simp
    | cons e rest ih =>
      obtain ⟨key,value⟩ := e
      by_cases same : k = key
      · subst same
        simp
      · rw [List.kerase_cons_ne (by simpa using same),List.dlookup_cons_ne _ _
          (by simpa using same),List.map_cons,List.map_cons,
          List.sum_cons,List.sum_cons,ih]
        omega
  exact entries m.entries
theorem sumOfInsert (m : AList (fun _ : κ => β)) (k) (value : β) :
    sumOf f (m.insert k value) = sumOf f m - ((m.lookup k).map f).getD 0 + f value := by
  have whole : sumOf f (m.insert k value) = f value + sumOf f (m.erase k) := by
    unfold sumOf
    rw [AList.entries_insert,List.map_cons,List.sum_cons]
    rfl
  rw [whole,sumOfErase]
  omega

end

end Polytope.Tally
