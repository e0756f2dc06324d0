import Mathlib.Data.List.Basic

/-! A log of frames, cut after any number of symbols: the items whose frames lie within the cut, and what the
cut leaves of the next frame. What is left is empty exactly where the cut falls between two frames. -/
namespace Polytope.FramedLog

section
variable {σ α : Type} (frame : α → List σ)

def joined (items : List α) : List σ := items.flatMap frame
-- Where frame i begins; one past the last frame is the end of the log.
def start (items : List α) (i : Nat) : Nat := (joined frame (items.take i)).length
def Boundary (items : List α) (n : Nat) : Prop := ∃ i ≤ items.length, n = start frame items i
def within (items : List α) (n : Nat) : List α :=
  (items.zipIdx.filter fun e => decide (start frame items (e.2 + 1) ≤ n)).map Prod.fst
def leftover : List α → Nat → List σ
  | [],_ => []
  | x::rest,n => if (frame x).length ≤ n then leftover rest (n - (frame x).length) else (frame x).take n

theorem startSucc (x : α) (rest : List α) (i : Nat) :
    start frame (x::rest) (i + 1) = (frame x).length + start frame rest i := by
  simp [start,joined]
theorem withinCons (x : α) (rest : List α) (n : Nat) :
    within frame (x::rest) n = if (frame x).length ≤ n then
        x::within frame rest (n - (frame x).length)
      else [] := by
  have first : start frame (x::rest) (0 + 1) = (frame x).length := by simp [start,joined]
  unfold within
  rw [List.zipIdx_cons',List.filter_cons,List.filter_map,first]
  by_cases fits : (frame x).length ≤ n
  · have later : ∀ i, start frame (x::rest) (i + 1 + 1) ≤ n ↔ start frame rest (i + 1) ≤ n - (frame x).length := by
      intro i
      rw [startSucc]
      omega
    simp [Function.comp_def,later,fits]
  · have past : ∀ i, ¬ start frame (x::rest) (i + 1 + 1) ≤ n := by
      intro i
      rw [startSucc]
      omega
    simp [Function.comp_def,past,fits]
theorem cutJoined (items : List α) (n : Nat) :
    (joined frame items).take n = joined frame (within frame items n) ++ leftover frame items n := by
  induction items generalizing n with
  | nil => simp [joined,within,leftover]
  | cons x rest ih =>
    have whole : joined frame (x::rest) = frame x ++ joined frame rest := List.flatMap_cons
    rw [withinCons,leftover,whole,List.take_append]
    split
    · next fits =>
      have head : joined frame (x::within frame rest (n - (frame x).length)) =
        frame x ++ joined frame (within frame rest (n - (frame x).length)) := List.flatMap_cons
      rw [head,List.take_of_length_le fits,ih,List.append_assoc]
    · next tooLong =>
      have none : n - (frame x).length = 0 := by omega
      rw [none,List.take_zero]
      simp [joined]
theorem leftoverPart {items : List α} {n : Nat} (left : leftover frame items n ≠ []) :
    ∃ x ∈ items, ∃ part < (frame x).length, leftover frame items n = (frame x).take part := by
  induction items generalizing n with
  | nil => exact absurd rfl left
  | cons x rest ih =>
    rw [leftover] at left ⊢
    split at left
    · next fits =>
      obtain ⟨y,mem,part⟩ := ih left
      rw [if_pos fits]
      exact ⟨y,List.mem_cons_of_mem _ mem,part⟩
    · next tooLong =>
      rw [if_neg tooLong]
      exact ⟨x,List.mem_cons_self,n,by omega,rfl⟩
theorem leftoverNil (nonempty : ∀ x, frame x ≠ []) {items : List α} {n : Nat}
    (inside : n ≤ (joined frame items).length) :
    leftover frame items n = [] ↔ Boundary frame items n := by
  induction items generalizing n with
  | nil =>
    refine iff_of_true rfl ⟨0,Nat.le_refl _,?_⟩
    simpa [joined,start] using inside
  | cons x rest ih =>
    have positive : 0 < (frame x).length := List.length_pos_iff.mpr (nonempty x)
    have whole : (joined frame (x::rest)).length = (frame x).length + (joined frame rest).length := by
      simp [joined]
    rw [leftover]
    split
    · next fits =>
      rw [ih (by omega)]
      constructor
      · rintro ⟨i,bound,here⟩
        exact ⟨i + 1,Nat.succ_le_succ bound,by rw [startSucc]; omega⟩
      · rintro ⟨i,bound,here⟩
        cases i with
        | zero =>
          have first : start frame (x::rest) 0 = 0 := rfl
          omega
        | succ i =>
          rw [startSucc] at here
          exact ⟨i,Nat.le_of_succ_le_succ bound,by omega⟩
    · next tooLong =>
      rw [List.take_eq_nil_iff]
      constructor
      · rintro (none | empty)
        · exact ⟨0,Nat.zero_le _,none⟩
        · exact absurd empty (nonempty x)
      · rintro ⟨i,-,here⟩
        cases i with
        | zero => exact .inl here
        | succ i =>
          rw [startSucc] at here
          omega
-- The items within a cut are the first of the log, and no fewer than those whose frames end before it.
theorem withinPrefix (items : List α) (n : Nat) : within frame items n <+: items := by
  induction items generalizing n with
  | nil => exact List.prefix_refl _
  | cons x rest ih =>
    rw [withinCons]
    split
    · exact List.cons_prefix_cons.mpr ⟨rfl,ih _⟩
    · exact List.nil_prefix
theorem withinReaches {items : List α} {n k : Nat} (inside : k ≤ items.length) (past : start frame items k ≤ n) :
    k ≤ (within frame items n).length := by
  induction items generalizing n k with
  | nil => exact inside
  | cons x rest ih =>
    cases k with
    | zero => exact Nat.zero_le _
    | succ k =>
      rw [startSucc] at past
      rw [withinCons,if_pos (by omega),List.length_cons]
      exact Nat.succ_le_succ (ih (Nat.le_of_succ_le_succ inside) (by omega))
theorem joinedLength (nonempty : ∀ x, frame x ≠ []) (items : List α) :
    items.length ≤ (joined frame items).length := by
  induction items with
  | nil => exact Nat.zero_le _
  | cons x rest ih =>
    have positive : 0 < (frame x).length := List.length_pos_iff.mpr (nonempty x)
    have whole : (joined frame (x::rest)).length = (frame x).length + (joined frame rest).length := by
      simp [joined]
    rw [List.length_cons,whole]
    omega
theorem withinMem {items : List α} {n : Nat} {x : α} (mem : x ∈ within frame items n) : x ∈ items := by
  obtain ⟨e,kept,rfl⟩ := List.mem_map.mp mem
  exact List.fst_mem_of_mem_zipIdx (List.mem_of_mem_filter kept)
end

end Polytope.FramedLog
