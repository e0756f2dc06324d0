import Mathlib.Data.List.Basic
import Mathlib.Logic.Function.Basic
import Mathlib.Order.Defs.LinearOrder
import Mathlib.Algebra.Order.Group.Nat

/-! A circle of slots that keeps the newest entries of a log, and a reader that resumes at a position.
Entry k of the log goes to slot k modulo the size of the circle. Nothing here depends on what an entry is. -/
namespace Polytope.CircularLog

variable {α : Type*}

/-! The slots. -/

-- Entry k of n is the newest of slot i.
structure Newest (size n i k : Nat) : Prop where
  written : k < n
  kept : n ≤ k + size
  placed : k % size = i

theorem apartPlaces {size k n : Nat} (older : k < n) (near : n < k + size) : k % size ≠ n % size := by
  intro same
  obtain ⟨turns,apart⟩ := Nat.dvd_of_mod_eq_zero (Nat.sub_mod_eq_zero_of_mod_eq same.symm)
  have some : turns ≠ 0 := fun zero => by
    rw [zero,Nat.mul_zero] at apart
    omega
  have whole : size ≤ size * turns := Nat.le_mul_of_pos_right size (Nat.pos_of_ne_zero some)
  omega
theorem newestPush {size n i k : Nat} (positive : 0 < size) :
    Newest size (n + 1) i k ↔ if i = n % size then k = n else Newest size n i k := by
  constructor
  · intro newest
    have written := newest.written
    have kept := newest.kept
    rcases Nat.lt_succ_iff_lt_or_eq.mp written with older | last
    · rw [if_neg fun here => apartPlaces older (by omega) (newest.placed.trans here)]
      exact ⟨older,by omega,newest.placed⟩
    · rw [if_pos (last ▸ newest.placed.symm)]
      exact last
  · intro newest
    split at newest
    · next here =>
      subst here newest
      exact ⟨by omega,by omega,rfl⟩
    · next elsewhere =>
      have kept := newest.kept
      have written := newest.written
      have later : n ≠ k + size := fun turned => elsewhere (by rw [turned,Nat.add_mod_right,newest.placed])
      exact ⟨by omega,by omega,newest.placed⟩

def Keeps (size : Nat) (log : List α) (held : Nat → Option (Nat × α)) : Prop :=
  ∀ i < size, ∀ k x, held i = some (k,x) ↔ Newest size log.length i k ∧ log[k]? = some x

theorem keepsNothing (size : Nat) : Keeps (α := α) size [] fun _ => none :=
  fun _ _ _ _ => ⟨fun held => (by cases held),fun kept => absurd kept.1.written (Nat.not_lt_zero _)⟩
theorem keepsPush {size : Nat} {log : List α} {held : Nat → Option (Nat × α)} (positive : 0 < size)
    (keeps : Keeps size log held) (x : α) :
    Keeps size (log ++ [x]) (Function.update held (log.length % size) (some (log.length,x))) := by
  intro i inside k y
  rw [List.length_append,List.length_singleton,newestPush positive]
  rcases eq_or_ne i (log.length % size) with rfl | elsewhere
  · rw [Function.update_self,if_pos rfl,Option.some_inj,Prod.mk.injEq]
    constructor
    · rintro ⟨rfl,rfl⟩
      exact ⟨rfl,List.getElem?_concat_length⟩
    · rintro ⟨rfl,found⟩
      exact ⟨rfl,Option.some_inj.mp (List.getElem?_concat_length.symm.trans found)⟩
  · rw [Function.update_of_ne elsewhere,if_neg elsewhere,keeps i inside]
    exact and_congr_right fun newest => by rw [List.getElem?_append_left newest.written]

theorem readRecent {size : Nat} {log : List α} {held : Nat → Option (Nat × α)}
    (keeps : Keeps size log held) {k : Nat}
    (inside : k < log.length) (recent : log.length ≤ k + size) : held (k % size) = some (k,log[k]) :=
  (keeps (k % size) (Nat.mod_lt k (by omega)) k log[k]).mpr ⟨⟨inside,recent,rfl⟩,List.getElem?_eq_getElem inside⟩

/-! The reader. -/

def newest (size : Nat) (log : List α) : List α := log.drop (log.length - size)
def since (size : Nat) (log : List α) (seen limit : Nat) : List α :=
  (log.drop (max seen (log.length - size))).take limit

theorem sinceResumes {size seen : Nat} {log : List α} (near : log.length ≤ seen + size) (limit : Nat) :
    log.take seen ++ since size log seen limit = log.take (seen + limit) := by
  rw [since,max_eq_left (by omega),List.take_add]
-- The entries are numbered from one on.
theorem sinceNumbered {number : α → Nat} {log : List α} (numbered : ∀ i x, log[i]? = some x → number x = i + 1)
    (size seen limit : Nat) :
    ((newest size log).filter fun x => decide (seen < number x)).take limit = since size log seen limit := by
  have parts := List.take_append_drop (seen - (log.length - size)) (newest size log)
  have place {i : Nat} {x : α} (found : (newest size log)[i]? = some x) :
    number x = log.length - size + i + 1 := by
    rw [newest,List.getElem?_drop] at found
    exact numbered _ x found
  have old : ((newest size log).take (seen - (log.length - size))).filter
    (fun x => decide (seen < number x)) = [] := by
    rw [List.filter_eq_nil_iff]
    intro x mem
    obtain ⟨i,found⟩ := List.mem_iff_getElem?.mp mem
    rw [List.getElem?_take] at found
    split at found
    · rw [place found,decide_eq_true_iff]
      omega
    · cases found
  have unread : ((newest size log).drop (seen - (log.length - size))).filter (fun x => decide (seen < number x)) =
      (newest size log).drop (seen - (log.length - size)) := by
    rw [List.filter_eq_self]
    intro x mem
    obtain ⟨i,found⟩ := List.mem_iff_getElem?.mp mem
    rw [List.getElem?_drop] at found
    rw [place found,decide_eq_true_iff]
    omega
  have start : log.length - size + (seen - (log.length - size)) = max seen (log.length - size) := by omega
  rw [← parts,List.filter_append,old,unread,List.nil_append,newest,List.drop_drop,start,since]
-- What the last entry taken says of where to go on.
theorem resumePoint {number : α → Nat} {log : List α} (numbered : ∀ i x, log[i]? = some x → number x = i + 1)
    {limit : Nat} {last : α}
    (found : (log.take limit).getLast? = some last) : number last ≤ log.length ∧
    log.take (number last) = log.take limit := by
  rw [List.getLast?_eq_getElem?,List.length_take,List.getElem?_take] at found
  split at found
  · have place := numbered _ last found
    obtain ⟨inside,_⟩ := List.getElem?_eq_some_iff.mp found
    refine ⟨by omega,List.take_eq_take_iff.mpr ?_⟩
    omega
  · cases found

end Polytope.CircularLog
