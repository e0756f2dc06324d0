import Polytope.OrderedMap

/-! A map that writes go to one after the other: a write puts a value under a key, or takes the key out where its
value counts as gone. The map holds a value exactly when the last write to the key wrote it. -/
namespace Polytope.LastWrite
open OrderedMap (KeyedMap empty)

section
variable {α β κ : Type} [DecidableEq κ]

def lastWrite (key : α → κ) (writes : List (α × β)) (k : α) : Option β :=
  (writes.reverse.find? fun w => decide (key w.1 = key k)).map Prod.snd
theorem lastWriteSnoc (key : α → κ) (writes : List (α × β)) (w : α × β) (k : α) :
    lastWrite key (writes ++ [w]) k = if key w.1 = key k then some w.2 else lastWrite key writes k := by
  unfold lastWrite
  rw [List.reverse_append,List.reverse_singleton,List.singleton_append,List.find?_cons]
  split
  · next here => rw [if_pos (of_decide_eq_true here),Option.map_some]
  · next elsewhere => rw [if_neg (of_decide_eq_false elsewhere)]
theorem lastWriteMem {key : α → κ} {writes : List (α × β)} {k : α} {v : β}
    (last : lastWrite key writes k = some v) :
    ∃ w ∈ writes, key w.1 = key k ∧ w.2 = v := by
  obtain ⟨w,found,same⟩ := Option.map_eq_some_iff.mp last
  exact ⟨w,List.mem_reverse.mp (List.mem_of_find?_eq_some found),by simpa using List.find?_some found,same⟩
theorem lastWriteCongr {κ' : Type} [DecidableEq κ'] {key : α → κ} {key' : α → κ'}
    (same : ∀ a b, key a = key b ↔ key' a = key' b)
    (writes : List (α × β)) (k : α) : lastWrite key writes k = lastWrite key' writes k := by
  simp only [lastWrite,same]
end

variable {α β κ : Type} [LinearOrder κ] {key : α → κ} (gone : β → Prop) [DecidablePred gone]

def write (m : KeyedMap key β) (w : α × β) : KeyedMap key β := if gone w.2 then m.erase w.1 else m.assign w.1 w.2
def writeAll (m : KeyedMap key β) (writes : List (α × β)) : KeyedMap key β := writes.foldl (write gone) m
def Holds (m : KeyedMap key β) (writes : List (α × β)) : Prop :=
  ∀ k v, m.find k = some v ↔ ¬ gone v ∧ lastWrite key writes k = some v

variable {gone}

omit [DecidablePred gone] in
theorem emptyHolds : Holds gone (empty : KeyedMap key β) [] := by
  intro k v
  simp [KeyedMap.find,empty,lastWrite]
theorem writeHolds {m : KeyedMap key β} {writes : List (α × β)} (holds : Holds gone m writes) (w : α × β) :
    Holds gone (write gone m w) (writes ++ [w]) := by
  intro k v
  rw [lastWriteSnoc]
  unfold write
  split
  · next taken =>
    rw [OrderedMap.findErase]
    split
    · constructor
      · exact fun none => (nomatch none)
      · rintro ⟨kept,same⟩
        cases same
        exact absurd taken kept
    · exact holds k v
  · next put =>
    rw [OrderedMap.findAssign]
    split
    · constructor
      · intro same
        cases same
        exact ⟨put,rfl⟩
      · exact And.right
    · exact holds k v
theorem writeAllAppend (m : KeyedMap key β) (writes more : List (α × β)) :
    writeAll gone m (writes ++ more) = writeAll gone (writeAll gone m writes) more := List.foldl_append
theorem writeAllHolds {m : KeyedMap key β} {writes : List (α × β)} (holds : Holds gone m writes)
    (more : List (α × β)) :
    Holds gone (writeAll gone m more) (writes ++ more) := by
  induction more generalizing m writes with
  | nil => simpa [writeAll] using holds
  | cons w rest ih =>
    have next := ih (writeHolds holds w)
    rw [List.append_assoc,List.singleton_append] at next
    exact next

end Polytope.LastWrite
