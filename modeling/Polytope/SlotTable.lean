import Polytope.Tally
import Mathlib.Data.Finset.Card

/-! A table of sums with a fixed number of slots. The first keys to arrive get a slot each; what comes under a key
without one is lost. So a key shows its total or nothing, and no key is lost while there are no more than slots. -/
namespace Polytope.SlotTable
open Tally

variable {κ : Type*} [DecidableEq κ]

def add (room : Nat) : List (κ × Int) → κ × Int → List (κ × Int)
  | [],e => if 0 < room then [e] else []
  | x::rest,e => if x.1 = e.1 then (x.1,x.2 + e.2)::rest else x::add (room - 1) rest e
def addAll (room : Nat) (items : List (κ × Int)) : List (κ × Int) := items.foldl (add room) []
def amountAt : List (κ × Int) → κ → Int
  | [],_ => 0
  | x::rest,k => if x.1 = k then x.2 else amountAt rest k
def claim (room : Nat) (taken : List κ) (k : κ) : List κ :=
  if k ∈ taken ∨ room ≤ taken.length then taken else taken ++ [k]
def slots (room : Nat) (keys : List κ) : List κ := keys.foldl (claim room) []

theorem addKeys (room : Nat) (table : List (κ × Int)) (e : κ × Int) :
    (add room table e).map Prod.fst = claim room (table.map Prod.fst) e.1 := by
  induction table generalizing room with
  | nil =>
    unfold add claim
    split
    · next free => simp [Nat.ne_of_gt free]
    · next none => simp [Nat.eq_zero_of_not_pos none]
  | cons x rest ih =>
    unfold add
    split
    · next same => simp [claim,same]
    · next other =>
      rw [List.map_cons,ih,List.map_cons]
      unfold claim
      have apart : e.1 ∈ x.1::rest.map Prod.fst ↔ e.1 ∈ rest.map Prod.fst := by simp [Ne.symm other]
      have room : room ≤ (x.1::rest.map Prod.fst).length ↔ room - 1 ≤ (rest.map Prod.fst).length := by
        rw [List.length_cons]
        omega
      simp only [apart,room]
      split <;> rfl
theorem amountAbsent {table : List (κ × Int)} {k : κ} (absent : k ∉ table.map Prod.fst) :
    amountAt table k = 0 := by
  induction table with
  | nil => rfl
  | cons x rest ih =>
    rw [List.map_cons,List.mem_cons,not_or] at absent
    rw [amountAt,if_neg (Ne.symm absent.1),ih absent.2]
theorem addAmount (room : Nat) (table : List (κ × Int)) (e : κ × Int) (k : κ)
    (held : k ∈ (add room table e).map Prod.fst) :
    amountAt (add room table e) k = amountAt table k + if e.1 = k then e.2 else 0 := by
  induction table generalizing room with
  | nil =>
    unfold add at held ⊢
    split
    · next free =>
      have own : e.1 = k := by simpa [free,eq_comm] using held
      simp [amountAt,own]
    · next none => simp [none] at held
  | cons x rest ih =>
    unfold add at held ⊢
    split
    · next same =>
      unfold amountAt
      rw [same]
      split
      · rfl
      · next other => simp
    · next other =>
      rw [if_neg other] at held
      unfold amountAt
      split
      · next here =>
        have elsewhere : e.1 ≠ k := fun own => other (here.trans own.symm)
        simp [elsewhere]
      · next elsewhere =>
        refine ih (room - 1) ?_
        simpa [Ne.symm elsewhere] using held

theorem claimMem {room : Nat} {taken : List κ} {k j : κ} :
    j ∈ claim room taken k ↔ j ∈ taken ∨ (j = k ∧ taken.length < room) := by
  unfold claim
  split
  · next kept =>
    constructor
    · exact .inl
    · intro either
      rcases either with old | ⟨rfl,free⟩
      · exact old
      · exact kept.resolve_right (by omega)
  · next free =>
    rw [not_or] at free
    have under : taken.length < room := by omega
    simp [under]
theorem claimLength {room : Nat} {taken : List κ} {k : κ} : taken.length ≤ (claim room taken k).length := by
  unfold claim
  split <;> simp
theorem slotsAppend (room : Nat) (keys : List κ) (k : κ) :
    slots room (keys ++ [k]) = claim room (slots room keys) k := by
  simp [slots]

structure Slotted (room : Nat) (keys taken : List κ) : Prop where
  nodup : taken.Nodup
  arrived : ∀ k ∈ taken, k ∈ keys
  within : taken.length ≤ room
  full : ∀ k ∈ keys, k ∉ taken → room ≤ taken.length

theorem slotted (room : Nat) (keys : List κ) : Slotted room keys (slots room keys) := by
  induction keys using List.reverseRecOn with
  | nil => exact ⟨List.nodup_nil,fun _ mem => (nomatch mem),Nat.zero_le room,fun _ mem => (nomatch mem)⟩
  | append_singleton keys k ih =>
    rw [slotsAppend]
    refine ⟨?_,?_,?_,?_⟩
    · unfold claim
      split
      · exact ih.nodup
      · next free =>
        rw [not_or] at free
        exact List.Nodup.append ih.nodup (List.nodup_singleton k) (by simpa using free.1)
    · intro j mem
      rcases claimMem.mp mem with old | ⟨rfl,-⟩
      · exact List.mem_append_left _ (ih.arrived j old)
      · simp
    · unfold claim
      split
      · exact ih.within
      · next free =>
        rw [List.length_append,List.length_singleton]
        omega
    · intro j mem lost
      rw [claimMem,not_or,not_and_or,not_lt] at lost
      rcases List.mem_append.mp mem with old | new
      · exact le_trans (ih.full j old lost.1) claimLength
      · exact le_trans (lost.2.resolve_left (fun other => other (List.mem_singleton.mp new))) claimLength

theorem addAllKeys (room : Nat) (items : List (κ × Int)) :
    (addAll room items).map Prod.fst = slots room (items.map Prod.fst) := by
  induction items using List.reverseRecOn with
  | nil => rfl
  | append_singleton items e ih =>
    rw [List.map_append,List.map_singleton,slotsAppend,← ih,← addKeys]
    simp [addAll]
theorem totalAbsent {items : List (κ × Int)} {k : κ} (absent : k ∉ items.map Prod.fst) : total items k = 0 := by
  induction items with
  | nil => rfl
  | cons e rest ih =>
    rw [List.map_cons,List.mem_cons,not_or] at absent
    rw [totalCons,if_neg (Ne.symm absent.1),ih absent.2,Int.zero_add]
theorem totalAppend (items : List (κ × Int)) (e : κ × Int) (k : κ) :
    total (items ++ [e]) k = total items k + if e.1 = k then e.2 else 0 := by
  simp [total]

theorem addAllAmount (room : Nat) (items : List (κ × Int)) (k : κ) :
    amountAt (addAll room items) k = if k ∈ slots room (items.map Prod.fst) then total items k else 0 := by
  split
  · next held =>
    induction items using List.reverseRecOn with
    | nil => rfl
    | append_singleton items e ih =>
      have step : addAll room (items ++ [e]) = add room (addAll room items) e := by simp [addAll]
      have there : k ∈ (add room (addAll room items) e).map Prod.fst := by
        rw [← step,addAllKeys]
        exact held
      rw [step,addAmount room _ e k there,totalAppend]
      by_cases before : k ∈ slots room (items.map Prod.fst)
      · rw [ih before]
      · -- A key that only now gets its slot has not come before: no slot it was refused is free again.
        rw [List.map_append,List.map_singleton,slotsAppend,claimMem] at held
        obtain ⟨-,free⟩ := held.resolve_left before
        have unseen : k ∉ items.map Prod.fst := fun seen => by
          have := (slotted room _).full k seen before
          omega
        rw [amountAbsent (by rw [addAllKeys]; exact before),totalAbsent unseen]
  · next lost => exact amountAbsent (by rw [addAllKeys]; exact lost)

theorem slotsAll (room : Nat) (keys : List κ) : (∀ k ∈ keys, k ∈ slots room keys) ↔ keys.toFinset.card ≤ room := by
  have ok := slotted room keys
  have count : (slots room keys).toFinset.card = (slots room keys).length := List.toFinset_card_of_nodup ok.nodup
  have inside : (slots room keys).toFinset ⊆ keys.toFinset := fun k mem => by
    rw [List.mem_toFinset] at mem ⊢
    exact ok.arrived k mem
  constructor
  · intro all
    have same : keys.toFinset ⊆ (slots room keys).toFinset := fun k mem => by
      rw [List.mem_toFinset] at mem ⊢
      exact all k mem
    calc keys.toFinset.card ≤ (slots room keys).toFinset.card := Finset.card_le_card same
      _ ≤ room := count ▸ ok.within
  · intro few k mem
    by_contra lost
    have more : (slots room keys).toFinset ⊂ keys.toFinset :=
      (Finset.ssubset_iff_of_subset inside).mpr ⟨k,List.mem_toFinset.mpr mem,by rwa [List.mem_toFinset]⟩
    have bigger := Finset.card_lt_card more
    have full := ok.full k mem lost
    omega

theorem amountMember {table : List (κ × Int)} (nodup : (table.map Prod.fst).Nodup) {e : κ × Int}
    (mem : e ∈ table) : amountAt table e.1 = e.2 := by
  induction table with
  | nil => cases mem
  | cons x rest ih =>
    rw [List.map_cons,List.nodup_cons] at nodup
    rcases List.mem_cons.mp mem with rfl | later
    · exact if_pos rfl
    · have apart : x.1 ≠ e.1 := fun same => nodup.1 (same ▸ List.mem_map_of_mem later)
      rw [amountAt,if_neg apart,ih nodup.2 later]
-- With a slot for every key the entries are the totals of the keys.
theorem addAllEntries {room : Nat} {items : List (κ × Int)} (few : (items.map Prod.fst).toFinset.card ≤ room)
    (fits : κ → Int → Prop) :
    (∀ e ∈ addAll room items, fits e.1 e.2) ↔ ∀ k ∈ items.map Prod.fst, fits k (total items k) := by
  have keys := addAllKeys room items
  have ok := slotted room (items.map Prod.fst)
  have nodup : ((addAll room items).map Prod.fst).Nodup := keys ▸ ok.nodup
  have amount : ∀ k ∈ items.map Prod.fst, amountAt (addAll room items) k = total items k := by
    intro k mem
    rw [addAllAmount,if_pos ((slotsAll room _).mpr few k mem)]
  constructor
  · intro each k mem
    have slot : k ∈ (addAll room items).map Prod.fst := by
      rw [keys]
      exact (slotsAll room _).mpr few k mem
    obtain ⟨e,inside,rfl⟩ := List.mem_map.mp slot
    rw [← amount e.1 mem,amountMember nodup inside]
    exact each e inside
  · intro each e mem
    have arrived : e.1 ∈ items.map Prod.fst := ok.arrived e.1 (keys ▸ List.mem_map_of_mem mem)
    have same := amountMember nodup mem
    rw [amount e.1 arrived] at same
    rw [← same]
    exact each e.1 arrived

end Polytope.SlotTable
