import Mathlib.Algebra.Group.Nat.Defs
import Mathlib.Data.List.Induction

/-! Numbers written as hexadecimal words of a fixed width, and texts that spell such a word in either letter case,
with or without a prefix. -/
namespace Polytope.HexText

abbrev Text := List Char
def hexChars : Text := "0123456789abcdefABCDEF".toList
def hexValue (c : Char) : Nat :=
  if '0' ≤ c ∧ c ≤ '9' then c.toNat - '0'.toNat
  else if 'a' ≤ c ∧ c ≤ 'f' then 10 + (c.toNat - 'a'.toNat)
  else if 'A' ≤ c ∧ c ≤ 'F' then 10 + (c.toNat - 'A'.toNat)
  else 0
def number (text : Text) : Nat := text.foldl (fun value c => value * 16 + hexValue c) 0
def word : Nat → Nat → Text
  | 0,_ => []
  | width + 1,n => word width (n / 16) ++ [Nat.digitChar (n % 16)]
def IsHex (text : Text) : Prop := ∀ c ∈ text, c ∈ hexChars
instance (text : Text) : Decidable (IsHex text) := List.decidableBAll (· ∈ hexChars) text
def lower (text : Text) : Text := text.map Char.toLower
def Spells (text digits : Text) : Prop :=
  ∃ head ∈ [[],['0','x'],['0','X']], ∃ body, text = head ++ body ∧ lower body = digits

theorem charWritten : ∀ c ∈ hexChars, hexValue c < 16 ∧ Nat.digitChar (hexValue c) = c.toLower ∧
    c.toLower ∈ hexChars := by
  intro c mem
  have checked : hexChars.all
    (fun c => decide (hexValue c < 16 ∧ Nat.digitChar (hexValue c) = c.toLower ∧ c.toLower ∈ hexChars)) =
    true := by
    decide
  exact of_decide_eq_true (List.all_eq_true.mp checked c mem)
theorem digitRead : ∀ n < 16, hexValue (Nat.digitChar n) = n ∧ Nat.digitChar n ∈ hexChars ∧
    (Nat.digitChar n).toLower = Nat.digitChar n := by
  decide
@[simp] theorem wordLength (width n : Nat) : (word width n).length = width := by
  induction width generalizing n with
  | zero => rfl
  | succ width ih => simp [word,ih]
theorem wordHex (width n : Nat) : IsHex (word width n) ∧ lower (word width n) = word width n := by
  induction width generalizing n with
  | zero => exact ⟨fun _ mem => (nomatch mem),rfl⟩
  | succ width ih =>
    obtain ⟨-,hex,low⟩ := digitRead (n % 16) (Nat.mod_lt _ (by decide))
    obtain ⟨front,same⟩ := ih (n / 16)
    refine ⟨fun c mem => ?_,?_⟩
    · rcases List.mem_append.mp mem with mem | mem
      · exact front c mem
      · exact List.mem_singleton.mp mem ▸ hex
    · rw [lower] at same
      rw [word,lower,List.map_append,same,List.map_singleton,low]
theorem numberSnoc (text : Text) (c : Char) : number (text ++ [c]) = number text * 16 + hexValue c := by
  simp [number]
theorem numberWord (width n : Nat) : number (word width n) = n % 16 ^ width := by
  induction width generalizing n with
  | zero => simp [number,word,Nat.mod_one]
  | succ width ih =>
    rw [word,numberSnoc,ih,(digitRead (n % 16) (Nat.mod_lt _ (by decide))).1,Nat.pow_succ',Nat.mod_mul]
    omega
theorem numberFits {text : Text} (hex : IsHex text) : number text < 16 ^ text.length := by
  induction text using List.reverseRecOn with
  | nil => exact Nat.one_pos
  | append_singleton text c ih =>
    have front := ih fun d mem => hex d (List.mem_append_left _ mem)
    have last := (charWritten c (hex c (by simp))).1
    rw [numberSnoc,List.length_append,List.length_singleton,Nat.pow_succ]
    omega
theorem wordNumber {text : Text} (hex : IsHex text) : word text.length (number text) = lower text := by
  induction text using List.reverseRecOn with
  | nil => rfl
  | append_singleton text c ih =>
    have front := ih fun d mem => hex d (List.mem_append_left _ mem)
    obtain ⟨small,written,-⟩ := charWritten c (hex c (by simp))
    have above : (number text * 16 + hexValue c) / 16 = number text := by omega
    have last : (number text * 16 + hexValue c) % 16 = hexValue c := by omega
    rw [numberSnoc,List.length_append,List.length_singleton,word,above,last,front,written]
    simp [lower]
theorem wordSplit (high low n : Nat) : word (high + low) n = word high (n / 16 ^ low) ++ word low n := by
  induction low generalizing n with
  | zero => simp [word]
  | succ low ih =>
    rw [← Nat.add_assoc,word,word,ih,Nat.div_div_eq_div_mul,← Nat.pow_succ',List.append_assoc]
theorem wordZero (width : Nat) : word width 0 = List.replicate width '0' := by
  induction width with
  | zero => rfl
  | succ width ih =>
    rw [word,Nat.zero_div,ih,List.replicate_succ']
    rfl

theorem charLowerTwice (c : Char) : c.toLower.toLower = c.toLower := by
  by_cases upper : 'A'.val ≤ c.val ∧ c.val ≤ 'Z'.val
  · have shifted : 'Z'.val < c.toLower.val := by
      unfold Char.toLower
      rw [dif_pos upper]
      simp only [UInt32.le_iff_toNat_le,UInt32.lt_iff_toNat_lt] at upper ⊢
      simp at upper ⊢
      omega
    conv => lhs; unfold Char.toLower
    exact dif_neg fun again => absurd shifted (UInt32.not_lt.mpr again.2)
  · have same : c.toLower = c := dif_neg upper
    rw [same,same]
theorem lowerTwice (text : Text) : lower (lower text) = lower text := by
  unfold lower
  rw [List.map_map]
  exact List.map_congr_left fun c _ => charLowerTwice c
def bodyOf (text : Text) : Text :=
  lower (if text.take 2 = ['0','x'] ∨ text.take 2 = ['0','X'] then text.drop 2 else text)
theorem spellsBody {text digits : Text} (hex : IsHex digits) : Spells text digits ↔ bodyOf text = digits := by
  unfold bodyOf
  constructor
  · rintro ⟨head,mem,body,rfl,rfl⟩
    simp only [List.mem_cons,List.not_mem_nil,or_false] at mem
    rcases mem with rfl | rfl | rfl
    · have unmarked : ¬ (body.take 2 = ['0','x'] ∨ body.take 2 = ['0','X']) := by
        have foreign : ∀ c, body.take 2 = ['0',c] → c.toLower ∈ hexChars := by
          intro c marked
          exact hex _ (List.mem_map_of_mem
            (List.mem_of_mem_take (marked ▸ List.mem_cons_of_mem _ List.mem_cons_self)))
        rintro (marked | marked)
        · exact absurd (foreign 'x' marked) (by decide)
        · exact absurd (foreign 'X' marked) (by decide)
      rw [List.nil_append,if_neg unmarked]
    · rfl
    · rfl
  · intro same
    split at same
    · next marked =>
      rcases marked with marked | marked
      · exact ⟨['0','x'],by simp,text.drop 2,by rw [← marked,List.take_append_drop],same⟩
      · exact ⟨['0','X'],by simp,text.drop 2,by rw [← marked,List.take_append_drop],same⟩
    · exact ⟨[],by simp,text,rfl,same⟩

end Polytope.HexText
