import Mathlib.Data.List.Basic

/-! Encodings that mark their own end. Delimits says that two streams which begin with the encodings of values
that fit are one stream exactly when the values have one content and the rests are one. It is closed under
concatenation, options behind a flag and counted repetition. -/
namespace Polytope.Delimiting

def Delimits {σ α γ : Type} (fits : α → Prop) (encode : α → List σ) (content : α → γ) : Prop :=
  ∀ a b s t, fits a → fits b → (encode a ++ s = encode b ++ t ↔ content a = content b ∧ s = t)

section
variable {σ α β γ δ : Type} {fits : α → Prop} {encode : α → List σ} {content : α → γ}

theorem terminated {stop : σ} {xs ys s t : List σ} (absentXs : stop ∉ xs) (absentYs : stop ∉ ys) :
    xs ++ stop::s = ys ++ stop::t ↔ xs = ys ∧ s = t := by
  induction xs generalizing ys with
  | nil =>
    cases ys with
    | nil => simp
    | cons y ys =>
      have other : stop ≠ y := List.ne_of_not_mem_cons absentYs
      simp [other]
  | cons x xs ih =>
    have other : x ≠ stop := (List.ne_of_not_mem_cons absentXs).symm
    cases ys with
    | nil => simp [other]
    | cons y ys =>
      have rest := ih (List.not_mem_of_not_mem_cons absentXs) (List.not_mem_of_not_mem_cons absentYs)
      rw [List.cons_append,List.cons_append,List.cons.injEq,List.cons.injEq,rest,and_assoc]
theorem delimitsWhole (delimits : Delimits fits encode content) {a b : α} (fitsA : fits a) (fitsB : fits b) :
    encode a = encode b ↔ content a = content b := by
  have rests := delimits a b [] [] fitsA fitsB
  simpa using rests
theorem delimitsFixed {width : Nat} (size : ∀ a, (encode a).length = width)
    (injective : ∀ a b, fits a → fits b → (encode a = encode b ↔ content a = content b)) :
    Delimits fits encode content := by
  intro a b s t fitsA fitsB
  rw [← injective a b fitsA fitsB]
  constructor
  · exact fun whole => List.append_inj whole ((size a).trans (size b).symm)
  · rintro ⟨front,rest⟩
    rw [front,rest]
theorem delimitsOn {narrow : α → Prop} (delimits : Delimits fits encode content)
    (within : ∀ a, narrow a → fits a) :
    Delimits narrow encode content :=
  fun a b s t fitsA fitsB => delimits a b s t (within a fitsA) (within b fitsB)
theorem delimitsOf (delimits : Delimits fits encode content) (f : β → α) :
    Delimits (fun b => fits (f b)) (fun b => encode (f b)) (fun b => content (f b)) :=
  fun a b s t => delimits (f a) (f b) s t
theorem delimitsAs {named : α → δ} (delimits : Delimits fits encode content)
    (same : ∀ a b, fits a → fits b → (content a = content b ↔ named a = named b)) :
    Delimits fits encode named := by
  intro a b s t fitsA fitsB
  rw [delimits a b s t fitsA fitsB,same a b fitsA fitsB]
theorem delimitsAppend {second : α → List σ} {more : α → δ} (first : Delimits fits encode content)
    (last : Delimits fits second more) :
    Delimits fits (fun a => encode a ++ second a) (fun a => (content a,more a)) := by
  intro a b s t fitsA fitsB
  rw [List.append_assoc,List.append_assoc,first a b _ _ fitsA fitsB,last a b s t fitsA
    fitsB,Prod.mk.injEq,and_assoc]
theorem delimitsTerminated {stop : σ} (absent : ∀ a, fits a → stop ∉ encode a)
    (injective : ∀ a b, fits a → fits b → (encode a = encode b ↔ content a = content b)) :
    Delimits fits (fun a => encode a ++ [stop]) content := by
  intro a b s t fitsA fitsB
  rw [← injective a b fitsA fitsB,List.append_assoc,List.append_assoc,List.singleton_append,List.singleton_append]
  exact terminated (absent a fitsA) (absent b fitsB)
theorem delimitsOption {absent present : σ} (apart : absent ≠ present) (delimits : Delimits fits encode content) :
    Delimits (fun a => ∀ x ∈ a, fits x) (fun a => a.elim [absent] fun x => present::encode x)
      (Option.map content) := by
  rintro (- | a) (- | b) s t fitsA fitsB
  · simp
  · simp [apart]
  · simp [apart.symm]
  · simpa using delimits a b s t (fitsA a rfl) (fitsB b rfl)

theorem delimitsRepeated (delimits : Delimits fits encode content) {xs ys : List α} (size : xs.length = ys.length)
    (fitsXs : ∀ x ∈ xs, fits x) (fitsYs : ∀ y ∈ ys, fits y) (s t : List σ) :
    xs.flatMap encode ++ s = ys.flatMap encode ++ t ↔ xs.map content = ys.map content ∧ s = t := by
  induction xs generalizing ys with
  | nil =>
    rw [List.eq_nil_of_length_eq_zero size.symm]
    simp
  | cons x xs ih =>
    cases ys with
    | nil => cases size
    | cons y ys =>
      have rest := ih (Nat.succ.inj size) (fun a mem => fitsXs a (List.mem_cons_of_mem _ mem)) fun b mem =>
        fitsYs b (List.mem_cons_of_mem _ mem)
      rw [List.flatMap_cons,List.flatMap_cons,List.append_assoc,List.append_assoc,
        delimits x y _ _ (fitsXs x List.mem_cons_self)
          (fitsYs y List.mem_cons_self),rest,List.map_cons,List.map_cons,List.cons.injEq,and_assoc]
theorem delimitsEach (delimits : Delimits fits encode content) (parts : β → List α) {width : Nat}
    (size : ∀ b, (parts b).length = width) :
    Delimits (fun b => ∀ x ∈ parts b, fits x) (fun b => (parts b).flatMap encode)
      (fun b => (parts b).map content) :=
  fun a b s t fitsA fitsB => delimitsRepeated delimits ((size a).trans (size b).symm) fitsA fitsB s t
theorem delimitsCounted {small : Nat → Prop} {count : Nat → List σ} (counts : Delimits small count id)
    (delimits : Delimits fits encode content) :
    Delimits (fun xs => small xs.length ∧ ∀ x ∈ xs, fits x) (fun xs => count xs.length ++ xs.flatMap encode)
      (List.map content) := by
  rintro xs ys s t ⟨smallXs,fitsXs⟩ ⟨smallYs,fitsYs⟩
  rw [List.append_assoc,List.append_assoc,counts _ _ _ _ smallXs smallYs]
  constructor
  · rintro ⟨size,rest⟩
    exact (delimitsRepeated delimits size fitsXs fitsYs s t).mp rest
  · rintro ⟨same,rest⟩
    have size : xs.length = ys.length := by simpa using congrArg List.length same
    exact ⟨size,(delimitsRepeated delimits size fitsXs fitsYs s t).mpr ⟨same,rest⟩⟩
-- A stream of encodings that are never empty needs no count.
theorem delimitsStream (delimits : Delimits fits encode content) (nonempty : ∀ a, encode a ≠ []) {xs ys : List α}
    (fitsXs : ∀ x ∈ xs, fits x) (fitsYs : ∀ y ∈ ys, fits y) :
    xs.flatMap encode = ys.flatMap encode ↔ xs.map content = ys.map content := by
  induction xs generalizing ys with
  | nil =>
    cases ys with
    | nil => simp
    | cons y ys => simp [nonempty y]
  | cons x xs ih =>
    cases ys with
    | nil => simp [nonempty x]
    | cons y ys =>
      have rest := ih (fun a mem => fitsXs a (List.mem_cons_of_mem _ mem)) fun b mem =>
        fitsYs b (List.mem_cons_of_mem _ mem)
      rw [List.flatMap_cons,List.flatMap_cons,delimits x y _ _ (fitsXs x List.mem_cons_self)
        (fitsYs y List.mem_cons_self),rest,
        List.map_cons,List.map_cons,List.cons.injEq]
end

end Polytope.Delimiting
