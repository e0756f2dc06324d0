import Mathlib.Data.List.Basic

/-! Runs of a deterministic machine, with the log of every input and its answer.
An invariant may speak about the state and about the log; a side condition may be
asked of every step of a run. Nothing here depends on what the machine does. -/
namespace Polytope.Machine

variable {σ ι ο : Type*}

def run (step : σ → ι → σ × ο) : σ → List (ι × ο) → List ι → σ × List (ι × ο)
  | s,log,[] => (s,log)
  | s,log,i::rest => run step (step s i).1 (log ++ [(i,(step s i).2)]) rest

-- C holds of every step of the run, seen with the state and the log before that step.
def Along (step : σ → ι → σ × ο) (C : σ → List (ι × ο) → ι → Prop) :
    σ → List (ι × ο) → List ι → Prop
  | _,_,[] => True
  | s,log,i::rest => C s log i ∧ Along step C (step s i).1 (log ++ [(i,(step s i).2)]) rest

instance alongDecidable (step : σ → ι → σ × ο) (C : σ → List (ι × ο) → ι → Prop)
    [∀ s log i, Decidable (C s log i)] : ∀ s log ops, Decidable (Along step C s log ops)
  | _,_,[] => isTrue trivial
  | s,log,i::rest =>
    have := alongDecidable step C (step s i).1 (log ++ [(i,(step s i).2)]) rest
    inferInstanceAs (Decidable (_ ∧ _))

section
variable {step : σ → ι → σ × ο} {C : σ → List (ι × ο) → ι → Prop} {P : σ → List (ι × ο) → Prop}

theorem invariantAlong
    (next : ∀ s log i, P s log → C s log i → P (step s i).1 (log ++ [(i,(step s i).2)]))
    {s log ops} (start : P s log) (along : Along step C s log ops) :
    P (run step s log ops).1 (run step s log ops).2 := by
  induction ops generalizing s log with
  | nil => exact start
  | cons i rest ih => exact ih (next s log i start along.1) along.2

theorem alongTrue (step : σ → ι → σ × ο) (s log ops) : Along step (fun _ _ _ => True) s log ops := by
  induction ops generalizing s log with
  | nil => trivial
  | cons i rest ih => exact ⟨trivial,ih _ _⟩

theorem invariant
    (next : ∀ s log i, P s log → P (step s i).1 (log ++ [(i,(step s i).2)]))
    {s log} (ops) (start : P s log) : P (run step s log ops).1 (run step s log ops).2 :=
  invariantAlong (C := fun _ _ _ => True) (fun s log i h _ => next s log i h) start (alongTrue step s log ops)

theorem alongImp {D : σ → List (ι × ο) → ι → Prop}
    (next : ∀ s log i, P s log → C s log i → P (step s i).1 (log ++ [(i,(step s i).2)]))
    (imp : ∀ s log i, P s log → C s log i → D s log i)
    {s log ops} (start : P s log) (along : Along step C s log ops) : Along step D s log ops := by
  induction ops generalizing s log with
  | nil => trivial
  | cons i rest ih => exact ⟨imp s log i start along.1,ih (next s log i start along.1) along.2⟩

theorem alongPrefix {s log before rest} (along : Along step C s log (before ++ rest)) :
    Along step C s log before := by
  induction before generalizing s log with
  | nil => trivial
  | cons i before ih => exact ⟨along.1,ih along.2⟩
theorem alongBoth {D : σ → List (ι × ο) → ι → Prop} {s log ops} (first : Along step C s log ops)
    (second : Along step D s log ops) :
    Along step (fun s log i => C s log i ∧ D s log i) s log ops := by
  induction ops generalizing s log with
  | nil => trivial
  | cons i rest ih => exact ⟨⟨first.1,second.1⟩,ih first.2 second.2⟩

theorem runAppend (step : σ → ι → σ × ο) (s log ops more) :
    run step s log (ops ++ more) = run step (run step s log ops).1 (run step s log ops).2 more := by
  induction ops generalizing s log with
  | nil => rfl
  | cons i rest ih => exact ih _ _

theorem runInputs (step : σ → ι → σ × ο) (s log ops) :
    (run step s log ops).2.map Prod.fst = log.map Prod.fst ++ ops := by
  induction ops generalizing s log with
  | nil => exact (List.append_nil _).symm
  | cons i rest ih =>
    refine (ih _ _).trans ?_
    rw [List.map_append,List.append_assoc]
    rfl

theorem alongIff {s log ops} : Along step C s log ops ↔
    ∀ before i rest, ops = before ++ i::rest → C (run step s log before).1 (run step s log before).2 i := by
  induction ops generalizing s log with
  | nil =>
    refine ⟨fun _ before i rest split => ?_,fun _ => trivial⟩
    cases before <;> cases split
  | cons first others ih =>
    constructor
    · rintro ⟨here,later⟩ before i rest split
      cases before with
      | nil =>
        cases split
        exact here
      | cons head tail =>
        cases split
        exact ih.mp later tail i rest rfl
    · intro all
      exact ⟨all [] first others rfl,ih.mpr fun before i rest split =>
        all (first::before) i rest (by rw [split]; rfl)⟩

-- D and P together survive a step exactly under C: then they survive a run exactly when C holds along it.
theorem alongExact {D : σ → List (ι × ο) → ι → Prop}
    (next : ∀ s log i, D s log i ∧ P (step s i).1 (log ++ [(i,(step s i).2)]) ↔ P s log ∧ C s log i)
    {s log} (ops) :
    Along step D s log ops ∧ P (run step s log ops).1 (run step s log ops).2 ↔
      P s log ∧ Along step C s log ops := by
  induction ops generalizing s log with
  | nil => exact ⟨fun h => ⟨h.2,trivial⟩,fun h => ⟨trivial,h.1⟩⟩
  | cons i rest ih =>
    constructor
    · rintro ⟨⟨here,later⟩,last⟩
      obtain ⟨kept,others⟩ := ih.mp ⟨later,last⟩
      obtain ⟨start,ok⟩ := (next s log i).mp ⟨here,kept⟩
      exact ⟨start,ok,others⟩
    · rintro ⟨start,ok,others⟩
      obtain ⟨here,kept⟩ := (next s log i).mpr ⟨start,ok⟩
      obtain ⟨later,last⟩ := ih.mpr ⟨kept,others⟩
      exact ⟨⟨here,later⟩,last⟩

-- Where P holds, D asks of a step what C asks, and C keeps P: then they ask the same of a run from P.
theorem alongUnder {D : σ → List (ι × ο) → ι → Prop} {ops : List ι}
    (same : ∀ i ∈ ops, ∀ s log, P s log → (D s log i ↔ C s log i))
    (next : ∀ i ∈ ops, ∀ s log, P s log → C s log i → P (step s i).1 (log ++ [(i,(step s i).2)])) {s log}
    (start : P s log) :
    Along step D s log ops ↔ Along step C s log ops := by
  induction ops generalizing s log with
  | nil => exact Iff.rfl
  | cons i rest ih =>
    have others := @ih (fun j mem => same j (.tail i mem)) fun j mem => next j (.tail i mem)
    constructor
    · rintro ⟨here,later⟩
      have ok := (same i (.head rest) s log start).mp here
      exact ⟨ok,(others (next i (.head rest) s log start ok)).mp later⟩
    · rintro ⟨ok,later⟩
      exact ⟨(same i (.head rest) s log start).mpr ok,(others (next i (.head rest) s log start ok)).mpr later⟩

end

theorem bindOk {ε α β : Type} {x : Except ε α} {f : α → Except ε β} {out} :
    (x >>= f) = .ok out ↔ ∃ mid, x = .ok mid ∧ f mid = .ok out := by
  cases x <;> simp [bind,Except.bind]
theorem bindError {ε α β : Type} {x : Except ε α} {f : α → Except ε β} {exit} :
    (x >>= f) = .error exit ↔ x = .error exit ∨ ∃ mid, x = .ok mid ∧ f mid = .error exit := by
  cases x <;> simp [bind,Except.bind]

theorem memToOption {ε α : Type} {x : Except ε α} {out} : out ∈ x.toOption ↔ x = .ok out := by
  cases x <;> simp [Except.toOption]

theorem guardOk {ε α : Type} {c : Prop} [Decidable c] {refusal : ε} {rest : Except ε α} {out}
    (h : (if c then .error refusal else rest) = Except.ok out) : ¬ c ∧ rest = .ok out := by
  by_cases refused : c
  · rw [if_pos refused] at h
    cases h
  · rw [if_neg refused] at h
    exact ⟨refused,h⟩
theorem guardError {ε α : Type} {c : Prop} [Decidable c] {refusal exit : ε} {rest : Except ε α}
    (h : (if c then .error refusal else rest) = .error exit) : refusal = exit ∨ rest = .error exit := by
  by_cases refused : c
  · rw [if_pos refused] at h
    exact .inl (Except.error.inj h)
  · rw [if_neg refused] at h
    exact .inr h

def settled {α : Type} : Except α α → α
  | .ok r => r
  | .error r => r
theorem bindSettled {α : Type} {P : α → Prop} {x : Except α α} {f : α → Except α α} (first : P (settled x))
    (later : ∀ r, P r → P (settled (f r))) : P (settled (x >>= f)) := by
  cases x with
  | ok r => exact later r first
  | error r => exact first
theorem loopSettled {α β : Type} {P : β → Prop} {body : β → α → Except β β}
    (keep : ∀ acc x, P acc → P (settled (body acc x))) {acc} (start : P acc) (xs : List α) :
    P (settled (xs.foldlM body acc)) := by
  induction xs generalizing acc with
  | nil => exact start
  | cons x rest ih =>
    rw [List.foldlM_cons]
    exact bindSettled (keep acc x start) fun r h => ih h

theorem loopOutcome {ε α β : Type*} {body : β → α → Except ε β} {P : β → Prop} {Q : ε → Prop}
    (keep : ∀ acc x out, P acc → body acc x = .ok out → P out)
    (stop : ∀ acc x exit, P acc → body acc x = .error exit → Q exit) {acc} (start : P acc) (xs : List α) :
    (∀ out, xs.foldlM body acc = .ok out → P out) ∧ (∀ exit, xs.foldlM body acc = .error exit → Q exit) := by
  induction xs generalizing acc with
  | nil =>
    constructor
    · intro out h
      cases h
      exact start
    · intro exit h
      cases h
  | cons x rest ih =>
    rw [List.foldlM_cons]
    cases first : body acc x with
    | error exit =>
      constructor
      · intro out h
        cases h
      · intro exit' h
        cases h
        exact stop acc x exit start first
    | ok next => exact ih (keep acc x next start first)

end Polytope.Machine
