import Polytope.SignalPublishing
import Polytope.Machine

/-! Deduplication over a run of scans. The deduper marks a paper opportunity when it lets it pass; the rate
limiter comes afterwards and may still drop it. A mark therefore stands for a publication only as long as
the limiter drops no paper opportunity. -/
namespace Polytope.SignalDedupe
open SignalPublishing
open Intent (SignalConfig OpportunityIntent Evidence evidence)
open Sorting (Sorter)

/-! One scan: what the deduper lets pass, and how much of it fits the limiter's second. -/

def live (d : IntentDeduper) (nowNs : Nat) (e : Evidence) : Bool :=
  (d.seen e).any fun seenAtNs => seenAtNs ≤ nowNs ∧ nowNs - seenAtNs < d.ttlNs
-- Rejections, and the first paper opportunity of each evidence that is not taken yet.
def due (taken : Evidence → Bool) : List OpportunityIntent → List OpportunityIntent
  | [] => []
  | i::rest =>
    if isPaper i = false then i::due taken rest
    else if taken (evidence i) then due taken rest
    else i::due (fun e => taken e || e = evidence i) rest
def budget (l : IntentRateLimiter) (nowNs : Nat) : Nat :=
  if l.maxIntentsPerSecond ≤ 0 then 0 else (l.maxIntentsPerSecond - (l.window nowNs).emittedThisSecond).toNat

theorem dueFresh {taken} {candidates : List OpportunityIntent} {i} (mem : i ∈ due taken candidates)
    (paper : isPaper i = true) : taken (evidence i) = false := by
  induction candidates generalizing taken with
  | nil => cases mem
  | cons first rest ih =>
    rw [due] at mem
    split at mem
    · rename_i rejection
      rcases List.mem_cons.mp mem with rfl | later
      · exact absurd (rejection.symm.trans paper) Bool.false_ne_true
      · exact ih later
    · split at mem
      · exact ih mem
      · rename_i fresh
        rcases List.mem_cons.mp mem with rfl | later
        · exact Bool.eq_false_iff.mpr fresh
        · exact (Bool.or_eq_false_iff.mp (ih later)).1
theorem dueDistinct (taken) (candidates : List OpportunityIntent) :
    (due taken candidates).Pairwise fun i j => isPaper i = true → isPaper j = true → evidence i ≠ evidence j := by
  induction candidates generalizing taken with
  | nil => exact .nil
  | cons first rest ih =>
    rw [due]
    split
    · rename_i rejection
      exact .cons (fun j _ paper => absurd (rejection.symm.trans paper) Bool.false_ne_true) (ih taken)
    · split
      · exact ih taken
      · refine .cons (fun j later _ paper same => ?_) (ih _)
        have free := dueFresh later paper
        rw [same] at free
        simp at free
theorem dueSublist (taken) (candidates : List OpportunityIntent) : (due taken candidates).Sublist candidates := by
  induction candidates generalizing taken with
  | nil => exact .slnil
  | cons first rest ih =>
    rw [due]
    split
    · exact (ih taken).cons_cons first
    · split
      · exact (ih taken).cons first
      · exact (ih _).cons_cons first

theorem seenRecentlyLive (d : IntentDeduper) (nowNs) {e} (named : e ≠ .key "") :
    (seenRecently d e nowNs).2 = live d nowNs e ∧
    (live d nowNs e = true → (seenRecently d e nowNs).1 = d) ∧
    ((seenRecently d e nowNs).1.mark e nowNs).seen = (fun key => if key = e then some nowNs else d.seen key) ∧
    ((seenRecently d e nowNs).1.mark e nowNs).ttlNs = d.ttlNs := by
  unfold seenRecently live IntentDeduper.mark
  rw [if_neg named]
  cases d.seen e with
  | none => simp [named]
  | some seenAtNs =>
    by_cases recent : seenAtNs ≤ nowNs ∧ nowNs - seenAtNs < d.ttlNs
    · simp [recent,named]
    · simp only [if_neg recent,IntentDeduper.erase,named,if_false]
      refine ⟨by simpa using recent,fun h => absurd (by simpa using h) recent,?_,trivial⟩
      funext key
      by_cases same : key = e <;> simp [same]

structure Deduped (nowNs : Nat) (d : IntentDeduper) (candidates : List OpportunityIntent)
    (r : DedupeResult) : Prop where
  kept : r.kept = due (live d nowNs) candidates
  ttl : r.deduper.ttlNs = d.ttlNs
  marks : ∀ e, r.deduper.seen e = some nowNs ∧ (∃ i ∈ r.kept, isPaper i = true ∧ evidence i = e) ∨
    r.deduper.seen e = d.seen e ∧ ∀ i ∈ r.kept, isPaper i = true → evidence i ≠ e
  duplicates : ∀ x ∈ r.duplicates, live d nowNs (evidence x) = true ∨
    ∃ i ∈ r.kept, isPaper i = true ∧ evidence i = evidence x

theorem dedupeDeduped (nowNs) {d} {candidates : List OpportunityIntent} (alive : 0 < d.ttlNs)
    (named : ∀ i ∈ candidates, isPaper i = true → evidence i ≠ .key "") :
    Deduped nowNs d candidates (dedupe nowNs d candidates) := by
  induction candidates generalizing d with
  | nil => exact ⟨rfl,rfl,fun _ => .inr ⟨rfl,fun _ none => nomatch none⟩,fun _ none => nomatch none⟩
  | cons i rest ih =>
    have others := fun j mem => named j (List.mem_cons_of_mem i mem)
    rw [dedupe]
    by_cases rejection : isPaper i = false
    · rw [if_pos rejection]
      obtain ⟨kept,ttl,marks,duplicates⟩ := ih alive others
      refine ⟨?_,ttl,fun e => ?_,fun x mem => ?_⟩
      · rw [due,if_pos rejection,← kept]
      · rcases marks e with ⟨marked,j,mem,paper,same⟩ | ⟨left,none⟩
        · exact .inl ⟨marked,j,.tail _ mem,paper,same⟩
        · refine .inr ⟨left,fun j mem paper => ?_⟩
          rcases List.mem_cons.mp mem with rfl | later
          · exact absurd (rejection.symm.trans paper) Bool.false_ne_true
          · exact none j later paper
      · rcases duplicates x mem with h | ⟨j,mem,h⟩
        · exact .inl h
        · exact .inr ⟨j,.tail _ mem,h⟩
    · have paper := (Bool.not_eq_false _).mp rejection
      obtain ⟨answer,unchanged,marked,sameTtl⟩ := seenRecentlyLive d nowNs (named i (.head _) paper)
      rw [if_neg rejection,answer]
      by_cases recent : live d nowNs (evidence i) = true
      · rw [if_pos recent,unchanged recent]
        obtain ⟨kept,ttl,marks,duplicates⟩ := ih alive others
        refine ⟨by rw [due,if_neg rejection,if_pos recent,← kept],ttl,marks,fun x mem => ?_⟩
        rcases List.mem_cons.mp mem with rfl | later
        · exact .inl recent
        · exact duplicates x later
      · rw [if_neg recent]
        obtain ⟨kept,ttl,marks,duplicates⟩ := ih (sameTtl ▸ alive) others
        have taken : live ((seenRecently d (evidence i) nowNs).1.mark (evidence i) nowNs) nowNs =
            fun e => live d nowNs e || e = evidence i := by
          funext e
          unfold live
          rw [marked,sameTtl]
          by_cases same : e = evidence i <;> simp [same,alive]
        rw [taken] at kept duplicates
        refine ⟨by rw [due,if_neg rejection,if_neg recent,← kept],ttl.trans sameTtl,fun e => ?_,fun x mem => ?_⟩
        · rcases marks e with ⟨later,j,mem,h⟩ | ⟨left,none⟩
          · exact .inl ⟨later,j,.tail _ mem,h⟩
          · simp only [marked] at left
            by_cases same : e = evidence i
            · rw [if_pos same] at left
              exact .inl ⟨left,i,.head _,paper,same.symm⟩
            · rw [if_neg same] at left
              refine .inr ⟨left,fun j mem paper => ?_⟩
              rcases List.mem_cons.mp mem with rfl | later
              · exact fun h => same h.symm
              · exact none j later paper
        · rcases duplicates x mem with h | ⟨j,mem,h⟩
          · rcases Bool.or_eq_true_iff.mp h with h | h
            · exact .inl h
            · exact .inr ⟨i,.head _,paper,(of_decide_eq_true h).symm⟩
          · exact .inr ⟨j,.tail _ mem,h⟩

theorem dedupeSuppressed {nowNs d} {candidates : List OpportunityIntent} {x}
    (mem : x ∈ (dedupe nowNs d candidates).duplicates) :
    x ∈ candidates ∧ isPaper x = true := by
  induction candidates generalizing d with
  | nil => cases mem
  | cons i rest ih =>
    rw [dedupe] at mem
    split at mem
    · exact ⟨.tail _ (ih mem).1,(ih mem).2⟩
    · rename_i paper
      split at mem
      · rcases List.mem_cons.mp mem with rfl | later
        · exact ⟨.head _,(Bool.not_eq_false _).mp paper⟩
        · exact ⟨.tail _ (ih later).1,(ih later).2⟩
      · exact ⟨.tail _ (ih mem).1,(ih mem).2⟩
theorem dedupeWithoutTtl (nowNs) {d} (candidates : List OpportunityIntent) (never : d.ttlNs = 0) :
    (dedupe nowNs d candidates).duplicates = [] ∧ (dedupe nowNs d candidates).deduper.ttlNs = 0 := by
  have unseen : ∀ (d : IntentDeduper) e, d.ttlNs = 0 →
    (seenRecently d e nowNs).2 = false ∧ (seenRecently d e nowNs).1.ttlNs = 0 := by
    intro d e never
    unfold seenRecently
    split
    · exact ⟨rfl,never⟩
    · split
      · exact ⟨rfl,never⟩
      · rw [if_neg (by omega)]
        exact ⟨rfl,never⟩
  have marked : ∀ (m : IntentDeduper) e, (m.mark e nowNs).ttlNs = m.ttlNs := by
    intro m e
    unfold IntentDeduper.mark
    split <;> rfl
  induction candidates generalizing d with
  | nil => exact ⟨rfl,never⟩
  | cons i rest ih =>
    rw [dedupe,(unseen d (evidence i) never).1]
    split
    · exact ih never
    · exact ih ((marked _ _).trans (unseen d (evidence i) never).2)

theorem windowSecond (l : IntentRateLimiter) (nowNs : Nat) : (l.window nowNs).hasWindow = true ∧
    (l.window nowNs).currentSecond = nowNs / kNsPerSecond ∧
    (l.window nowNs).maxIntentsPerSecond = l.maxIntentsPerSecond := by
  unfold IntentRateLimiter.window
  split
  · exact ⟨rfl,rfl,rfl⟩
  · rename_i current
    obtain ⟨known,same⟩ := not_or.mp current
    exact ⟨(Bool.not_eq_false _).mp known,(not_not.mp same).symm,rfl⟩
theorem windowOpen {l : IntentRateLimiter} {nowNs} (known : l.hasWindow = true)
    (second : l.currentSecond = nowNs / kNsPerSecond) : l.window nowNs = l := by
  unfold IntentRateLimiter.window
  rw [if_neg]
  rintro (h | h)
  · exact absurd (h.symm.trans known) Bool.false_ne_true
  · exact h second.symm
theorem allowBudget (l : IntentRateLimiter) (nowNs : Nat) :
    (l.allow nowNs).2 = decide (0 < budget l nowNs) ∧ budget (l.allow nowNs).1 nowNs = budget l nowNs - 1 := by
  obtain ⟨known,second,cap⟩ := windowSecond l nowNs
  by_cases full : l.maxIntentsPerSecond ≤ 0 ∨ l.maxIntentsPerSecond ≤ (l.window nowNs).emittedThisSecond
  · have none : budget l nowNs = 0 := by
      unfold budget
      split <;> omega
    have refused : l.allow nowNs = (l.window nowNs,false) := if_pos (cap.symm ▸ full)
    have same : budget (l.window nowNs) nowNs = budget l nowNs := by
      unfold budget
      rw [cap,windowOpen known second]
    rw [refused,same,none]
    exact ⟨rfl,rfl⟩
  · let counted : IntentRateLimiter :=
      {l.window nowNs with emittedThisSecond := (l.window nowNs).emittedThisSecond + 1}
    have allowed : l.allow nowNs = (counted,true) := if_neg (cap.symm ▸ full)
    have same : counted.window nowNs = counted := windowOpen known second
    have left : budget counted nowNs = budget l nowNs - 1 := by
      have cap' : counted.maxIntentsPerSecond = l.maxIntentsPerSecond := cap
      have one : counted.emittedThisSecond = (l.window nowNs).emittedThisSecond + 1 := rfl
      unfold budget
      rw [same,cap',one]
      split <;> omega
    have room : 0 < budget l nowNs := by
      unfold budget
      split <;> omega
    rw [allowed]
    exact ⟨(decide_eq_true room).symm,left⟩
theorem limitRateTake (nowNs l) (candidates : List OpportunityIntent) :
    (limitRate nowNs l candidates).allowed = candidates.take (budget l nowNs) := by
  induction candidates generalizing l with
  | nil => exact List.take_nil.symm
  | cons i rest ih =>
    obtain ⟨answer,left⟩ := allowBudget l nowNs
    rw [limitRate,answer]
    cases room : budget l nowNs with
    | zero =>
      rw [room] at left
      simpa [left] using ih (l.allow nowNs).1
    | succ n =>
      rw [room] at left
      simp [ih,left]

/-! Runs of scans. A publication is an intent and the time of its scan. -/

abbrev ScanLog := List (SignalScan × SignalRunResult)
def publications (log : ScanLog) : List (OpportunityIntent × Nat) :=
  log.flatMap fun entry => entry.2.published.map fun i => (i,entry.1.nowMonotonicNs)
def SameHash (i j : OpportunityIntent) : Prop := i.idempotencyHash = j.idempotencyHash
def Apart (ttlNs t u : Nat) : Prop := ttlNs ≤ u - t ∨ ttlNs ≤ t - u
-- Suppressed only after a publication less than the ttl ago, and no two publications closer than the ttl.
structure DedupeLaw (ttlNs : Nat) (log : ScanLog) : Prop where
  justified : ∀ before scan r after, log = before ++ (scan,r)::after → ∀ x ∈ r.duplicates,
    ∃ p ∈ publications (before ++ [(scan,r)]), SameHash p.1 x ∧
      p.2 ≤ scan.nowMonotonicNs ∧ scan.nowMonotonicNs - p.2 < ttlNs
  spaced : (publications log).Pairwise fun p q => SameHash p.1 q.1 → Apart ttlNs p.2 q.2

instance (i j) : Decidable (SameHash i j) := inferInstanceAs (Decidable (_ = _))
instance (ttlNs t u) : Decidable (Apart ttlNs t u) := inferInstanceAs (Decidable (_ ∨ _))

-- What a scan is about to hand to the limiter, by the marks before the scan.
def dueNow (ranker : Option (Sorter OpportunityIntent)) (config : SignalConfig) (engine : SignalEngine)
    (scan : SignalScan) : List OpportunityIntent :=
  match engine.deduper with
  | none => ranked ranker config scan
  | some d => due (live d scan.nowMonotonicNs) (ranked ranker config scan)
-- Two intents of which one is a rejection: the deduper lets them pass whatever their hashes.
def Unguarded (i j : OpportunityIntent) : Prop := isPaper i = false ∨ isPaper j = false
instance (i j) : Decidable (Unguarded i j) := inferInstanceAs (Decidable (_ ∨ _))
structure CleanScan (ranker : Option (Sorter OpportunityIntent)) (config : SignalConfig) (ttlNs : Nat)
    (engine : SignalEngine) (log : ScanLog) (scan : SignalScan) : Prop where
  hashed : ∀ i ∈ ranked ranker config scan, isPaper i = true → i.idempotencyHash ≠ 0
  clock : ∀ i ∈ ranked ranker config scan, ∀ p ∈ publications log, SameHash p.1 i → p.2 ≤ scan.nowMonotonicNs
  roomy : ∀ i ∈ (dueNow ranker config engine scan).drop (budget engine.limiter scan.nowMonotonicNs),
    isPaper i = false
  rejections : ∀ i ∈ (dueNow ranker config engine scan).take (budget engine.limiter scan.nowMonotonicNs),
    ∀ p ∈ publications log, Unguarded p.1 i → SameHash p.1 i → Apart ttlNs p.2 scan.nowMonotonicNs
  together : ((dueNow ranker config engine scan).take (budget engine.limiter scan.nowMonotonicNs)).Pairwise
    fun i j => Unguarded i j → ¬ SameHash i j

instance (ranker config ttlNs engine log scan) : Decidable (CleanScan ranker config ttlNs engine log scan) :=
  decidable_of_iff (_ ∧ _ ∧ _ ∧ _ ∧ _) ⟨fun ⟨h,c,r,j,t⟩ => ⟨h,c,r,j,t⟩,fun ⟨h,c,r,j,t⟩ => ⟨h,c,r,j,t⟩⟩

theorem publicationsAppend (log : ScanLog) (scan r) :
    publications (log ++ [(scan,r)]) = publications log ++ r.published.map fun i => (i,scan.nowMonotonicNs) := by
  simp [publications]
theorem evidenceHash {i : OpportunityIntent} (hashed : i.idempotencyHash ≠ 0) :
    evidence i = .hash i.idempotencyHash :=
  if_pos hashed

-- A mark is a publication, and no publication of a paper opportunity is younger than its mark.
structure MarksPublished (ttlNs : Nat) (engine : SignalEngine) (log : ScanLog) (d : IntentDeduper) : Prop where
  deduper : engine.deduper = some d
  ttl : d.ttlNs = ttlNs
  published : ∀ h m, d.seen (.hash h) = some m → ∃ p ∈ publications log, p.1.idempotencyHash = h ∧ p.2 = m
  marked : ∀ p ∈ publications log, isPaper p.1 = true → ∃ m, d.seen (.hash p.1.idempotencyHash) = some m ∧ p.2 ≤ m

-- What one scan publishes and suppresses, with the deduper on.
structure Scanned (ranker : Option (Sorter OpportunityIntent)) (config : SignalConfig) (engine : SignalEngine)
    (scan : SignalScan) (d d' : IntentDeduper) (r : SignalEngine × SignalRunResult) : Prop where
  deduper : r.1.deduper = some d'
  deduped : ∃ duplicates, r.2.duplicates = duplicates ∧
    Deduped scan.nowMonotonicNs d (ranked ranker config scan) ⟨d',dueNow ranker config engine scan,duplicates⟩
  published : r.2.published = (dueNow ranker config engine scan).take (budget engine.limiter scan.nowMonotonicNs)

theorem scanScanned (ranker config scan) {engine d} (on : engine.deduper = some d) (alive : 0 < d.ttlNs)
    (named : ∀ i ∈ ranked ranker config scan, isPaper i = true → evidence i ≠ .key "") :
    ∃ d', Scanned ranker config engine scan d d' (scanOnce ranker config engine scan) := by
  have deduped := dedupeDeduped scan.nowMonotonicNs alive named
  have all : dedupeAll scan.nowMonotonicNs engine.deduper (ranked ranker config scan) =
      (some (dedupe scan.nowMonotonicNs d (ranked ranker config scan)).deduper,
        (dedupe scan.nowMonotonicNs d (ranked ranker config scan)).kept,
        (dedupe scan.nowMonotonicNs d (ranked ranker config scan)).duplicates) := by rw [on]; rfl
  have waiting : (dedupe scan.nowMonotonicNs d (ranked ranker config scan)).kept =
    dueNow ranker config engine scan := by
    rw [deduped.kept,dueNow,on]
  refine ⟨(dedupe scan.nowMonotonicNs d (ranked ranker config scan)).deduper,?_,?_,?_⟩
  · rw [scanOnce,all]
  · refine ⟨_,by rw [scanOnce,all],?_⟩
    rw [← waiting]
    exact deduped
  · rw [scanOnce,all,← waiting]
    exact limitRateTake _ _ _

section
variable {ranker : Option (Sorter OpportunityIntent)} {config : SignalConfig} {ttlNs : Nat} {engine : SignalEngine}
  {log : ScanLog} {scan : SignalScan} {d d' : IntentDeduper} {r : SignalEngine × SignalRunResult}

-- A paper opportunity that is due has no live mark, so its publications are the ttl ago.
theorem dueSpaced (marks : MarksPublished ttlNs engine log d)
    (clean : CleanScan ranker config ttlNs engine log scan)
    {i} (mem : i ∈ dueNow ranker config engine scan) (paper : isPaper i = true) {p} (old : p ∈ publications log)
    (paperOld : isPaper p.1 = true) (same : SameHash p.1 i) : Apart ttlNs p.2 scan.nowMonotonicNs := by
  rw [dueNow,marks.deduper] at mem
  have candidate := (dueSublist _ _).subset mem
  have fresh := dueFresh mem paper
  obtain ⟨m,marked,before⟩ := marks.marked p old paperOld
  rw [same] at marked
  rw [evidenceHash (clean.hashed i candidate paper),live,marked] at fresh
  obtain ⟨q,published,hash,rfl⟩ := marks.published _ m marked
  have past := clean.clock i candidate q published hash
  have stale := of_decide_eq_false fresh
  rw [marks.ttl] at stale
  left
  omega

theorem dueCandidate {i} (mem : i ∈ dueNow ranker config engine scan) : i ∈ ranked ranker config scan := by
  rw [dueNow] at mem
  split at mem
  · exact mem
  · exact (dueSublist _ _).subset mem
theorem dueHashed (clean : CleanScan ranker config ttlNs engine log scan) {i}
    (mem : i ∈ dueNow ranker config engine scan) (paper : isPaper i = true) :
    evidence i = .hash i.idempotencyHash :=
  evidenceHash (clean.hashed i (dueCandidate mem) paper)

theorem publishedSpaced (marks : MarksPublished ttlNs engine log d)
    (clean : CleanScan ranker config ttlNs engine log scan)
    (scanned : Scanned ranker config engine scan d d' r) :
    (∀ p ∈ publications log, ∀ i ∈ r.2.published, SameHash p.1 i → Apart ttlNs p.2 scan.nowMonotonicNs) ∧
    r.2.published.Pairwise fun i j => ¬ SameHash i j := by
  rw [scanned.published]
  constructor
  · intro p old i mem same
    cases paperOld : isPaper p.1 with
    | false => exact clean.rejections i mem p old (.inl paperOld) same
    | true =>
      cases paper : isPaper i with
      | false => exact clean.rejections i mem p old (.inr paper) same
      | true => exact dueSpaced marks clean (List.mem_of_mem_take mem) paper old paperOld same
  · have distinct : (dueNow ranker config engine scan).Pairwise
        fun i j => isPaper i = true → isPaper j = true → evidence i ≠ evidence j := by
      rw [dueNow,marks.deduper]
      exact dueDistinct _ _
    have both := (distinct.sublist
      (List.take_sublist (budget engine.limiter scan.nowMonotonicNs) _)).and clean.together
    refine both.imp_of_mem fun {i j} memI memJ pair same => ?_
    cases paperI : isPaper i with
    | false => exact pair.2 (.inl paperI) same
    | true =>
      cases paperJ : isPaper j with
      | false => exact pair.2 (.inr paperJ) same
      | true =>
        refine pair.1 paperI paperJ ?_
        rw [dueHashed clean (List.mem_of_mem_take memI) paperI,
          dueHashed clean (List.mem_of_mem_take memJ) paperJ,same]

theorem publishedPaper (clean : CleanScan ranker config ttlNs engine log scan)
    (scanned : Scanned ranker config engine scan d d' r) {i} (mem : i ∈ dueNow ranker config engine scan)
    (paper : isPaper i = true) : i ∈ r.2.published := by
  rw [← List.take_append_drop (budget engine.limiter scan.nowMonotonicNs)
    (dueNow ranker config engine scan)] at mem
  rw [scanned.published]
  rcases List.mem_append.mp mem with taken | dropped
  · exact taken
  · exact absurd ((clean.roomy i dropped).symm.trans paper) Bool.false_ne_true

theorem marksPublishedNext (marks : MarksPublished ttlNs engine log d)
    (clean : CleanScan ranker config ttlNs engine log scan) (scanned : Scanned ranker config engine scan d d' r) :
    MarksPublished ttlNs r.1 (log ++ [(scan,r.2)]) d' := by
  obtain ⟨duplicates,_,deduped⟩ := scanned.deduped
  refine ⟨scanned.deduper,deduped.ttl.trans marks.ttl,fun h m seen => ?_,fun p mem paper => ?_⟩
  · rw [publicationsAppend]
    rcases deduped.marks (.hash h) with ⟨now,i,waiting,paper,hash⟩ | ⟨left,_⟩
    · refine ⟨(i,scan.nowMonotonicNs),List.mem_append_right _
        (List.mem_map_of_mem (publishedPaper clean scanned waiting paper)),?_,?_⟩
      · exact Evidence.hash.inj ((dueHashed clean waiting paper).symm.trans hash)
      · exact Option.some.inj (now.symm.trans seen)
    · obtain ⟨p,old,hash,time⟩ := marks.published h m (left.symm.trans seen)
      exact ⟨p,List.mem_append_left _ old,hash,time⟩
  · rw [publicationsAppend] at mem
    rcases List.mem_append.mp mem with old | new
    · obtain ⟨m,seen,before⟩ := marks.marked p old paper
      rcases deduped.marks (.hash p.1.idempotencyHash) with ⟨now,i,waiting,paper',hash⟩ | ⟨left,_⟩
      · have same : SameHash p.1 i :=
          (Evidence.hash.inj ((dueHashed clean waiting paper').symm.trans hash)).symm
        exact ⟨_,now,clean.clock i (dueCandidate waiting) p old same⟩
      · exact ⟨m,left.trans seen,before⟩
    · obtain ⟨i,published,rfl⟩ := List.mem_map.mp new
      rw [scanned.published] at published
      have waiting := List.mem_of_mem_take published
      rcases deduped.marks (.hash i.idempotencyHash) with ⟨now,_⟩ | ⟨_,none⟩
      · exact ⟨_,now,le_refl _⟩
      · exact absurd (dueHashed clean waiting paper) (none i waiting paper)

-- A duplicate was published before its scan or earlier in the same scan.
theorem duplicateJustified (marks : MarksPublished ttlNs engine log d) (alive : 0 < ttlNs)
    (clean : CleanScan ranker config ttlNs engine log scan)
    (scanned : Scanned ranker config engine scan d d' r) {x}
    (mem : x ∈ r.2.duplicates) (hashed : evidence x = .hash x.idempotencyHash) :
    ∃ p ∈ publications (log ++ [(scan,r.2)]), SameHash p.1 x ∧
      p.2 ≤ scan.nowMonotonicNs ∧ scan.nowMonotonicNs - p.2 < ttlNs := by
  obtain ⟨duplicates,same,deduped⟩ := scanned.deduped
  rw [same] at mem
  rw [publicationsAppend]
  rcases deduped.duplicates x mem with recent | ⟨i,waiting,paper,hash⟩
  · rw [hashed,live] at recent
    obtain ⟨m,seen,young⟩ := (Option.any_eq_true _ _).mp recent
    obtain ⟨p,old,sameHash,rfl⟩ := marks.published _ m seen
    rw [marks.ttl] at young
    exact ⟨p,List.mem_append_left _ old,sameHash,of_decide_eq_true young⟩
  · rw [hashed,dueHashed clean waiting paper] at hash
    refine ⟨(i,scan.nowMonotonicNs),List.mem_append_right _
      (List.mem_map_of_mem (publishedPaper clean scanned waiting paper)),
      Evidence.hash.inj hash,le_refl _,?_⟩
    rw [Nat.sub_self]
    exact alive

end

theorem marksEmpty (ttlNs limiter) : MarksPublished ttlNs {deduper := some {ttlNs},limiter} [] {ttlNs} where
  deduper := rfl
  ttl := rfl
  published _ _ seen := by cases seen
  marked _ mem := by cases mem
theorem lawEmpty (ttlNs) : DedupeLaw ttlNs [] where
  justified before _ _ _ split := by cases before <;> cases split
  spaced := List.Pairwise.nil
theorem lawNext {ttlNs} {log : ScanLog} {scan r} (law : DedupeLaw ttlNs log)
    (justified : ∀ x ∈ r.duplicates, ∃ p ∈ publications (log ++ [(scan,r)]), SameHash p.1 x ∧
      p.2 ≤ scan.nowMonotonicNs ∧ scan.nowMonotonicNs - p.2 < ttlNs)
    (old : ∀ p ∈ publications log, ∀ i ∈ r.published, SameHash p.1 i → Apart ttlNs p.2 scan.nowMonotonicNs)
    (new : r.published.Pairwise fun i j => SameHash i j → Apart ttlNs scan.nowMonotonicNs scan.nowMonotonicNs) :
    DedupeLaw ttlNs (log ++ [(scan,r)]) := by
  constructor
  · intro before scan' r' after split x mem
    rcases List.eq_nil_or_concat after with rfl | ⟨after,last,rfl⟩
    · obtain ⟨rfl,one⟩ := List.append_inj' split rfl
      cases one
      exact justified x mem
    · rw [List.concat_eq_append,← List.cons_append,← List.append_assoc] at split
      exact law.justified before scan' r' after (List.append_inj_left' split rfl) x mem
  · rw [publicationsAppend,List.pairwise_append]
    refine ⟨law.spaced,List.pairwise_map.mpr new,fun p mem q published => ?_⟩
    obtain ⟨i,now,rfl⟩ := List.mem_map.mp published
    exact old p mem i now

theorem lawWithoutTtl {ranker config engine scan d log} (on : engine.deduper = some d) (never : d.ttlNs = 0)
    (law : DedupeLaw 0 log) : (∃ d', (scanOnce ranker config engine scan).1.deduper = some d' ∧ d'.ttlNs = 0) ∧
      DedupeLaw 0 (log ++ [(scan,(scanOnce ranker config engine scan).2)]) := by
  obtain ⟨none,ttl⟩ := dedupeWithoutTtl scan.nowMonotonicNs (ranked ranker config scan) never
  have duplicates : (scanOnce ranker config engine scan).2.duplicates = [] := by
    rw [scanOnce,on]
    exact none
  refine ⟨⟨(dedupe scan.nowMonotonicNs d (ranked ranker config scan)).deduper,by rw [scanOnce,on]; rfl,ttl⟩,
    lawNext law ?_ (fun _ _ _ _ _ => .inl (Nat.zero_le _))
      (List.pairwise_of_forall fun _ _ _ => .inl (Nat.zero_le _))⟩
  rw [duplicates]
  exact fun _ mem => nomatch mem

theorem lawClean {ranker config ttlNs engine scan d log} (alive : 0 < ttlNs)
    (marks : MarksPublished ttlNs engine log d)
    (clean : CleanScan ranker config ttlNs engine log scan) (law : DedupeLaw ttlNs log) :
    (∃ d', MarksPublished ttlNs (scanOnce ranker config engine scan).1
      (log ++ [(scan,(scanOnce ranker config engine scan).2)]) d') ∧
      DedupeLaw ttlNs (log ++ [(scan,(scanOnce ranker config engine scan).2)]) := by
  have hashed : ∀ i ∈ ranked ranker config scan, isPaper i = true → evidence i = .hash i.idempotencyHash :=
    fun i mem paper => evidenceHash (clean.hashed i mem paper)
  obtain ⟨d',scanned⟩ := scanScanned ranker config scan marks.deduper (marks.ttl ▸ alive)
    fun i mem paper => by rw [hashed i mem paper]; exact Evidence.noConfusion
  obtain ⟨old,new⟩ := publishedSpaced marks clean scanned
  refine ⟨⟨d',marksPublishedNext marks clean scanned⟩,lawNext law (fun x mem => ?_) old
    (new.imp fun differ same => absurd same differ)⟩
  have suppressed : x ∈ (dedupe scan.nowMonotonicNs d (ranked ranker config scan)).duplicates := by
    rw [scanOnce,marks.deduper] at mem
    exact mem
  obtain ⟨candidate,paper⟩ := dedupeSuppressed suppressed
  exact duplicateJustified marks alive clean scanned mem (hashed x candidate paper)

theorem cleanRunsObeyLaw (ranker : Option (Sorter OpportunityIntent)) (config : SignalConfig) (ttlNs : Nat)
    (limiter : IntentRateLimiter) (scans : List SignalScan)
    (clean : Machine.Along (scanOnce ranker config)
      (fun engine log scan => 0 < ttlNs → CleanScan ranker config ttlNs engine log scan)
      {deduper := some {ttlNs},limiter} [] scans) :
    DedupeLaw ttlNs (Machine.run (scanOnce ranker config) {deduper := some {ttlNs},limiter} [] scans).2 := by
  rcases Nat.eq_zero_or_pos ttlNs with rfl | alive
  · exact (Machine.invariant
      (P := fun engine log => (∃ d, engine.deduper = some d ∧ d.ttlNs = 0) ∧ DedupeLaw 0 log)
      (fun _ _ _ ⟨⟨_,on,never⟩,law⟩ => lawWithoutTtl on never law) scans ⟨⟨_,rfl,rfl⟩,lawEmpty 0⟩).2
  · exact (Machine.invariantAlong
      (P := fun engine log => (∃ d, MarksPublished ttlNs engine log d) ∧ DedupeLaw ttlNs log)
      (fun _ _ _ ⟨⟨_,marks⟩,law⟩ clean => lawClean alive marks (clean alive) law)
      ⟨⟨_,marksEmpty ttlNs limiter⟩,lawEmpty ttlNs⟩ clean).2

def paperScan (nowMonotonicNs : Nat) (hashes : List UInt64) : SignalScan :=
  { nowMonotonicNs
    evaluated := hashes.map fun h =>
      {intentId := h, bundleId := h, idempotencyHash := h, status := .paperOpportunity} }
theorem repeatedScanObeysLaw :
    DedupeLaw 5000000000 (Machine.run (scanOnce none {}) {deduper := some {ttlNs := 5000000000}} []
      [paperScan 1000 [7],paperScan 2000 [7],paperScan 5000001000 [7]]).2 :=
  cleanRunsObeyLaw none {} 5000000000 {} [paperScan 1000 [7],paperScan 2000 [7],paperScan 5000001000 [7]]
    (by decide +kernel)

-- One intent a second: the second opportunity is dropped by the limiter, and suppressed when it comes again.
theorem rateLimitedIntentBlocksItself : ¬ DedupeLaw 5000000000
    (Machine.run (scanOnce none {})
      {deduper := some {ttlNs := 5000000000},limiter := {maxIntentsPerSecond := 1}} []
      [paperScan 100000000 [7,8],paperScan 1200000000 [8]]).2 := by
  intro law
  have suppressed : ∃ log r, (Machine.run (scanOnce none {})
      {deduper := some {ttlNs := 5000000000},limiter := {maxIntentsPerSecond := 1}} []
      [paperScan 100000000 [7,8],paperScan 1200000000 [8]]).2 = log ++ [(paperScan 1200000000 [8],r)] ∧
      (∃ x ∈ r.duplicates, x.idempotencyHash = 8) ∧
      ∀ p ∈ publications (log ++ [(paperScan 1200000000 [8],r)]), p.1.idempotencyHash = 7 :=
    ⟨_,_,rfl,by decide +kernel,by decide +kernel⟩
  obtain ⟨log,r,split,⟨x,mem,eight⟩,seven⟩ := suppressed
  obtain ⟨p,published,same,_⟩ := law.justified log _ r [] split x mem
  rw [SameHash,seven p published,eight] at same
  exact absurd same (by decide)

end Polytope.SignalDedupe
