import Polytope.FixedShapeKernel
import Polytope.Sorting
import Mathlib.Data.Prod.Lex

/-! The publish half of SignalEngine::scan_once. Evaluating a bundle is left to the caller: a scan is
given the intents of its bundles in the order they were scanned, rejected ones included. What follows
is the source's: the cap, the completion of the intents, the ranking, the deduper and the rate limiter.
The counters of a scan are the lengths of the lists its result keeps. -/
namespace Polytope.SignalPublishing
open FixedPointMath
open FixedShapeKernel (makeIntentId)
open Intent (SignalConfig OpportunityIntent IntentStatus Evidence evidence)
open Sorting (Sorter WeakOrder)

def kSignalScratchMaxIntents : Nat := 1024
-- What the artifact reader identifies itself by.
structure ArtifactIdentity where
  artifactHash : UInt64 := 0
  constraintHash : UInt64 := 0
  bundleHash : UInt64 := 0
  deriving DecidableEq
structure SignalScan where
  nowMonotonicNs : Nat := 0
  artifact : ArtifactIdentity := {}
  evaluated : List OpportunityIntent := []
  deriving DecidableEq

def isPaper (i : OpportunityIntent) : Bool := i.status = .paperOpportunity
def shouldPublish (config : SignalConfig) (i : OpportunityIntent) : Bool := isPaper i || config.emitRejections
def publishLimit (config : SignalConfig) : Nat := min config.maxIntentsPerScan kSignalScratchMaxIntents

def completeExpiry (config : SignalConfig) (nowNs : Nat) (expiresAtNs : Nat) : Nat :=
  if expiresAtNs ≤ nowNs then min (nowNs + if config.intentTtlNs = 0 then 1 else config.intentTtlNs) (2^64 - 1)
  else expiresAtNs
def completeHashes (artifact : ArtifactIdentity) (i : OpportunityIntent) : OpportunityIntent :=
  {i with
    oracleArtifactHash := if i.oracleArtifactHash = 0 then artifact.artifactHash else i.oracleArtifactHash
    constraintHash := if i.constraintHash = 0 then artifact.constraintHash else i.constraintHash
    bundleHash := if i.bundleHash = 0 then artifact.bundleHash else i.bundleHash}
def completeIdentity (i : OpportunityIntent) : OpportunityIntent :=
  let intentId :=
    if i.intentId = 0 then makeIntentId i.bundleId i.bundleHash i.snapshotVersionHash i.bundleQty i.unitEdgeTick
    else i.intentId
  {i with intentId, idempotencyHash := if i.idempotencyHash = 0 then intentId else i.idempotencyHash}
def completeIntentLifecycle (config : SignalConfig) (scan : SignalScan) (i : OpportunityIntent) :
    OpportunityIntent :=
  completeIdentity (completeHashes scan.artifact {i with
    createdTsNs := if i.createdTsNs = 0 then scan.nowMonotonicNs else i.createdTsNs
    expiresAtNs := completeExpiry config scan.nowMonotonicNs i.expiresAtNs})

def statusPriority (i : OpportunityIntent) : Nat := if isPaper i then 0 else 1
def candidateLess (left right : OpportunityIntent) : Bool :=
  if statusPriority left ≠ statusPriority right then statusPriority left < statusPriority right
  else if left.totalEdgeTick ≠ right.totalEdgeTick then right.totalEdgeTick < left.totalEdgeTick
  else if left.edgeBps ≠ right.edgeBps then right.edgeBps < left.edgeBps
  else if left.bundleQty ≠ right.bundleQty then right.bundleQty < left.bundleQty
  else if left.bundleId ≠ right.bundleId then left.bundleId < right.bundleId
  else left.intentId < right.intentId

/-! IntentDeduper: the two maps of the source are one map by evidence. An empty key is no evidence. -/

structure IntentDeduper where
  ttlNs : Nat
  seen : Evidence → Option Nat := fun _ => none
def IntentDeduper.mark (d : IntentDeduper) (e : Evidence) (nowNs : Nat) : IntentDeduper :=
  if e = .key "" then d else {d with seen := fun key => if key = e then some nowNs else d.seen key}
def IntentDeduper.erase (d : IntentDeduper) (e : Evidence) : IntentDeduper :=
  {d with seen := fun key => if key = e then none else d.seen key}
def seenRecently (d : IntentDeduper) (e : Evidence) (nowNs : Nat) : IntentDeduper × Bool :=
  if e = .key "" then (d,false)
  else match d.seen e with
    | none => (d,false)
    | some seenAtNs =>
      if seenAtNs ≤ nowNs ∧ nowNs - seenAtNs < d.ttlNs then (d,true) else (d.erase e,false)

structure DedupeResult where
  deduper : IntentDeduper
  kept : List OpportunityIntent := []
  duplicates : List OpportunityIntent := []
def dedupe (nowNs : Nat) (d : IntentDeduper) : List OpportunityIntent → DedupeResult
  | [] => {deduper := d}
  | i::rest =>
    if isPaper i = false then
      let later := dedupe nowNs d rest
      {later with kept := i::later.kept}
    else if (seenRecently d (evidence i) nowNs).2 then
      let later := dedupe nowNs (seenRecently d (evidence i) nowNs).1 rest
      {later with duplicates := i::later.duplicates}
    else
      let later := dedupe nowNs ((seenRecently d (evidence i) nowNs).1.mark (evidence i) nowNs) rest
      {later with kept := i::later.kept}

/-! IntentRateLimiter. -/

def kNsPerSecond : Nat := 1000000000
structure IntentRateLimiter where
  maxIntentsPerSecond : Int := 100
  currentSecond : Nat := 0
  emittedThisSecond : Int := 0
  hasWindow : Bool := false
  deriving DecidableEq
def IntentRateLimiter.window (l : IntentRateLimiter) (nowNs : Nat) : IntentRateLimiter :=
  if l.hasWindow = false ∨ nowNs / kNsPerSecond ≠ l.currentSecond then
    {l with currentSecond := nowNs / kNsPerSecond, emittedThisSecond := 0, hasWindow := true}
  else l
def IntentRateLimiter.allow (l : IntentRateLimiter) (nowNs : Nat) : IntentRateLimiter × Bool :=
  let l := l.window nowNs
  if l.maxIntentsPerSecond ≤ 0 ∨ l.maxIntentsPerSecond ≤ l.emittedThisSecond then (l,false)
  else ({l with emittedThisSecond := l.emittedThisSecond + 1},true)

structure LimitResult where
  limiter : IntentRateLimiter
  allowed : List OpportunityIntent := []
  rateLimited : List OpportunityIntent := []
def limitRate (nowNs : Nat) (l : IntentRateLimiter) : List OpportunityIntent → LimitResult
  | [] => {limiter := l}
  | i::rest =>
    let later := limitRate nowNs (l.allow nowNs).1 rest
    if (l.allow nowNs).2 then {later with allowed := i::later.allowed}
    else {later with rateLimited := i::later.rateLimited}

/-! SignalEngine. -/

structure SignalEngine where
  deduper : Option IntentDeduper := none
  limiter : IntentRateLimiter := {}
structure SignalRunResult where
  published : List OpportunityIntent := []
  duplicates : List OpportunityIntent := []
  rateLimited : List OpportunityIntent := []
  deriving DecidableEq

def publishable (config : SignalConfig) (scan : SignalScan) : List OpportunityIntent :=
  scan.evaluated.filter (shouldPublish config)
-- try_publish takes intents as they come and turns the rest away once the limit is reached.
def collected (config : SignalConfig) (scan : SignalScan) : List OpportunityIntent :=
  ((publishable config scan).take (publishLimit config)).map (completeIntentLifecycle config scan)
-- No ranker, no sorting.
def ranked (ranker : Option (Sorter OpportunityIntent)) (config : SignalConfig) (scan : SignalScan) :
    List OpportunityIntent :=
  match ranker with
  | none => collected config scan
  | some sorter => sorter.sort candidateLess (collected config scan)
def dedupeAll (nowNs : Nat) (d : Option IntentDeduper) (candidates : List OpportunityIntent) :
    Option IntentDeduper × List OpportunityIntent × List OpportunityIntent :=
  match d with
  | none => (none,candidates,[])
  | some d => (some (dedupe nowNs d candidates).deduper,(dedupe nowNs d candidates).kept,
      (dedupe nowNs d candidates).duplicates)
def scanOnce (ranker : Option (Sorter OpportunityIntent)) (config : SignalConfig) (engine : SignalEngine)
    (scan : SignalScan) : SignalEngine × SignalRunResult :=
  let deduped := dedupeAll scan.nowMonotonicNs engine.deduper (ranked ranker config scan)
  let limited := limitRate scan.nowMonotonicNs engine.limiter deduped.2.1
  (⟨deduped.1,limited.limiter⟩,⟨limited.allowed,deduped.2.2,limited.rateLimited⟩)

/-! Ranking: the comparator is a lexicographic order on six figures. -/

def rankKey (i : OpportunityIntent) : Nat ×ₗ Int ×ₗ Int ×ₗ Int ×ₗ Nat ×ₗ Nat :=
  toLex (statusPriority i,toLex
    (-i.totalEdgeTick,toLex (-i.edgeBps,toLex (-i.bundleQty,toLex (i.bundleId.toNat,i.intentId.toNat)))))
theorem candidateLessKey (left right : OpportunityIntent) :
    candidateLess left right = decide (rankKey left < rankKey right) := by
  unfold candidateLess rankKey
  simp only [Prod.Lex.toLex_lt_toLex,UInt64.lt_iff_toNat_lt,ne_eq,← UInt64.toNat_inj]
  grind
theorem candidateOrder : WeakOrder candidateLess := by
  have same : candidateLess = fun left right => decide (rankKey left < rankKey right) := by
    funext left right
    exact candidateLessKey left right
  rw [same]
  exact WeakOrder.ofKey rankKey

-- The first n of some items: in order, as many as there are up to n, and none of the others belongs before them.
structure FirstOf {α : Type} (less : α → α → Bool) (n : Nat) (items chosen : List α) : Prop where
  sorted : chosen.Pairwise fun a b => less b a = false
  others : ∃ left, (chosen ++ left).Perm items ∧ chosen.length = min n items.length ∧
    ∀ x ∈ chosen, ∀ y ∈ left, less y x = false

/-! What the two filters keep and what they remove. -/

theorem dedupeKept (nowNs d) (candidates : List OpportunityIntent) :
    (dedupe nowNs d candidates).kept.Sublist candidates ∧
    ((dedupe nowNs d candidates).kept ++ (dedupe nowNs d candidates).duplicates).Perm candidates := by
  induction candidates generalizing d with
  | nil => exact ⟨.slnil,.nil⟩
  | cons i rest ih =>
    rw [dedupe]
    split
    · exact ⟨(ih d).1.cons_cons i,(ih d).2.cons i⟩
    · split
      · exact ⟨(ih _).1.cons i,List.perm_middle.trans ((ih _).2.cons i)⟩
      · exact ⟨(ih _).1.cons_cons i,(ih _).2.cons i⟩
theorem limitKept (nowNs l) (candidates : List OpportunityIntent) :
    (limitRate nowNs l candidates).allowed.Sublist candidates ∧
    ((limitRate nowNs l candidates).allowed ++ (limitRate nowNs l candidates).rateLimited).Perm candidates := by
  induction candidates generalizing l with
  | nil => exact ⟨.slnil,.nil⟩
  | cons i rest ih =>
    rw [limitRate]
    split
    · exact ⟨(ih _).1.cons_cons i,(ih _).2.cons i⟩
    · exact ⟨(ih _).1.cons i,List.perm_middle.trans ((ih _).2.cons i)⟩

theorem scanKept (ranker config engine scan) :
    (scanOnce ranker config engine scan).2.published.Sublist (ranked ranker config scan) ∧
    ((scanOnce ranker config engine scan).2.published ++ (scanOnce ranker config engine scan).2.rateLimited ++
      (scanOnce ranker config engine scan).2.duplicates).Perm (ranked ranker config scan) := by
  have deduped : (dedupeAll scan.nowMonotonicNs engine.deduper (ranked ranker config scan)).2.1.Sublist
    (ranked ranker config scan) ∧
      ((dedupeAll scan.nowMonotonicNs engine.deduper (ranked ranker config scan)).2.1 ++
        (dedupeAll scan.nowMonotonicNs engine.deduper (ranked ranker config scan)).2.2).Perm
          (ranked ranker config scan) := by
    unfold dedupeAll
    split
    · exact ⟨.refl _,by simp⟩
    · exact dedupeKept _ _ _
  have limited := limitKept scan.nowMonotonicNs engine.limiter
    (dedupeAll scan.nowMonotonicNs engine.deduper (ranked ranker config scan)).2.1
  exact ⟨limited.1.trans deduped.1,(limited.2.append_right _).trans deduped.2⟩

/-! Selection: the limit is applied before the ranking, so the scan order decides who is ranked at all. -/

-- Up to duplicates and rate limiting, what is published are the first of all publishable intents.
def PublishesFirst (config : SignalConfig) (scan : SignalScan) (r : SignalRunResult) : Prop :=
  ∃ chosen, FirstOf candidateLess (publishLimit config)
      ((publishable config scan).map (completeIntentLifecycle config scan)) chosen ∧
    r.published.Sublist chosen ∧ (r.published ++ r.rateLimited ++ r.duplicates).Perm chosen
-- The publishable intents that come too late in the scan.
def turnedAway (config : SignalConfig) (scan : SignalScan) : List OpportunityIntent :=
  ((publishable config scan).drop (publishLimit config)).map (completeIntentLifecycle config scan)

theorem collectedSplit (config scan) : collected config scan ++ turnedAway config scan =
    (publishable config scan).map (completeIntentLifecycle config scan) := by
  rw [collected,turnedAway,← List.map_append,List.take_append_drop]
theorem turnedAwayBehind {sorter config engine scan}
    (first : PublishesFirst config scan (scanOnce (some sorter) config engine scan).2) {x y}
    (taken : x ∈ collected config scan) (late : y ∈ turnedAway config scan) : candidateLess y x = false := by
  obtain ⟨chosen,⟨_,left,all,_,before⟩,_,kept⟩ := first
  have same : chosen.Perm (collected config scan) :=
    (kept.symm.trans (scanKept (some sorter) config engine scan).2).trans
    (sorter.perm candidateLess (collected config scan))
  have rest : left.Perm (turnedAway config scan) := by
    rw [← collectedSplit] at all
    exact (List.perm_append_left_iff _).mp ((same.symm.append_right left).trans all)
  exact before x (same.mem_iff.mpr taken) y (rest.mem_iff.mpr late)
theorem publishesFirst {sorter config engine scan}
    (behind : ∀ x ∈ collected config scan, ∀ y ∈ turnedAway config scan, candidateLess y x = false) :
    PublishesFirst config scan (scanOnce (some sorter) config engine scan).2 := by
  obtain ⟨sublist,kept⟩ := scanKept (some sorter) config engine scan
  refine ⟨ranked (some sorter) config
    scan,⟨sorter.ordered _ _ candidateOrder,turnedAway config scan,?_,?_,?_⟩,sublist,kept⟩
  · exact ((sorter.perm _ _).append_right _).trans (by rw [collectedSplit])
  · rw [ranked,Sorting.sortLength,collected,List.length_map,List.length_map,List.length_take]
  · intro x taken y late
    exact behind x ((Sorting.sortMem sorter).mp taken) y late

theorem publishesFirstIff (sorter : Sorter OpportunityIntent) (config : SignalConfig) (engine : SignalEngine)
    (scan : SignalScan) : PublishesFirst config scan (scanOnce (some sorter) config engine scan).2 ↔
      ∀ x ∈ collected config scan, ∀ y ∈ turnedAway config scan, candidateLess y x = false :=
  ⟨fun first _ taken _ late => turnedAwayBehind first taken late,publishesFirst⟩

-- Two slots, and the scan meets a rejection and a small edge before the large one.
def lateScan : SignalScan :=
  { nowMonotonicNs := 1000
    evaluated := [{intentId := 1, bundleId := 1, status := .rejectedInsufficientDepth},
      {intentId := 2, bundleId := 2, status := .paperOpportunity, totalEdgeTick := 10},
      {intentId := 3, bundleId := 3, status := .paperOpportunity, totalEdgeTick := 90}] }
theorem lateOpportunityLeftOut :
    (scanOnce (some Sorting.stable) {maxIntentsPerScan := 2} {} lateScan).2.published.map
    OpportunityIntent.bundleId = [2,1] ∧
    ¬ PublishesFirst {maxIntentsPerScan := 2} lateScan
      (scanOnce (some Sorting.stable) {maxIntentsPerScan := 2} {} lateScan).2 := by
  refine ⟨by decide +kernel,fun first => ?_⟩
  have ahead : ∃ x ∈ collected {maxIntentsPerScan := 2} lateScan,
    ∃ y ∈ turnedAway {maxIntentsPerScan := 2} lateScan,
      candidateLess y x = true := by decide +kernel
  obtain ⟨x,taken,y,late,before⟩ := ahead
  rw [turnedAwayBehind first taken late] at before
  cases before

end Polytope.SignalPublishing
