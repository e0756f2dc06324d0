import Polytope.QuoteRisk
import Polytope.Machine
import Polytope.OrderedMap

/-! ActivePaperQuoteBook: the approved quotes resting on paper, with one index by quote group and one by
idempotency hash kept beside them. -/
namespace Polytope.PaperQuoteBook
open FixedPointMath QuoteTypes QuoteRisk OrderedMap

inductive MakerQuoteStatus where
  | created | activePaper | partiallyFilled | filled | cancelRequested | cancelled | expired | replaced | failed
  deriving DecidableEq, Repr

structure PaperMakerQuote where
  quoteId : UInt64 := 0
  approvedQuoteId : UInt64 := 0
  quoteIntentId : UInt64 := 0
  quoteGroupId : UInt64 := 0
  assetIndex : Nat := 0
  assetId : String := ""
  hasBid : Bool := false
  hasAsk : Bool := false
  bid : QuoteLeg := {}
  ask : QuoteLeg := {}
  status : MakerQuoteStatus := .created
  filledBidQtyLots : Int := 0
  filledAskQtyLots : Int := 0
  createdTsNs : Nat := 0
  expiresAtNs : Nat := 0
  idempotencyHash : UInt64 := 0
  deriving DecidableEq, Repr

abbrev ById (β : Type) := KeyedMap UInt64.toNat β
structure ActivePaperQuoteBook where
  quotesById : ById PaperMakerQuote := empty
  quoteIdByGroup : ById UInt64 := empty
  quoteIdByIdempotencyHash : ById UInt64 := empty
  duplicateIgnoredCount : Nat := 0
  cancelledQuoteCount : Nat := 0
  expiredQuoteCount : Nat := 0
  replacedQuoteCount : Nat := 0
  lastAddReplaced : Bool := false

def quoteFullyFilled (quote : PaperMakerQuote) : Bool :=
  (!quote.hasBid || quote.bid.quantityLots ≤ quote.filledBidQtyLots) &&
    (!quote.hasAsk || quote.ask.quantityLots ≤ quote.filledAskQtyLots)

def makeQuote (quote : ApprovedQuote) (nowNs : Nat) : PaperMakerQuote :=
  { quoteId := computePaperMakerQuoteId quote
    approvedQuoteId := quote.approvedQuoteId
    quoteIntentId := quote.quoteIntentId
    quoteGroupId := quote.quoteGroupId
    assetIndex := if quote.hasBid then quote.bid.assetIndex else if quote.hasAsk then quote.ask.assetIndex else 0
    assetId := if quote.hasBid then quote.bid.assetId else if quote.hasAsk then quote.ask.assetId else ""
    hasBid := quote.hasBid
    hasAsk := quote.hasAsk
    bid := quote.bid
    ask := quote.ask
    status := .activePaper
    createdTsNs := nowNs
    expiresAtNs := quote.expiresAtNs
    idempotencyHash := quote.idempotencyHash }

namespace ActivePaperQuoteBook

def eraseHash (book : ActivePaperQuoteBook) (quote : PaperMakerQuote) : ActivePaperQuoteBook :=
  if quote.idempotencyHash ≠ 0 then
    {book with quoteIdByIdempotencyHash := book.quoteIdByIdempotencyHash.erase quote.idempotencyHash}
  else book
-- A quote reached through its id: its group, its hash and the quote itself are erased.
def forget (book : ActivePaperQuoteBook) (quoteId : UInt64) (quote : PaperMakerQuote) : ActivePaperQuoteBook :=
  let book := {book with quoteIdByGroup := book.quoteIdByGroup.erase quote.quoteGroupId}.eraseHash quote
  {book with quotesById := book.quotesById.erase quoteId}
-- A quote reached through its group.
def forgetGroup (book : ActivePaperQuoteBook) (quoteGroupId quoteId : UInt64) : ActivePaperQuoteBook :=
  let hashed :=
    match book.quotesById.find quoteId with
    | some quote => book.eraseHash quote
    | none => book
  {hashed with
    quotesById := hashed.quotesById.erase quoteId
    quoteIdByGroup := hashed.quoteIdByGroup.erase quoteGroupId}

def store (book : ActivePaperQuoteBook) (quote : PaperMakerQuote) : ActivePaperQuoteBook :=
  {book with
    quoteIdByGroup := book.quoteIdByGroup.assign quote.quoteGroupId quote.quoteId
    quoteIdByIdempotencyHash :=
      if quote.idempotencyHash ≠ 0 then book.quoteIdByIdempotencyHash.assign quote.idempotencyHash quote.quoteId
      else book.quoteIdByIdempotencyHash
    quotesById := book.quotesById.assign quote.quoteId quote}

def addOrReplace (book : ActivePaperQuoteBook) (quote : ApprovedQuote) (nowNs : Nat) :
    ActivePaperQuoteBook × Bool :=
  let book := {book with lastAddReplaced := false}
  if !quote.hasBid && !quote.hasAsk then (book,false)
  else if quote.idempotencyHash ≠ 0 ∧ (book.quoteIdByIdempotencyHash.find quote.idempotencyHash).isSome then
    ({book with duplicateIgnoredCount := book.duplicateIgnoredCount + 1},false)
  else
    let book :=
      match book.quoteIdByGroup.find quote.quoteGroupId with
      | some existing =>
        {book.forgetGroup quote.quoteGroupId existing with
          replacedQuoteCount := book.replacedQuoteCount + 1
          lastAddReplaced := true}
      | none => book
    let paperQuote := makeQuote quote nowNs
    if paperQuote.quoteId = 0 then (book,false) else (book.store paperQuote,true)

def cancelByGroup (book : ActivePaperQuoteBook) (quoteGroupId : UInt64) : ActivePaperQuoteBook × Bool :=
  match book.quoteIdByGroup.find quoteGroupId with
  | none => (book,false)
  | some quoteId =>
    ({book.forgetGroup quoteGroupId quoteId with cancelledQuoteCount := book.cancelledQuoteCount + 1},true)
def cancelByQuoteId (book : ActivePaperQuoteBook) (quoteId : UInt64) : ActivePaperQuoteBook × Bool :=
  match book.quotesById.find quoteId with
  | none => (book,false)
  | some quote => ({book.forget quoteId quote with cancelledQuoteCount := book.cancelledQuoteCount + 1},true)

def expiredAt (nowNs : Nat) (quote : PaperMakerQuote) : Bool := quote.expiresAtNs ≠ 0 ∧ quote.expiresAtNs ≤ nowNs
def expireOne (book : ActivePaperQuoteBook) (quoteId : UInt64) : ActivePaperQuoteBook :=
  match book.quotesById.find quoteId with
  | none => book
  | some quote => {book.forget quoteId quote with expiredQuoteCount := book.expiredQuoteCount + 1}
def expireOld (book : ActivePaperQuoteBook) (nowNs : Nat) : ActivePaperQuoteBook :=
  ((book.quotesById.entries.filter fun entry => expiredAt nowNs entry.2).map Prod.fst).foldl expireOne book

-- The lots of a side after a fill: the sum is an int64 one, taken before the bound.
def filledTo (leg : QuoteLeg) (filled qtyLots : Int) : Int := min leg.quantityLots (addI64 filled qtyLots)
def filledQuote (quote : PaperMakerQuote) (side : QuoteSide) (qtyLots : Int) : Option PaperMakerQuote :=
  match side with
  | .bid =>
    if quote.hasBid then some {quote with filledBidQtyLots := filledTo quote.bid quote.filledBidQtyLots qtyLots}
    else none
  | .ask =>
    if quote.hasAsk then some {quote with filledAskQtyLots := filledTo quote.ask quote.filledAskQtyLots qtyLots}
    else none
def applyFill (book : ActivePaperQuoteBook) (quoteId : UInt64) (side : QuoteSide) (qtyLots : Int) :
    ActivePaperQuoteBook × Bool :=
  if qtyLots ≤ 0 then (book,false)
  else
    match book.quotesById.find quoteId with
    | none => (book,false)
    | some quote =>
      match filledQuote quote side qtyLots with
      | none => (book,false)
      | some quote =>
        if quoteFullyFilled quote then (book.forget quoteId quote,true)
        else ({book with quotesById := book.quotesById.assign quoteId {quote with status := .partiallyFilled}},
          true)

-- The entries come in the order of their ids, as the source sorts them.
def activeQuotesForAsset (book : ActivePaperQuoteBook) (assetIndex : Nat) : List PaperMakerQuote :=
  (book.quotesById.entries.map Prod.snd).filter fun quote => quote.assetIndex = assetIndex

end ActivePaperQuoteBook
open ActivePaperQuoteBook

inductive Call where
  | addOrReplace (quote : ApprovedQuote) (nowNs : Nat)
  | cancelByGroup (quoteGroupId : UInt64)
  | cancelByQuoteId (quoteId : UInt64)
  | expireOld (nowNs : Nat)
  | applyFill (quoteId : UInt64) (side : QuoteSide) (qtyLots : Int)
-- expire_old returns nothing, modelled as true.
def bookStep (book : ActivePaperQuoteBook) : Call → ActivePaperQuoteBook × Bool
  | .addOrReplace quote nowNs => book.addOrReplace quote nowNs
  | .cancelByGroup quoteGroupId => book.cancelByGroup quoteGroupId
  | .cancelByQuoteId quoteId => book.cancelByQuoteId quoteId
  | .expireOld nowNs => (book.expireOld nowNs,true)
  | .applyFill quoteId side qtyLots => book.applyFill quoteId side qtyLots

/-! The three maps. -/

theorem idInjective : Function.Injective UInt64.toNat := fun _ _ => UInt64.toNat_inj.mp
def groupKey (quote : PaperMakerQuote) : Option UInt64 := some quote.quoteGroupId
def hashKey (quote : PaperMakerQuote) : Option UInt64 :=
  if quote.idempotencyHash ≠ 0 then some quote.idempotencyHash else none

structure IndexedBy (quotes : ById PaperMakerQuote) (groups hashes : ById UInt64) : Prop where
  groups : Indexes groupKey quotes groups
  hashes : Indexes hashKey quotes hashes
  keyed : ∀ id quote, quotes.find id = some quote → quote.quoteId = id
def Indexed (book : ActivePaperQuoteBook) : Prop :=
  IndexedBy book.quotesById book.quoteIdByGroup book.quoteIdByIdempotencyHash
def SameMaps (book book' : ActivePaperQuoteBook) : Prop :=
  book'.quotesById = book.quotesById ∧ book'.quoteIdByGroup = book.quoteIdByGroup ∧
    book'.quoteIdByIdempotencyHash = book.quoteIdByIdempotencyHash

theorem eraseHashMaps (book : ActivePaperQuoteBook) (quote) :
    (book.eraseHash quote).quotesById = book.quotesById ∧
    (book.eraseHash quote).quoteIdByGroup = book.quoteIdByGroup ∧
      (book.eraseHash quote).quoteIdByIdempotencyHash = book.quoteIdByIdempotencyHash.eraseKey
      (hashKey quote) := by
  unfold eraseHash hashKey
  split <;> exact ⟨rfl,rfl,rfl⟩
theorem forgetMaps (book : ActivePaperQuoteBook) (id quote) :
    (book.forget id quote).quotesById = book.quotesById.erase id ∧
      (book.forget id quote).quoteIdByGroup = book.quoteIdByGroup.eraseKey (groupKey quote) ∧
      (book.forget id quote).quoteIdByIdempotencyHash = book.quoteIdByIdempotencyHash.eraseKey
      (hashKey quote) := by
  obtain ⟨quotes,groups,hashes⟩ :=
    eraseHashMaps {book with quoteIdByGroup := book.quoteIdByGroup.erase quote.quoteGroupId} quote
  exact ⟨congrArg (KeyedMap.erase · id) quotes,groups,hashes⟩
theorem storeMaps (book : ActivePaperQuoteBook) (quote) :
    (book.store quote).quotesById = book.quotesById.assign quote.quoteId quote ∧
      (book.store quote).quoteIdByGroup = book.quoteIdByGroup.assignKey quote.quoteId (groupKey quote) ∧
      (book.store quote).quoteIdByIdempotencyHash = book.quoteIdByIdempotencyHash.assignKey quote.quoteId
      (hashKey quote) := by
  refine ⟨rfl,rfl,?_⟩
  unfold store hashKey
  split <;> rfl
theorem forgetGroupForgets {book : ActivePaperQuoteBook} {group id} (indexed : Indexed book)
    (found : book.quoteIdByGroup.find group = some id) :
    ∃ quote, book.quotesById.find id = some quote ∧ quote.quoteGroupId = group ∧
      book.forgetGroup group id = book.forget id quote := by
  obtain ⟨quote,stored,named⟩ := (indexed.groups group id).mp found
  cases named
  refine ⟨quote,stored,rfl,?_⟩
  have same : book.forgetGroup quote.quoteGroupId id =
      {book.eraseHash quote with
        quotesById := (book.eraseHash quote).quotesById.erase id
        quoteIdByGroup := (book.eraseHash quote).quoteIdByGroup.erase quote.quoteGroupId} := by
    unfold forgetGroup
    rw [stored]
  rw [same]
  unfold forget eraseHash
  by_cases nonzero : quote.idempotencyHash ≠ 0
  · simp only [if_pos nonzero]
  · simp only [if_neg nonzero]

theorem keyedErase {quotes : ById PaperMakerQuote}
    (keyed : ∀ id quote, quotes.find id = some quote → quote.quoteId = id) (id) :
    ∀ id' quote, (quotes.erase id).find id' = some quote → quote.quoteId = id' := by
  intro id' quote found
  rw [findErase] at found
  split at found
  · cases found
  · exact keyed id' quote found
theorem keyedAssign {quotes : ById PaperMakerQuote}
    (keyed : ∀ id quote, quotes.find id = some quote → quote.quoteId = id)
    {id new} (own : new.quoteId = id) : ∀ id' quote, (quotes.assign id new).find id' = some quote →
      quote.quoteId = id' := by
  intro id' quote found
  rw [findAssign] at found
  split at found
  · next same =>
    cases found
    exact own.trans (idInjective same)
  · exact keyed id' quote found

theorem forgetIndexed {book : ActivePaperQuoteBook} {id quote new} (indexed : Indexed book)
    (stored : book.quotesById.find id = some quote) (group : new.quoteGroupId = quote.quoteGroupId)
    (hash : new.idempotencyHash = quote.idempotencyHash) : Indexed (book.forget id new) := by
  obtain ⟨quotes,groups,hashes⟩ := forgetMaps book id new
  have sameGroup : groupKey new = groupKey quote := congrArg some group
  have sameHash : hashKey new = hashKey quote := by rw [hashKey,hash,hashKey]
  unfold Indexed
  rw [quotes,groups,hashes,sameGroup,sameHash]
  exact ⟨indexesErase idInjective idInjective indexed.groups stored,indexesErase idInjective idInjective
    indexed.hashes stored,
    keyedErase indexed.keyed id⟩
theorem storeIndexed {book : ActivePaperQuoteBook} {quote} (indexed : Indexed book)
    (free : book.quotesById.find quote.quoteId = none)
    (freeGroup : book.quoteIdByGroup.find quote.quoteGroupId = none)
    (freeHash : quote.idempotencyHash ≠ 0 → book.quoteIdByIdempotencyHash.find quote.idempotencyHash = none) :
    Indexed (book.store quote) := by
  obtain ⟨quotes,groups,hashes⟩ := storeMaps book quote
  unfold Indexed
  rw [quotes,groups,hashes]
  refine ⟨indexesAssign idInjective idInjective indexed.groups free fun c named => ?_,
    indexesAssign idInjective idInjective indexed.hashes free fun c named => ?_,keyedAssign indexed.keyed rfl⟩
  · cases named
    exact freeGroup
  · unfold hashKey at named
    split at named
    · next nonzero =>
      cases named
      exact freeHash nonzero
    · cases named
theorem replaceIndexed {book : ActivePaperQuoteBook} {id old new} (indexed : Indexed book)
    (stored : book.quotesById.find id = some old) (group : new.quoteGroupId = old.quoteGroupId)
    (hash : new.idempotencyHash = old.idempotencyHash) (own : new.quoteId = old.quoteId) :
    IndexedBy (book.quotesById.assign id new) book.quoteIdByGroup book.quoteIdByIdempotencyHash :=
  ⟨indexesReplace idInjective indexed.groups stored (congrArg some group),
    indexesReplace idInjective indexed.hashes stored (by rw [hashKey,hash,hashKey]),
    keyedAssign indexed.keyed (own.trans (indexed.keyed id old stored))⟩

/-! What the calls keep: the indexes, and a property of every stored quote. -/

section
variable {P : PaperMakerQuote → Prop} {book : ActivePaperQuoteBook}

structure KeptBy (P : PaperMakerQuote → Prop) (quotes : ById PaperMakerQuote)
    (groups hashes : ById UInt64) : Prop where
  indexed : IndexedBy quotes groups hashes
  stored : ∀ id quote, quotes.find id = some quote → P quote
def Kept (P : PaperMakerQuote → Prop) (book : ActivePaperQuoteBook) : Prop :=
  KeptBy P book.quotesById book.quoteIdByGroup book.quoteIdByIdempotencyHash

theorem findErased {quotes : ById PaperMakerQuote} {id id' quote}
    (found : (quotes.erase id).find id' = some quote) :
    id ≠ id' ∧ quotes.find id' = some quote := by
  rw [findErase] at found
  split at found
  · cases found
  · next other => exact ⟨fun same => other (congrArg _ same),found⟩
theorem findStored {quotes : ById PaperMakerQuote} {id id' new quote}
    (found : (quotes.assign id new).find id' = some quote) :
    quote = new ∨ quotes.find id' = some quote := by
  rw [findAssign] at found
  split at found
  · exact .inl (Option.some.inj found).symm
  · exact .inr found

theorem keptForget {id quote new} (kept : Kept P book) (stored : book.quotesById.find id = some quote)
    (group : new.quoteGroupId = quote.quoteGroupId) (hash : new.idempotencyHash = quote.idempotencyHash) :
    Kept P (book.forget id new) := by
  refine ⟨forgetIndexed kept.indexed stored group hash,fun id' other found => ?_⟩
  rw [(forgetMaps book id new).1] at found
  exact kept.stored id' other (findErased found).2
theorem keptExpire {nowNs} (kept : Kept P book) : Kept P (book.expireOld nowNs) := by
  unfold expireOld
  generalize (book.quotesById.entries.filter _).map Prod.fst = expired
  induction expired generalizing book with
  | nil => exact kept
  | cons id rest ih =>
    refine ih ?_
    unfold expireOne
    split
    · exact kept
    · next quote stored => exact keptForget kept stored rfl rfl
theorem keptCancelQuote {id} (kept : Kept P book) : Kept P (book.cancelByQuoteId id).1 := by
  unfold cancelByQuoteId
  split
  · exact kept
  · next quote stored => exact keptForget kept stored rfl rfl
theorem keptCancelGroup {group} (kept : Kept P book) : Kept P (book.cancelByGroup group).1 := by
  unfold cancelByGroup
  split
  · exact kept
  · next id found =>
    obtain ⟨quote,stored,_,forgets⟩ := forgetGroupForgets kept.indexed found
    rw [forgets]
    exact keptForget kept stored rfl rfl

theorem filledSame {old side qtyLots new} (filled : filledQuote old side qtyLots = some new) :
    new.quoteGroupId = old.quoteGroupId ∧ new.idempotencyHash = old.idempotencyHash ∧
      new.quoteId = old.quoteId := by
  unfold filledQuote at filled
  cases side with
  | bid | ask =>
    simp only at filled
    split at filled
    · cases filled
      exact ⟨rfl,rfl,rfl⟩
    · cases filled
theorem keptFill {id side qtyLots} (kept : Kept P book)
    (filled : ∀ old new, book.quotesById.find id = some old → 0 < qtyLots →
      filledQuote old side qtyLots = some new →
      quoteFullyFilled new = false → P {new with status := .partiallyFilled}) :
    Kept P (book.applyFill id side qtyLots).1 := by
  unfold applyFill
  by_cases nothing : qtyLots ≤ 0
  · rw [if_pos nothing]
    exact kept
  · rw [if_neg nothing]
    cases stored : book.quotesById.find id with
    | none => exact kept
    | some old =>
      simp only
      cases taken : filledQuote old side qtyLots with
      | none => exact kept
      | some new =>
        obtain ⟨group,hash,own⟩ := filledSame taken
        simp only
        cases full : quoteFullyFilled new with
        | true => exact keptForget kept stored group hash
        | false =>
          refine ⟨replaceIndexed kept.indexed stored group hash own,fun id' quote found => ?_⟩
          rcases findStored found with rfl | old
          · exact filled _ _ stored (by omega) taken full
          · exact kept.stored id' quote old

theorem idNonzero (quote : ApprovedQuote) : computePaperMakerQuoteId quote ≠ 0 := by
  unfold computePaperMakerQuoteId
  simp only
  split
  · decide
  · assumption

def CollisionFree (book : ActivePaperQuoteBook) (quote : ApprovedQuote) : Prop :=
  ∀ old ∈ book.quotesById.find (computePaperMakerQuoteId quote), old.quoteGroupId = quote.quoteGroupId ∧
    old.idempotencyHash = quote.idempotencyHash
theorem keptStore {quote nowNs} (kept : Kept P book) (added : P (makeQuote quote nowNs))
    (free : book.quotesById.find (computePaperMakerQuoteId quote) = none)
    (freeGroup : book.quoteIdByGroup.find quote.quoteGroupId = none)
    (freeHash : quote.idempotencyHash ≠ 0 → book.quoteIdByIdempotencyHash.find quote.idempotencyHash = none) :
    Kept P (book.store (makeQuote quote nowNs)) := by
  refine ⟨storeIndexed kept.indexed free freeGroup freeHash,fun id other found => ?_⟩
  rcases findStored found with rfl | old
  · exact added
  · exact kept.stored id other old
theorem keptReplace {quote nowNs id} (kept : Kept P book) (distinct : CollisionFree book quote)
    (added : P (makeQuote quote nowNs)) (found : book.quoteIdByGroup.find quote.quoteGroupId = some id)
    (freeHash : quote.idempotencyHash ≠ 0 → book.quoteIdByIdempotencyHash.find quote.idempotencyHash = none) :
    Kept P ((book.forgetGroup quote.quoteGroupId id).store (makeQuote quote nowNs)) := by
  obtain ⟨old,stored,group,forgets⟩ := forgetGroupForgets kept.indexed found
  obtain ⟨quotes,groups,hashes⟩ := forgetMaps book id old
  rw [forgets]
  refine keptStore (keptForget kept stored rfl rfl) added ?_ ?_ fun nonzero => ?_
  · rw [quotes,← Option.not_isSome_iff_eq_none,Option.isSome_iff_exists]
    rintro ⟨other,here⟩
    obtain ⟨elsewhere,here⟩ := findErased here
    exact elsewhere (indexedOnce kept.indexed.groups stored (congrArg some group) here
      (congrArg some (distinct other here).1))
  · rw [groups,findEraseKey idInjective]
    exact if_pos (congrArg some group)
  · rw [hashes,findEraseKey idInjective,freeHash nonzero]
    exact ite_self _
theorem keptAddFresh {quote nowNs} (kept : Kept P book) (distinct : CollisionFree book quote)
    (added : P (makeQuote quote nowNs)) (freeGroup : book.quoteIdByGroup.find quote.quoteGroupId = none)
    (freeHash : quote.idempotencyHash ≠ 0 → book.quoteIdByIdempotencyHash.find quote.idempotencyHash = none) :
    Kept P (book.store (makeQuote quote nowNs)) := by
  refine keptStore kept added ?_ freeGroup freeHash
  -- A stored quote of this id would be of this group.
  rw [← Option.not_isSome_iff_eq_none,Option.isSome_iff_exists]
  rintro ⟨old,stored⟩
  have named := (kept.indexed.groups quote.quoteGroupId _).mpr ⟨old,stored,congrArg some (distinct old stored).1⟩
  cases freeGroup.symm.trans named
theorem keptAdd {quote nowNs} (kept : Kept P book) (distinct : CollisionFree book quote)
    (added : P (makeQuote quote nowNs)) :
    Kept P (book.addOrReplace quote nowNs).1 := by
  unfold addOrReplace
  simp only
  split
  · exact kept
  · split
    · exact kept
    · next fresh =>
      have freeHash : quote.idempotencyHash ≠ 0 →
        book.quoteIdByIdempotencyHash.find quote.idempotencyHash = none :=
        fun nonzero => Option.not_isSome_iff_eq_none.mp fun present => fresh ⟨nonzero,present⟩
      have nonzero : (makeQuote quote nowNs).quoteId ≠ 0 := idNonzero quote
      rw [if_neg nonzero]
      split
      · next id found =>
          exact @keptReplace P {book with lastAddReplaced := false} _ _ _ kept distinct added found freeHash
      · next found => exact keptAddFresh kept distinct added found freeHash

def Distinct (book : ActivePaperQuoteBook) : Call → Prop
  | .addOrReplace quote _ => CollisionFree book quote
  | _ => True
instance distinctDecidable (book : ActivePaperQuoteBook) : (call : Call) → Decidable (Distinct book call)
  | .addOrReplace quote _ =>
    inferInstanceAs (Decidable (∀ old ∈ book.quotesById.find (computePaperMakerQuoteId quote),
      old.quoteGroupId = quote.quoteGroupId ∧ old.idempotencyHash = quote.idempotencyHash))
  | .cancelByGroup _ | .cancelByQuoteId _ | .expireOld _ | .applyFill _ _ _ => isTrue trivial
theorem keptNext {call} (kept : Kept P book) (distinct : Distinct book call)
    (added : ∀ quote nowNs, call = .addOrReplace quote nowNs → P (makeQuote quote nowNs))
    (filled : ∀ id side qtyLots old new, call = .applyFill id side qtyLots →
      book.quotesById.find id = some old → 0 < qtyLots →
      filledQuote old side qtyLots = some new → quoteFullyFilled new = false →
        P {new with status := .partiallyFilled}) :
    Kept P (bookStep book call).1 := by
  cases call with
  | addOrReplace quote nowNs => exact keptAdd kept distinct (added quote nowNs rfl)
  | cancelByGroup group => exact keptCancelGroup kept
  | cancelByQuoteId id => exact keptCancelQuote kept
  | expireOld nowNs => exact keptExpire kept
  | applyFill id side qtyLots => exact keptFill kept fun old new => filled id side qtyLots old new rfl
theorem findEmpty {β : Type} {id : UInt64} {v : β} (found : (empty : ById β).find id = some v) : False := by
  cases found
theorem keptEmpty (P) : Kept P {} where
  indexed := ⟨fun _ _ => ⟨fun found => (findEmpty found).elim,fun ⟨_,found,_⟩ => (findEmpty found).elim⟩,
    fun _ _ => ⟨fun found => (findEmpty found).elim,fun ⟨_,found,_⟩ => (findEmpty found).elim⟩,
    fun _ _ found => (findEmpty found).elim⟩
  stored _ _ found := (findEmpty found).elim

end

def Open (quote : PaperMakerQuote) : Prop :=
  quote.status = .activePaper ∧ quote.filledBidQtyLots = 0 ∧ quote.filledAskQtyLots = 0 ∨
    quote.status = .partiallyFilled ∧ quoteFullyFilled quote = false
theorem openNext {book call} (kept : Kept Open book) (distinct : Distinct book call) :
    Kept Open (bookStep book call).1 :=
  keptNext kept distinct (fun _ _ _ => .inl ⟨rfl,rfl,rfl⟩) fun _ _ _ _ _ _ _ _ _ notFull => .inr ⟨rfl,notFull⟩

/-! Filled lots stay within the quantities when these are not negative and no sum leaves int64. -/

def Within (filled : Int) (leg : QuoteLeg) : Prop := 0 ≤ filled ∧ filled ≤ leg.quantityLots
def Bounded (quote : PaperMakerQuote) : Prop :=
  (quote.hasBid = true → Within quote.filledBidQtyLots quote.bid) ∧
  (quote.hasAsk = true → Within quote.filledAskQtyLots quote.ask)
def filledLots (quote : PaperMakerQuote) : QuoteSide → Int
  | .bid => quote.filledBidQtyLots
  | .ask => quote.filledAskQtyLots
def Sound (book : ActivePaperQuoteBook) : Call → Prop
  | .addOrReplace quote _ =>
    (quote.hasBid = true → 0 ≤ quote.bid.quantityLots) ∧ (quote.hasAsk = true → 0 ≤ quote.ask.quantityLots)
  | .applyFill quoteId side qtyLots =>
    ∀ quote ∈ book.quotesById.find quoteId, filledLots quote side + qtyLots ≤ i64Max
  | _ => True

theorem filledWithin {leg filled qtyLots} (within : Within filled leg) (positive : 0 < qtyLots)
    (fits : filled + qtyLots ≤ i64Max) :
    Within (filledTo leg filled qtyLots) leg := by
  obtain ⟨nonneg,below⟩ := within
  have exact : addI64 filled qtyLots = filled + qtyLots := wrapExact ⟨by unfold i64Min; omega,fits⟩
  unfold filledTo
  rw [exact]
  exact ⟨le_min (by omega) (by omega),min_le_left _ _⟩
theorem boundedFilled {old side qtyLots new} (bounded : Bounded old) (positive : 0 < qtyLots)
    (fits : filledLots old side + qtyLots ≤ i64Max) (filled : filledQuote old side qtyLots = some new) :
    Bounded new := by
  unfold filledQuote at filled
  cases side with
  | bid =>
    simp only at filled
    split at filled
    · cases filled
      exact ⟨fun active => filledWithin (bounded.1 active) positive fits,bounded.2⟩
    · cases filled
  | ask =>
    simp only at filled
    split at filled
    · cases filled
      exact ⟨bounded.1,fun active => filledWithin (bounded.2 active) positive fits⟩
    · cases filled
theorem boundedNext {book call} (kept : Kept Bounded book) (distinct : Distinct book call)
    (sound : Sound book call) :
    Kept Bounded (bookStep book call).1 := by
  refine keptNext kept distinct
    (fun quote nowNs added => ?_) fun id side qtyLots old new called stored positive filled _ => ?_
  · subst added
    exact ⟨fun active => ⟨le_refl _,sound.1 active⟩,fun active => ⟨le_refl _,sound.2 active⟩⟩
  · subst called
    have bounded : Bounded new := boundedFilled (kept.stored id old stored) positive (sound old stored) filled
    exact bounded

-- What the risk evaluator approves is sound to add.
theorem approvedSound {input approved} (ok : (evaluate input).approvedQuote = some approved) (book nowNs) :
    Sound book (.addOrReplace approved nowNs) := by
  cases quoted : input.quote with
  | none => simp [evaluate,quoted] at ok
  | some quote =>
    cases governed : input.policy with
    | none => simp [evaluate,quoted,governed] at ok
    | some policy =>
      have decided := evaluateQuoted quoted governed
      unfold evaluate at ok
      rw [quoted,governed] at ok
      simp only at ok
      split at ok
      · cases ok
      · next quotable =>
        cases found : (checks input quote policy).find? QuoteCheck.refused with
        | some check =>
          rw [found] at ok
          cases ok
        | none =>
          rw [if_neg quotable,found] at decided
          rw [found] at ok
          have passed := approvedPassed quoted governed decided
          cases ok
          exact ⟨fun active => le_of_lt (of_decide_eq_true (passed.bidValid active)).2,
            fun active => le_of_lt (of_decide_eq_true (passed.askValid active)).2⟩

/-! Refused calls. -/

theorem sameMaps (book : ActivePaperQuoteBook) : SameMaps book book := ⟨rfl,rfl,rfl⟩
theorem addRefused {book : ActivePaperQuoteBook} {quote nowNs}
    (refused : (book.addOrReplace quote nowNs).2 = false) :
    SameMaps book (book.addOrReplace quote nowNs).1 := by
  have nonzero : (makeQuote quote nowNs).quoteId ≠ 0 := idNonzero quote
  unfold addOrReplace at refused ⊢
  simp only [if_neg nonzero] at refused ⊢
  split
  · exact sameMaps book
  · next sided =>
    rw [if_neg sided] at refused
    split
    · exact sameMaps book
    · next fresh =>
      rw [if_neg fresh] at refused
      cases refused
theorem cancelGroupRefused {book : ActivePaperQuoteBook} {group} (refused : (book.cancelByGroup group).2 = false) :
    SameMaps book (book.cancelByGroup group).1 := by
  unfold cancelByGroup at refused ⊢
  split
  · exact sameMaps book
  · next id found =>
    simp only [found] at refused
    cases refused
theorem cancelQuoteRefused {book : ActivePaperQuoteBook} {id} (refused : (book.cancelByQuoteId id).2 = false) :
    SameMaps book (book.cancelByQuoteId id).1 := by
  unfold cancelByQuoteId at refused ⊢
  split
  · exact sameMaps book
  · next quote stored =>
    simp only [stored] at refused
    cases refused
theorem fillRefused {book : ActivePaperQuoteBook} {id side qtyLots}
    (refused : (book.applyFill id side qtyLots).2 = false) :
    SameMaps book (book.applyFill id side qtyLots).1 := by
  unfold applyFill at refused ⊢
  split
  · exact sameMaps book
  · next some' =>
    rw [if_neg some'] at refused
    cases stored : book.quotesById.find id with
    | none => exact sameMaps book
    | some old =>
      simp only [stored] at refused ⊢
      cases taken : filledQuote old side qtyLots with
      | none => exact sameMaps book
      | some new =>
        simp only [taken] at refused
        split at refused <;> cases refused

def RefusalKeeps (book : ActivePaperQuoteBook) (call : Call) : Prop :=
  (bookStep book call).2 = false → SameMaps book (bookStep book call).1
theorem refusalKeeps (book call) : RefusalKeeps book call := by
  intro refused
  cases call with
  | addOrReplace quote nowNs => exact addRefused refused
  | cancelByGroup group => exact cancelGroupRefused refused
  | cancelByQuoteId id => exact cancelQuoteRefused refused
  | expireOld nowNs => cases refused
  | applyFill id side qtyLots => exact fillRefused refused

structure Consistent (book : ActivePaperQuoteBook) : Prop where
  groups : ∀ group id, book.quoteIdByGroup.find group = some id ↔
    ∃ quote, book.quotesById.find id = some quote ∧ quote.quoteGroupId = group
  bijective : ∀ id, (book.quotesById.find id).isSome ↔ ∃! group, book.quoteIdByGroup.find group = some id
  hashes : ∀ hash id, book.quoteIdByIdempotencyHash.find hash = some id ↔
    hash ≠ 0 ∧ ∃ quote, book.quotesById.find id = some quote ∧ quote.idempotencyHash = hash
  openQuotes : ∀ id quote, book.quotesById.find id = some quote → Open quote

theorem hashKeySome {quote hash} : hashKey quote = some hash ↔ hash ≠ 0 ∧ quote.idempotencyHash = hash := by
  unfold hashKey
  split
  · next nonzero =>
    refine ⟨fun same => ?_,fun same => congrArg some same.2⟩
    cases same
    exact ⟨nonzero,rfl⟩
  · next zero => exact ⟨nofun,fun same => absurd (same.2 ▸ same.1) zero⟩
theorem keptConsistent {book} (kept : Kept Open book) : Consistent book where
  groups group id := (kept.indexed.groups group id).trans (by simp only [groupKey,Option.some.injEq])
  bijective id := by
    constructor
    · intro present
      obtain ⟨quote,stored⟩ := Option.isSome_iff_exists.mp present
      refine ⟨quote.quoteGroupId,(kept.indexed.groups _ id).mpr ⟨quote,stored,rfl⟩,fun group found => ?_⟩
      obtain ⟨other,stored',named⟩ := (kept.indexed.groups group id).mp found
      cases stored.symm.trans stored'
      exact (Option.some.inj named).symm
    · rintro ⟨group,found,_⟩
      obtain ⟨quote,stored,_⟩ := (kept.indexed.groups group id).mp found
      exact Option.isSome_iff_exists.mpr ⟨quote,stored⟩
  hashes hash id := by
    refine (kept.indexed.hashes hash id).trans ?_
    simp only [hashKeySome]
    constructor
    · rintro ⟨quote,stored,nonzero,same⟩
      exact ⟨nonzero,quote,stored,same⟩
    · rintro ⟨nonzero,quote,stored,same⟩
      exact ⟨quote,stored,nonzero,same⟩
  openQuotes := kept.stored

theorem runOpen {calls} (distinct : Machine.Along bookStep (fun book _ call => Distinct book call) {} [] calls) :
    Kept Open (Machine.run bookStep {} [] calls).1 :=
  Machine.invariantAlong (P := fun book _ => Kept Open book) (fun _ _ _ kept distinct => openNext kept distinct)
    (keptEmpty Open) distinct
theorem runIndexed {calls}
    (distinct : Machine.Along bookStep (fun book _ call => Distinct book call) {} [] calls) :
    Indexed (Machine.run bookStep {} [] calls).1 := (runOpen distinct).indexed
theorem paperQuotesStayIndexed (calls : List Call)
    (distinct : Machine.Along bookStep (fun book _ call => Distinct book call) {} [] calls) :
    Consistent (Machine.run bookStep {} [] calls).1 ∧
      Machine.Along bookStep (fun book _ call => RefusalKeeps book call) {} [] calls ∧
      (Machine.Along bookStep (fun book _ call => Sound book call) {} [] calls →
        ∀ id quote, (Machine.run bookStep {} [] calls).1.quotesById.find id = some quote → Bounded quote) ∧
      ∀ input approved book nowNs, (evaluate input).approvedQuote = some approved →
        Sound book (.addOrReplace approved nowNs) := by
  refine ⟨keptConsistent (runOpen distinct),?_,fun sound => ?_,fun _ _ book nowNs ok =>
    approvedSound ok book nowNs⟩
  · exact Machine.alongIff.mpr fun _ _ _ _ => refusalKeeps _ _
  · have both : Machine.Along bookStep (fun book _ call => Distinct book call ∧ Sound book call) {} [] calls :=
      Machine.alongIff.mpr fun before call rest split =>
        ⟨Machine.alongIff.mp distinct before call rest split,Machine.alongIff.mp sound before call rest split⟩
    exact (Machine.invariantAlong (P := fun book _ => Kept Bounded book)
      (fun _ _ _ kept conditions => boundedNext kept conditions.1 conditions.2) (keptEmpty Bounded) both).stored

-- Two quotes of one group, then a partial fill of the second.
def groupQuote (intentId : UInt64) : ApprovedQuote :=
  {quoteIntentId := intentId, quoteGroupId := 5, hasBid := true, bid := {quantityLots := 10},
    idempotencyHash := intentId}
def replacedThenFilled : List Call :=
  [.addOrReplace (groupQuote 1) 0,.addOrReplace (groupQuote 2) 0,.applyFill
    (computePaperMakerQuoteId (groupQuote 2)) .bid 4]
theorem replacedThenFilledIndexed :
    Consistent (Machine.run bookStep {} [] replacedThenFilled).1 ∧
      Machine.Along bookStep (fun book _ call => RefusalKeeps book call) {} [] replacedThenFilled ∧
      (Machine.Along bookStep (fun book _ call => Sound book call) {} [] replacedThenFilled →
        ∀ id quote, (Machine.run bookStep {} [] replacedThenFilled).1.quotesById.find id = some quote →
          Bounded quote) ∧
      ∀ input approved book nowNs, (evaluate input).approvedQuote = some approved →
        Sound book (.addOrReplace approved nowNs) :=
  paperQuotesStayIndexed replacedThenFilled (by decide +kernel)

-- The book takes a quantity as it comes.
theorem negativeQuantityUnbounded :
    ∃ calls, Machine.Along bookStep (fun book _ call => Distinct book call) {} [] calls ∧
      ∃ id quote, (Machine.run bookStep {} [] calls).1.quotesById.find id = some quote ∧ ¬ Bounded quote := by
  refine ⟨[.addOrReplace {hasBid := true, bid := {quantityLots := -1}} 0],by decide +kernel,
    computePaperMakerQuoteId {hasBid := true, bid := {quantityLots := -1}},
    makeQuote {hasBid := true, bid := {quantityLots := -1}} 0,by decide +kernel,fun bounded => ?_⟩
  exact absurd (bounded.1 rfl).2 (by decide)

end Polytope.PaperQuoteBook
