import FireflyToolkit.Domain.Evidence

set_option autoImplicit false

namespace FireflyToolkit

open PyBuiltins

class Matchable (α : Type) where
  date : α → Date
  compare : α → Transaction → Except PyError Bool

def compareAmountsAbs (amount other : Decimal) : Except PyError Bool := do
  let absolute ← amount.abs
  let otherAbsolute ← other.abs
  .ok (absolute.numEq otherAbsolute)

instance : Matchable BankRecord where
  date := BankRecord.date
  compare record tx := do
    let sameAmount ← compareAmountsAbs record.amount tx.amount
    .ok (sameAmount && decide (record.date = tx.date))

-- A payment matches from its own date until six days later.
def OrderPayment.compare (payment : OrderPayment) (tx : Transaction) : Except PyError Bool := do
  let sameAmount ← compareAmountsAbs payment.amount tx.amount
  if sameAmount then
    match payment.date.addDays 6 with
    | none => .error (.overflowError "date value out of range")
    | some latestAcceptableDate =>
        .ok (payment.date.le tx.date && tx.date.le latestAcceptableDate)
  else .ok false

instance : Matchable AllegroOrderPayment where
  date payment := payment.date
  compare payment tx := payment.toOrderPayment.compare tx

inductive MatchProcessingStatus
  | new | alreadyProcessed
  deriving DecidableEq, Repr

structure MatchResult (α : Type) where
  tx : Transaction
  txMatches : List α
  status : MatchProcessingStatus
  deriving DecidableEq

def singleMatches {α : Type} (results : List (MatchResult α)) : List (MatchResult α) :=
  results.filter fun result => result.txMatches.length = 1

def selections {α : Type} (single : List (MatchResult α)) : List (Transaction × α) :=
  single.filterMap fun result => result.txMatches.head?.map fun candidate => (result.tx, candidate)

section Selections

variable {α : Type}

theorem mem_singleMatches {results : List (MatchResult α)} {result : MatchResult α} :
    result ∈ singleMatches results ↔ result ∈ results ∧ ∃ candidate, result.txMatches = [candidate] := by
  simp [singleMatches, List.length_eq_one_iff]

theorem mem_selections {results : List (MatchResult α)} {selected : Transaction × α} :
    selected ∈ selections results ↔
      ∃ result ∈ results, result.tx = selected.1 ∧ result.txMatches.head? = some selected.2 := by
  simp only [selections, List.mem_filterMap, Option.map_eq_some_iff, Prod.ext_iff]
  constructor
  · rintro ⟨result, member, candidate, first, sameTx, sameCandidate⟩
    exact ⟨result, member, sameTx, sameCandidate ▸ first⟩
  · rintro ⟨result, member, sameTx, first⟩
    exact ⟨result, member, selected.2, first, sameTx, rfl⟩

theorem mem_selections_single {results picked : List (MatchResult α)} {selected : Transaction × α}
    (single : picked ⊆ singleMatches results) (member : selected ∈ selections picked) :
    ∃ result ∈ results, result.tx = selected.1 ∧ result.txMatches = [selected.2] := by
  obtain ⟨result, kept, sameTx, head⟩ := mem_selections.mp member
  obtain ⟨listed, only, candidates⟩ := mem_singleMatches.mp (single kept)
  have same : only = selected.2 := by simpa [candidates] using head
  exact ⟨result, listed, sameTx, same ▸ candidates⟩

theorem selections_map_tx {results : List (MatchResult α)}
    (single : ∀ result ∈ results, ∃ candidate, result.txMatches = [candidate]) :
    (selections results).map Prod.fst = results.map MatchResult.tx := by
  induction results with
  | nil => rfl
  | cons result rest ih =>
    obtain ⟨candidate, only⟩ := single result (by simp)
    have later := ih fun other member => single other (by simp [member])
    simpa [selections, only] using later

end Selections

section Matching

variable {α : Type} [Matchable α]

-- The inner loop: the candidates that match `tx` and their positions.
def matchingCandidates (tx : Transaction) : List (α × Nat) → Except PyError (List α × List Nat)
  | [] => .ok ([], [])
  | (item, index) :: rest => do
      let matched ← Matchable.compare item tx
      let (items, indexes) ← matchingCandidates tx rest
      .ok (if matched then (item :: items, index :: indexes) else (items, indexes))

def processingStatus (tagDone : TxTag) (tx : Transaction) : MatchProcessingStatus :=
  if tx.hasTag tagDone then .alreadyProcessed else .new

-- The body of the outer loop: the result for `tx` and the positions it matched.
def matchTransaction (items : List α) (tagDone : TxTag) (tx : Transaction) :
    Except PyError (MatchResult α × List Nat) := do
  let (txMatches, indexes) ← matchingCandidates tx items.zipIdx
  .ok (⟨tx, txMatches, processingStatus tagDone tx⟩, indexes)

def matchTransactions (txs : List Transaction) (items : List α) (tagDone : TxTag) :
    Except PyError (List (MatchResult α) × List α) := do
  let scans ← txs.mapM (matchTransaction items tagDone)
  let matchedIndexes := scans.flatMap Prod.snd
  let unmatchedItems := (items.zipIdx.filter fun item => item.2 ∉ matchedIndexes).map Prod.fst
  .ok (scans.map Prod.fst, unmatchedItems)

def accepts (item : α) (tx : Transaction) : Bool :=
  match Matchable.compare item tx with
  | .ok matched => matched
  | .error _ => false

theorem accepts_of_compare {item : α} {tx : Transaction} {verdict : Bool}
    (compared : Matchable.compare item tx = .ok verdict) : accepts item tx = verdict := by
  simp [accepts, compared]

theorem matchingCandidates_eq_ok {tx : Transaction} {items : List (α × Nat)}
    {output : List α × List Nat} : matchingCandidates tx items = .ok output ↔
      (∀ item ∈ items, Matchable.compare item.1 tx = .ok (accepts item.1 tx)) ∧
        output = ((items.filter fun item => accepts item.1 tx).map Prod.fst,
          (items.filter fun item => accepts item.1 tx).map Prod.snd) := by
  induction items generalizing output with
  | nil => simp [matchingCandidates, eq_comm]
  | cons head rest ih =>
    obtain ⟨item, index⟩ := head
    simp only [matchingCandidates, bind_eq_ok, ih, List.forall_mem_cons]
    constructor
    · rintro ⟨verdict, compared, found, ⟨decided, rfl⟩, same⟩
      obtain rfl := accepts_of_compare compared
      refine ⟨⟨compared, decided⟩, ?_⟩
      rw [← Except.ok.inj same]
      cases verdict : accepts item tx <;> simp [verdict]
    · rintro ⟨⟨compared, decided⟩, rfl⟩
      refine ⟨_, compared, _, ⟨decided, rfl⟩, ?_⟩
      cases verdict : accepts item tx <;> simp [verdict]

-- What the matcher records for one transaction when no comparison raises.
def matchResult (items : List α) (tagDone : TxTag) (tx : Transaction) : MatchResult α :=
  ⟨tx, items.filter fun item => accepts item tx, processingStatus tagDone tx⟩

theorem matchTransaction_ok {tx : Transaction} {items : List α} {tagDone : TxTag}
    {output : MatchResult α × List Nat} (matched : matchTransaction items tagDone tx = .ok output) :
    output.1 = matchResult items tagDone tx := by
  obtain ⟨found, scanned, same⟩ := bind_eq_ok.mp matched
  obtain ⟨-, rfl⟩ := matchingCandidates_eq_ok.mp scanned
  rw [← Except.ok.inj same, matchResult, zipIdx_filter_fst (fun item => accepts item tx)]

theorem matchTransactions_results {txs : List Transaction} {items unmatched : List α}
    {tagDone : TxTag} {results : List (MatchResult α)}
    (matched : matchTransactions txs items tagDone = .ok (results, unmatched)) :
    results = txs.map (matchResult items tagDone) := by
  obtain ⟨scans, scanned, same⟩ := bind_eq_ok.mp matched
  obtain ⟨rfl, -⟩ := Prod.mk.inj (Except.ok.inj same)
  exact mapM_ok_map (fun _ _ _ => matchTransaction_ok) scanned

end Matching

end FireflyToolkit
