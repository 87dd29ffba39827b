import FireflyToolkit.Firefly.Store

set_option autoImplicit false

namespace FireflyToolkit

open PyBuiltins

-- The configured values; `lower` is `str.lower`, whose Unicode table stays a parameter.
structure Settings where
  lower : String → String
  matchWithUnmatchedFutureDays : Int
  blikDescriptionFilter : String
  allegroDescriptionFilter : String

def Settings.defaults (lower : String → String) : Settings :=
  { lower := lower
    matchWithUnmatchedFutureDays := 7
    blikDescriptionFilter := "BLIK - płatność w internecie"
    allegroDescriptionFilter := "allegro" }

section Filters

variable (lower : String → String)

def filterByDescription (transactions : List Transaction) (descriptionFilter : String)
    (exactMatch : Bool := true) (exclude : Bool := false) : List Transaction :=
  let desc := lower descriptionFilter
  let isMatch (tx : Transaction) : Bool :=
    if exactMatch then decide (lower tx.description = desc)
    else decide (OccursIn desc (lower tx.description))
  transactions.filter fun tx => isMatch tx != exclude

end Filters

def filterOutCategorized (transactions : List Transaction) : List Transaction :=
  transactions.filter fun tx => tx.category.isNone

namespace FireflyBaseService

def fetchTransactions (store : FireflyStore) (startDate endDate : Option Date)
    (excludeCategorized : Bool := false) : List Transaction :=
  let domainTxs := store.fetchTransactions startDate endDate
  if excludeCategorized then filterOutCategorized domainTxs else domainTxs

def updateTransaction (client : FireflyClient) (store : FireflyStore) (tx : Transaction)
    (payload : TransactionUpdate) : Except PyError FireflyStore :=
  match client.updateTransaction store tx.id payload with
  | .ok next => .ok next
  | .error failure =>
      .error (.fireflyServiceError ("Failed to update transaction " ++ toString tx.id)
        failure.statusCode)

theorem updateTransaction_ok {client : FireflyClient} {store next : FireflyStore}
    {tx : Transaction} {payload : TransactionUpdate} :
    updateTransaction client store tx payload = .ok next ↔
      client.updateTransaction store tx.id payload = .ok next := by
  unfold updateTransaction
  cases client.updateTransaction store tx.id payload <;> simp

end FireflyBaseService

namespace FireflyEnrichmentService

variable {α : Type}

def minDate : Date → List Date → Date
  | best, [] => best
  | best, date :: rest => minDate (if best.le date then best else date) rest

def maxDate : Date → List Date → Date
  | best, [] => best
  | best, date :: rest => maxDate (if date.le best then best else date) rest

def matchWithUnmatched [Matchable α] (settings : Settings) (store : FireflyStore)
    (candidates : List α) (filterText : String) (tagDone : TxTag) :
    Except PyError (List (MatchResult α) × List α) :=
  match candidates.map Matchable.date with
  | [] => .error (.valueError "min() iterable argument is empty")
  | first :: rest =>
      match (maxDate first rest).addDays settings.matchWithUnmatchedFutureDays with
      | none => .error (.overflowError "date value out of range")
      | some lastDate =>
          let domainTxs :=
            FireflyBaseService.fetchTransactions store (some (minDate first rest)) (some lastDate)
          let filtered := filterByDescription settings.lower domainTxs filterText false
          matchTransactions filtered candidates tagDone

def applyMatch [Evidence α] (settings : Settings) (client : FireflyClient)
    (store : FireflyStore) (tx : Transaction) (evidence : α) : Except PyError FireflyStore := do
  let payload ← Evidence.buildTxUpdate settings.lower evidence tx
  FireflyBaseService.updateTransaction client store tx payload

-- The guarded part of an apply job's loop, for a decision that resolved to a transaction and its
-- evidence or did not: the store afterwards and the exception that was caught.
def attempt [Evidence α] (settings : Settings) (client : FireflyClient) (store : FireflyStore) :
    Except PyError (Transaction × α) → FireflyStore × Option PyError
  | .error failure => (store, some failure)
  | .ok (tx, evidence) =>
      match applyMatch settings client store tx evidence with
      | .ok next => (next, none)
      | .error failure => (store, some failure)

theorem applyMatch_ok [Evidence α] {settings : Settings} {client : FireflyClient}
    {store next : FireflyStore} {tx : Transaction} {evidence : α} :
    applyMatch settings client store tx evidence = .ok next ↔
      ∃ payload, Evidence.buildTxUpdate settings.lower evidence tx = .ok payload ∧
        client.updateTransaction store tx.id payload = .ok next := by
  unfold applyMatch
  cases built : Evidence.buildTxUpdate settings.lower evidence tx with
  | error failure => simp [bind, Except.bind]
  | ok payload => simp [bind, Except.bind, FireflyBaseService.updateTransaction_ok]

theorem matchWithUnmatched_ok [Matchable α] {settings : Settings} {store : FireflyStore}
    {candidates unmatched : List α} {filterText : String} {tagDone : TxTag}
    {results : List (MatchResult α)}
    (matched : matchWithUnmatched settings store candidates filterText tagDone =
      .ok (results, unmatched)) :
    ∃ txs, txs.Sublist store.records ∧
      matchTransactions txs candidates tagDone = .ok (results, unmatched) := by
  unfold matchWithUnmatched at matched
  split at matched
  · cases matched
  · split at matched
    · cases matched
    · refine ⟨_, ?_, matched⟩
      exact List.filter_sublist.trans List.filter_sublist

end FireflyEnrichmentService

namespace FireflyTxService

def getTransaction (store : FireflyStore) (txId : Int) : Except PyError Transaction :=
  match store.get? txId with
  | some tx => .ok tx
  | none =>
      .error (.fireflyServiceError ("Failed to fetch transaction " ++ toString txId) (some 404))

def applyCategory (client : FireflyClient) (store : FireflyStore) (tx : Transaction)
    (categoryId : Int) : Except PyError FireflyStore :=
  FireflyBaseService.updateTransaction client store tx { categoryId := some categoryId }

def addTag (client : FireflyClient) (store : FireflyStore) (tx : Transaction) (tag : String) :
    Except PyError FireflyStore :=
  let tags := insert tag tx.tags
  FireflyBaseService.updateTransaction client store tx { tags := some tags }

theorem addTag_reliable {store next : FireflyStore} {tx : Transaction} {tag : String} :
    addTag .reliable store tx tag = .ok next ↔ store.knows tx.id = true ∧
      next = store.replace tx.id { tags := some (insert tag tx.tags) } :=
  FireflyBaseService.updateTransaction_ok.trans (FireflyStore.updateTransaction_uncategorized rfl)

theorem applyCategory_tags {store next : FireflyStore} {tx : Transaction} {categoryId : Int}
    (applied : applyCategory .reliable store tx categoryId = .ok next) (txId : Int) :
    next.tagsOf txId = store.tagsOf txId := by
  have updated := FireflyBaseService.updateTransaction_ok.mp applied
  obtain ⟨known, rfl⟩ := FireflyStore.updateTransaction_ok updated
  rw [FireflyStore.tagsOf_replace known]
  split_ifs with same
  · rw [same]
    rfl
  · rfl

end FireflyTxService

namespace Sample

def settings : Settings := Settings.defaults asciiLower

def january (day : Nat) (valid : ValidDate 2025 1 day := by decide) : Date := ⟨2025, 1, day, valid⟩

def tenth : Date := january 10

def eleventh : Date := january 11

def twelfth : Date := january 12

def cents (amount : Nat) : Decimal := .finite false amount (-2)

def purchase (id : Int) (date : Date) (amount : Decimal) : Transaction :=
  { date := date, amount := amount, id := id, type := .withdrawal, description := "Allegro"
    tags := ∅, notes := none, category := none, currency := ⟨"PLN", "zł", 2⟩ }

end Sample

end FireflyToolkit
