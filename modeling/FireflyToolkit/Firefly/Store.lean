import FireflyToolkit.Domain.Matcher

set_option autoImplicit false

namespace FireflyToolkit

open PyBuiltins

-- The fields that are not `none` replace those of the record; a tag list replaces the whole list.
def TransactionUpdate.applyTo (payload : TransactionUpdate) (categories : List Category)
    (tx : Transaction) : Transaction :=
  { tx with
    description := payload.description.getD tx.description
    notes := payload.notes.or tx.notes
    tags := payload.tags.getD tx.tags
    category :=
      match payload.categoryId with
      | none => tx.category
      | some categoryId => categories.find? fun category => category.id = categoryId }

@[simp] theorem TransactionUpdate.applyTo_id (payload : TransactionUpdate)
    (categories : List Category) (tx : Transaction) : (payload.applyTo categories tx).id = tx.id := rfl

-- What Firefly holds: an id names at most one transaction.
structure FireflyStore where
  records : List Transaction
  categories : List Category
  distinct : (records.map Transaction.id).Nodup

namespace FireflyStore

def get? (store : FireflyStore) (txId : Int) : Option Transaction :=
  store.records.find? fun tx => tx.id = txId

def inRange (startDate endDate : Option Date) (tx : Transaction) : Bool :=
  startDate.all (fun start => start.le tx.date) && endDate.all (fun last => tx.date.le last)

def fetchTransactions (store : FireflyStore) (startDate endDate : Option Date) : List Transaction :=
  store.records.filter (inRange startDate endDate)

def replace (store : FireflyStore) (txId : Int) (payload : TransactionUpdate) : FireflyStore :=
  { store with
    records := store.records.map fun tx =>
      if tx.id = txId then payload.applyTo store.categories tx else tx
    distinct := by
      have same : (store.records.map fun tx =>
          if tx.id = txId then payload.applyTo store.categories tx else tx).map Transaction.id =
          store.records.map Transaction.id := by
        rw [List.map_map]
        apply List.map_congr_left
        intro tx _
        by_cases named : tx.id = txId <;> simp [named]
      rw [same]
      exact store.distinct }

-- An unknown transaction is refused with 404, an unknown category with 422.
def updateTransaction (store : FireflyStore) (txId : Int) (payload : TransactionUpdate) :
    Except FireflyAPIError FireflyStore :=
  if (store.get? txId).isNone then .error ⟨some 404⟩
  else if payload.categoryId.any fun categoryId =>
      (store.categories.find? fun category => category.id = categoryId).isNone then
    .error ⟨some 422⟩
  else .ok (store.replace txId payload)

theorem get?_replace (store : FireflyStore) (txId other : Int) (payload : TransactionUpdate) :
    (store.replace txId payload).get? other =
      if other = txId then (store.get? txId).map (payload.applyTo store.categories)
      else store.get? other := by
  obtain ⟨records, categories, distinct⟩ := store
  simp only [replace, get?]
  clear distinct
  induction records with
  | nil => by_cases same : other = txId <;> simp [same]
  | cons tx rest ih =>
    rw [List.map_cons, List.find?_cons, List.find?_cons, List.find?_cons, ih]
    by_cases named : tx.id = txId
    · by_cases same : other = txId
      · simp [named, same]
      · have differs : ¬ txId = other := fun equal => same equal.symm
        simp [named, same, differs]
    · by_cases same : other = txId
      · simp [named, same]
      · simp [named, same]

def tagsOf (store : FireflyStore) (txId : Int) : Finset String :=
  ((store.get? txId).map Transaction.tags).getD ∅

def notesOf (store : FireflyStore) (txId : Int) : String :=
  ((store.get? txId).bind Transaction.notes).getD ""

def knows (store : FireflyStore) (txId : Int) : Bool := (store.get? txId).isSome

@[simp] theorem knows_replace (store : FireflyStore) (txId other : Int)
    (payload : TransactionUpdate) : (store.replace txId payload).knows other = store.knows other := by
  unfold knows
  rw [get?_replace]
  split_ifs with same
  · rw [same, Option.isSome_map]
  · rfl

theorem updateTransaction_ok {store next : FireflyStore} {txId : Int} {payload : TransactionUpdate}
    (updated : store.updateTransaction txId payload = .ok next) :
    store.knows txId = true ∧ next = store.replace txId payload := by
  unfold updateTransaction at updated
  split_ifs at updated with missing unknown
  refine ⟨?_, (Except.ok.inj updated).symm⟩
  simpa [knows, Option.isSome_iff_ne_none] using missing

theorem updateTransaction_uncategorized {store next : FireflyStore} {txId : Int}
    {payload : TransactionUpdate} (uncategorized : payload.categoryId = none) :
    store.updateTransaction txId payload = .ok next ↔
      store.knows txId = true ∧ next = store.replace txId payload := by
  unfold updateTransaction knows
  cases known : store.get? txId with
  | none => simp
  | some tx => simp [uncategorized, eq_comm]

theorem notesOf_replace {store : FireflyStore} {txId : Int} (known : store.knows txId = true)
    (other : Int) (payload : TransactionUpdate) :
    (store.replace txId payload).notesOf other =
      if other = txId then payload.notes.getD (store.notesOf txId) else store.notesOf other := by
  obtain ⟨tx, found⟩ := Option.isSome_iff_exists.mp known
  unfold notesOf
  rw [get?_replace]
  split_ifs with same
  · cases written : payload.notes <;> simp [found, TransactionUpdate.applyTo, written]
  · rfl

theorem tagsOf_replace {store : FireflyStore} {txId : Int} (known : store.knows txId = true)
    (other : Int) (payload : TransactionUpdate) :
    (store.replace txId payload).tagsOf other =
      if other = txId then payload.tags.getD (store.tagsOf txId) else store.tagsOf other := by
  obtain ⟨tx, found⟩ := Option.isSome_iff_exists.mp known
  unfold tagsOf
  rw [get?_replace]
  split_ifs with same
  · simp [found, TransactionUpdate.applyTo]
  · rfl

theorem tagsOf_unknown {store : FireflyStore} {txId : Int} (unknown : store.knows txId = false) :
    store.tagsOf txId = ∅ := by
  have missing : store.get? txId = none := by simpa [knows] using unknown
  rw [tagsOf, missing]
  rfl

end FireflyStore

-- The remote update as the services see it: any answer is possible.
structure FireflyClient where
  updateTransaction : FireflyStore → Int → TransactionUpdate → Except FireflyAPIError FireflyStore

def FireflyClient.reliable : FireflyClient := ⟨FireflyStore.updateTransaction⟩

end FireflyToolkit
