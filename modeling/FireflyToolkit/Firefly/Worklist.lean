import FireflyToolkit.Allegro.Router
import FireflyToolkit.Firefly.Screening
import FireflyToolkit.Shared.Responders
import Mathlib.Data.Finset.Lattice.Lemmas

set_option autoImplicit false

namespace FireflyToolkit

open OrderedDict PyBuiltins
open Allegro (HTTPException User internalServerError requireActiveUser)

-- How the two calls to Firefly that a handler makes fare; `none` where Firefly answers.
structure Connection where
  first : Option FireflyAPIError
  second : Option FireflyAPIError
  deriving DecidableEq

def interrupted {α : Type} (failure : Option FireflyAPIError) (answer : Except FireflyAPIError α) :
    Except FireflyAPIError α :=
  match failure with
  | some error => .error error
  | none => answer

namespace Connection

def up : Connection := ⟨none, none⟩

def reader (connection : Connection) (store : FireflyStore) : FireflyReader :=
  ⟨fun startDate endDate => interrupted connection.second (.ok (store.fetchTransactions startDate endDate)),
    interrupted connection.first (.ok store.categories)⟩

def client (connection : Connection) : FireflyClient :=
  ⟨fun store txId payload => interrupted connection.second (store.updateTransaction txId payload)⟩

def getTransaction (connection : Connection) (store : FireflyStore) (txId : Int) :
    Except FireflyAPIError Transaction :=
  interrupted connection.first
    (match store.get? txId with
      | some tx => .ok tx
      | none => .error ⟨some 404⟩)

end Connection

namespace FireflyTxService

variable (connection : Connection) (store : FireflyStore)

def getTransactionFrom (txId : Int) : Except PyError Transaction :=
  match connection.getTransaction store txId with
  | .ok tx => .ok tx
  | .error failure =>
      .error (.fireflyServiceError ("Failed to fetch transaction " ++ toString txId) failure.statusCode)

def applyCategoryById (txId categoryId : Int) : Except PyError FireflyStore := do
  let tx ← getTransactionFrom connection store txId
  applyCategory connection.client store tx categoryId

def addTagById (txId : Int) (tag : String) : Except PyError FireflyStore := do
  let tx ← getTransactionFrom connection store txId
  addTag connection.client store tx tag

theorem getTransactionFrom_up (txId : Int) :
    getTransactionFrom .up store txId = getTransaction store txId := by
  unfold getTransactionFrom getTransaction Connection.getTransaction
  cases store.get? txId <;> rfl

end FireflyTxService

namespace TxApplicationService

variable (connection : Connection) (store : FireflyStore)

def raised {α : Type} : Except PyError α → Except PyError α
  | .error (.fireflyServiceError message _) => .error (.application .externalServiceFailed message)
  | answer => answer

def applyCategory (txId categoryId : Int) : Except PyError FireflyStore :=
  raised (FireflyTxService.applyCategoryById connection store txId categoryId)

def applyTag (txId : Int) (tag : TxTag) : Except PyError FireflyStore :=
  raised (FireflyTxService.addTagById connection store txId tag.value)

end TxApplicationService

structure MonthQuery where
  year : Nat
  month : Nat
  years : 2000 ≤ year ∧ year ≤ 2100
  months : 1 ≤ month ∧ month ≤ 12

inductive TxRequest
  | getScreeningMonth (query : MonthQuery)
  | applyCategory (txId categoryId : Int)
  | applyTag (txId : Int) (tag : TxTag)

inductive TxReply
  | screening (response : ScreeningMonthResponse)
  | noContent
  deriving DecidableEq

structure TxCall where
  users : Dict UUID User
  userId : UUID
  connection : Connection
  request : TxRequest

def txHttpError : PyError → HTTPException
  | .application .externalServiceFailed message => ⟨502, message⟩
  | _ => internalServerError

def noUncategorized : HTTPException := ⟨204, "No Content"⟩

section Handlers

variable (lower : String → String) (filters : TxFilters)

def respondMonth (reader : FireflyReader) (query : MonthQuery) : Except HTTPException TxReply :=
  match TxApplicationService.getScreeningMonth lower filters reader query.year query.month with
  | .error error => .error (txHttpError error)
  | .ok none => .error noUncategorized
  | .ok (some response) => .ok (.screening response)

def respondUpdate (store : FireflyStore) :
    Except PyError FireflyStore → Except HTTPException TxReply × FireflyStore
  | .error error => (.error (txHttpError error), store)
  | .ok next => (.ok .noContent, next)

def FireflyStore.handle (store : FireflyStore) (connection : Connection) :
    TxRequest → Except HTTPException TxReply × FireflyStore
  | .getScreeningMonth query => (respondMonth lower filters (connection.reader store) query, store)
  | .applyCategory txId categoryId =>
      respondUpdate store (TxApplicationService.applyCategory connection store txId categoryId)
  | .applyTag txId tag => respondUpdate store (TxApplicationService.applyTag connection store txId tag)

end Handlers

inductive Mark
  | categorized (txId categoryId : Int)
  | tagged (txId : Int) (tag : TxTag)
  deriving DecidableEq

namespace Mark

def categoryFor (txId : Int) : Mark → Option Int
  | .categorized marked categoryId => if marked = txId then some categoryId else none
  | .tagged _ _ => none

def tagFor (txId : Int) : Mark → Option String
  | .categorized _ _ => none
  | .tagged marked tag => if marked = txId then some tag.value else none

end Mark

def categoriesGiven (marks : List Mark) (txId : Int) : List Int :=
  marks.filterMap (Mark.categoryFor txId)

def tagsGiven (marks : List Mark) (txId : Int) : Finset String :=
  (marks.filterMap (Mark.tagFor txId)).toFinset

@[simp] theorem categoriesGiven_tagged (marks : List Mark) (marked : Int) (tag : TxTag) (txId : Int) :
    categoriesGiven (marks ++ [.tagged marked tag]) txId = categoriesGiven marks txId := by
  simp [categoriesGiven, Mark.categoryFor]

@[simp] theorem tagsGiven_categorized (marks : List Mark) (marked categoryId txId : Int) :
    tagsGiven (marks ++ [.categorized marked categoryId]) txId = tagsGiven marks txId := by
  rw [tagsGiven, List.filterMap_append, List.filterMap_cons_none rfl, List.filterMap_nil, List.append_nil]
  rfl

structure Worklist where
  records : List Transaction
  categories : List Category

def FireflyStore.worklist (store : FireflyStore) : Worklist := ⟨store.records, store.categories⟩

def dated (query : MonthQuery) (tx : Transaction) : Bool :=
  decide (tx.date.year = query.year ∧ tx.date.month = query.month)

def answerMonth (categories : List Category) (query : MonthQuery) (listed : List Transaction) :
    Except HTTPException TxReply :=
  if listed = [] then .error noUncategorized
  else
    match listed.mapM mapTxToApi with
    | .error error => .error (txHttpError error)
    | .ok transactions => .ok (.screening
        { year := query.year, month := query.month, remaining := listed.length
          transactions := transactions, categories := categories.map mapCategoryToApi })

namespace Worklist

variable (lower : String → String) (filters : TxFilters) (worklist : Worklist) (marks : List Mark)

def shown (marks : List Mark) (tx : Transaction) : Transaction := { tx with tags := tx.tags ∪ tagsGiven marks tx.id }

-- A transaction awaits a category until one is given. It is held back as long as it is a BLIK
-- payment, is tagged as one that needs action, or is an Allegro purchase whose orders are not found.
def awaits (tx : Transaction) : Bool :=
  tx.category.isNone && (categoriesGiven marks tx.id).isEmpty &&
    decide (lower tx.description ≠ lower filters.filterDescBlik) &&
    !(shown marks tx).hasTag .action_req &&
    (!decide (OccursIn filters.filterDescAllegro (lower tx.description)) ||
      (shown marks tx).hasTag .allegro_done)

def entries (query : MonthQuery) : List Transaction :=
  (worklist.records.filter fun tx => dated query tx && awaits lower filters marks tx).map (shown marks)

def knows (txId : Int) : Bool := worklist.records.any fun tx => tx.id = txId

def knowsCategory (categoryId : Int) : Bool := worklist.categories.any fun category => category.id = categoryId

def failedFetch (txId : Int) : HTTPException := ⟨502, "Failed to fetch transaction " ++ toString txId⟩

def failedUpdate (txId : Int) : HTTPException := ⟨502, "Failed to update transaction " ++ toString txId⟩

def mark (connection : Connection) (txId : Int) (applicable : Bool) (added : Mark) :
    Except HTTPException TxReply × List Mark :=
  if connection.first.isSome || !worklist.knows txId then (.error (failedFetch txId), marks)
  else if connection.second.isSome || !applicable then (.error (failedUpdate txId), marks)
  else (.ok .noContent, marks ++ [added])

def handle (connection : Connection) : TxRequest → Except HTTPException TxReply × List Mark
  | .getScreeningMonth query =>
      (if connection.first.isSome then .error ⟨502, "Failed to fetch categories from Firefly iii"⟩
        else if connection.second.isSome then .error ⟨502, "Failed to fetch transactions from Firefly iii"⟩
        else answerMonth worklist.categories query (worklist.entries lower filters marks query), marks)
  | .applyCategory txId categoryId =>
      worklist.mark marks connection txId (worklist.knowsCategory categoryId) (.categorized txId categoryId)
  | .applyTag txId tag => worklist.mark marks connection txId true (.tagged txId tag)

def api : Responder (List Mark) TxCall (Except HTTPException TxReply) where
  respond marks call :=
    match requireActiveUser call.users call.userId with
    | .error exception => (.error exception, marks)
    | .ok () => worklist.handle lower filters marks call.connection call.request

section Listing

variable {lower : String → String} {filters : TxFilters}

def screened (lower : String → String) (filters : TxFilters) (tx : Transaction) : Bool :=
  tx.category.isNone && decide (lower tx.description ≠ lower filters.filterDescBlik) &&
    !tx.hasTag .action_req &&
    (!decide (OccursIn filters.filterDescAllegro (lower tx.description)) || tx.hasTag .allegro_done)

end Listing

section Representation

variable {lower : String → String} {filters : TxFilters} {worklist : Worklist} {marks : List Mark}

def marked (worklist : Worklist) (marks : List Mark) (tx : Transaction) : Transaction :=
  { shown marks tx with
    category :=
      match (categoriesGiven marks tx.id).getLast? with
      | none => tx.category
      | some categoryId => worklist.categories.find? fun category => category.id = categoryId }

@[simp] theorem marked_id (tx : Transaction) : (worklist.marked marks tx).id = tx.id := rfl

@[simp] theorem marked_nil (tx : Transaction) : worklist.marked [] tx = tx := by
  have untagged : tagsGiven [] tx.id = ∅ := rfl
  simp [marked, shown, categoriesGiven, untagged, Finset.union_empty]

structure Represents (worklist : Worklist) (store : FireflyStore) (marks : List Mark) : Prop where
  records : store.records = worklist.records.map (worklist.marked marks)
  categories : store.categories = worklist.categories
  known : ∀ txId categoryId, Mark.categorized txId categoryId ∈ marks → worklist.knowsCategory categoryId

variable {store next : FireflyStore}

theorem represents_initial (store : FireflyStore) : Represents store.worklist store [] where
  records := (List.map_id' store.records).symm.trans (List.map_congr_left fun tx _ => (marked_nil tx).symm)
  categories := rfl
  known := by simp

end Representation

end Worklist

def TxRequest.mark? : TxRequest → Option Mark
  | .getScreeningMonth _ => none
  | .applyCategory txId categoryId => some (.categorized txId categoryId)
  | .applyTag txId tag => some (.tagged txId tag)

def markOf (request : TxRequest) : Except HTTPException TxReply → Option Mark
  | .ok .noContent => request.mark?
  | _ => none

def accepted (calls : List TxCall) (replies : List (Except HTTPException TxReply)) : List Mark :=
  (calls.zip replies).filterMap fun exchange => markOf exchange.1.request exchange.2

def settled (marks : List Mark) (txId : Int) : Bool :=
  !(categoriesGiven marks txId).isEmpty || decide (TxTag.action_req.value ∈ tagsGiven marks txId)

namespace Worklist

section Readings

variable {lower : String → String} {filters : TxFilters} {worklist : Worklist} {marks : List Mark}

end Readings

end Worklist

namespace Sample

end Sample

end FireflyToolkit
