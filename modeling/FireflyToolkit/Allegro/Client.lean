import FireflyToolkit.Allegro.Orders
import FireflyToolkit.Allegro.StateStore
import FireflyToolkit.Shared.Json

set_option autoImplicit false

namespace FireflyToolkit.Allegro

open OrderedDict
open PyBuiltins (bind_eq_ok mapM_eq_ok)

structure HttpRequest where
  method : String
  url : String
  headers : List (String × String)
  deriving DecidableEq

inductive HttpAnswer
  | json (body : Json)
  | httpError (statusCode : Nat)
  | timeout
  | failed

abbrev Transport := HttpRequest → HttpAnswer

inductive ClientError
  | valueError (message : String)
  | allegroAuthError (message : String)
  | allegroApiError (message : String)
  | other
  deriving DecidableEq

structure Traced (α : Type) where
  sent : List HttpRequest
  outcome : Except ClientError α

namespace Traced

variable {α β : Type}

def lift (outcome : Except ClientError α) : Traced α := ⟨[], outcome⟩

def andThen (first : Traced α) (next : α → Traced β) : Traced β :=
  match first.outcome with
  | .error error => ⟨first.sent, .error error⟩
  | .ok value => ⟨first.sent ++ (next value).sent, (next value).outcome⟩

instance : Monad Traced where
  pure value := .lift (.ok value)
  bind := andThen

end Traced

-- `ApiWrapper.request`
def apiRequest (transport : Transport) (method url : String) (headers : List (String × String)) :
    Traced Json :=
  let sent : HttpRequest := ⟨method, url, headers⟩
  { sent := [sent]
    outcome :=
      match transport sent with
      | .json body => .ok body
      | .httpError status =>
          if status = 401 ∨ status = 403 then .error (.allegroAuthError "Allegro authentication failed")
          else .error (.allegroApiError ("Allegro API error " ++ toString status))
      | .timeout => .error (.allegroApiError "Allegro API timeout")
      | .failed => .error .other }

def allegroApiUrl : String := "https://api.allegro.pl"

structure AllegroApiClient where
  cookie : String
  transport : Transport

structure DatedOrderPayload extends OrderPayload where
  createDate : Option Date
  orderDate : Date
  paymentDate : Option Date

structure DatedGroupPayload where
  groupId : String
  orders : List DatedOrderPayload

structure DatedOrder where
  order : Order
  createDate : Option Date
  orderDate : Date
  paymentDate : Option Date
  deriving DecidableEq

def DatedOrder.fromPayload (groupId : String) (payload : DatedOrderPayload) : DatedOrder where
  order := .fromPayload groupId payload.toOrderPayload
  createDate := payload.createDate
  orderDate := payload.orderDate
  paymentDate := payload.paymentDate

-- `payment_date or create_date`, where the latter falls back to the day of the order.
def DatedOrder.date (order : DatedOrder) : Date :=
  order.paymentDate.getD (order.createDate.getD order.orderDate)

structure DatedPayment where
  paymentId : String
  orders : List DatedOrder

def DatedPayment.payment (payment : DatedPayment) : Payment where
  paymentId := payment.paymentId
  orders := payment.orders.map DatedOrder.order

def DatedPayment.fromOrders (orders : List DatedOrder) : List DatedPayment :=
  (Grouping.groupBy (fun dated => dated.order.paymentId) orders).entries.map
    fun (paymentId, group) => { paymentId, orders := group }

def ordersOf (groups : List DatedGroupPayload) : List DatedOrder :=
  groups.flatMap fun group => group.orders.map (DatedOrder.fromPayload group.groupId)

def jsonField (key : String) : Json → Except ClientError Json
  | .object members =>
      match members.lookup (key.toList.map Char.toNat) with
      | some value => .ok value
      | none => .error (.valueError "invalid allegro user info response structure")
  | _ => .error .other

def loginIn (items : Json) : Except ClientError Json := do
  let accounts ← jsonField "accounts" items
  let allegro ← jsonField "allegro" accounts
  jsonField "login" allegro

namespace AllegroApiClient

variable (client : AllegroApiClient)

def getStandardHeader (apiVer : Nat) : List (String × String) :=
  [("Cookie", "QXLSESSID=" ++ client.cookie),
    ("Accept", "application/vnd.allegro.public.v" ++ toString apiVer ++ "+json"),
    ("Referer", "https://allegro.pl/")]

def ordersUrl (limit offset : Int) : String :=
  allegroApiUrl ++ "/myorder-api/myorders?limit=" ++ toString limit ++ "&offset=" ++ toString offset

-- `modelValidate` is pydantic with the models of the payload; its errors are of no kind of their own.
def getOrders (modelValidate : Json → Option (List DatedGroupPayload)) (limit offset : Int) :
    Traced (List DatedGroupPayload) :=
  if limit ≤ 0 ∨ offset < 0 then
    .lift (.error (.valueError "Limit & Offset must be greater than 0"))
  else do
    let items ← apiRequest client.transport "GET" (ordersUrl limit offset) (client.getStandardHeader 3)
    .lift (match modelValidate items with
      | some groups => .ok groups
      | none => .error .other)

def usersUrl : String := allegroApiUrl ++ "/users"

def getUserInfo : Traced Json := do
  let items ← apiRequest client.transport "GET" usersUrl (client.getStandardHeader 2)
  .lift (match loginIn items with
    | .ok login => .ok login
    | .error (.valueError _) => .error (.allegroApiError "Failed to parse Allegro user info response")
    | .error error => .error error)

end AllegroApiClient

structure AllegroAccount where
  id : UUID
  secret : String
  login : Option Json

inductive FetchError
  | allegroServiceError (message details : String)
  | raised (error : ClientError)
  deriving DecidableEq

def wrapError : ClientError → FetchError
  | .allegroAuthError message => .allegroServiceError "allegro authentication failed" message
  | .allegroApiError message => .allegroServiceError "allegro api error" message
  | error => .raised error

def isFalsy : Json → Bool
  | .null | .bool false | .string [] | .array [] | .object [] => true
  | .int value => decide (value = 0)
  | .float value => decide (value = .finite 0)
  | _ => false

def tolerance : ℚ := 1 / 100

-- What the service takes from elsewhere: pydantic's reading of an order page, the tables of the
-- titles, what `str` shows of a login, and the digest of an id.
structure AllegroLibrary where
  modelValidate : Json → Option (List DatedGroupPayload)
  titles : TitleTables
  shown : Json → String
  shortId : String → String

section Service

variable (library : AllegroLibrary)

-- `AllegroOrderPayment.from_allegro_payment`; a payment without orders has no date.
def fromAllegroPayment (payment : DatedPayment) (allegroLogin : String) :
    Except ClientError AllegroOrderPayment :=
  match payment.orders with
  | [] => .error (.valueError "No orders in payment")
  | first :: _ => .ok {
      date := first.date
      amount := first.order.paymentAmount.toDecimal
      details := ("Buyer: " ++ allegroLogin) :: payment.payment.listDetails library.titles ++
        ["Payment metadata: " ++ first.order.paymentMethod ++ "/" ++ first.order.paymentProvider]
      tagDone := .allegro_done
      isBalanced := decide (|first.order.paymentAmount.value - payment.payment.knownTotal.value| ≤ tolerance)
      allegroLogin
      externalShortId := library.shortId payment.paymentId
      externalId := payment.paymentId }

def loginText (login : Json) : String := if isFalsy login then "unknown" else library.shown login

def fetchPayments (transport : Transport) (account : AllegroAccount) (limit offset : Int) :
    Traced (List AllegroOrderPayment) := do
  let client : AllegroApiClient := ⟨account.secret, transport⟩
  let login ←
    match account.login with
    | none => client.getUserInfo
    | some login => pure login
  let groups ← client.getOrders library.modelValidate limit offset
  .lift ((DatedPayment.fromOrders (ordersOf groups)).mapM fun payment =>
    fromAllegroPayment library payment (loginText library login))

def fetch (transport : Transport) (account : AllegroAccount) (limit offset : Int) :
    List HttpRequest × Except FetchError (List AllegroOrderPayment) :=
  let run := fetchPayments library transport account limit offset
  (run.sent, run.outcome.mapError wrapError)

end Service

section Sent

variable {α β : Type}

theorem sent_bind_lift (first : Traced α) (next : α → Except ClientError β) :
    (first >>= fun value => Traced.lift (next value)).sent = first.sent := by
  change (first.andThen _).sent = _
  unfold Traced.andThen
  split
  · rfl
  · exact List.append_nil _

theorem sent_bind_prefix {first : Traced α} {next : α → Traced β} {before after : List HttpRequest}
    (own : first.sent = before) (later : ∀ value, (next value).sent <+: after) :
    (first >>= next).sent <+: before ++ after := by
  change (first.andThen _).sent <+: _
  unfold Traced.andThen
  split
  · rw [own]
    exact List.prefix_append _ _
  · rw [own, List.prefix_append_right_inj]
    exact later _

end Sent

namespace AllegroApiClient

variable (client : AllegroApiClient)

def usersRequest : HttpRequest := ⟨"GET", usersUrl, client.getStandardHeader 2⟩

def ordersRequest (limit offset : Int) : HttpRequest :=
  ⟨"GET", ordersUrl limit offset, client.getStandardHeader 3⟩

theorem sent_getUserInfo : client.getUserInfo.sent = [client.usersRequest] := sent_bind_lift _ _

theorem sent_getOrders (modelValidate : Json → Option (List DatedGroupPayload)) (limit offset : Int) :
    (client.getOrders modelValidate limit offset).sent <+: [client.ordersRequest limit offset] := by
  unfold getOrders
  split_ifs with refused
  · exact List.nil_prefix
  · rw [sent_bind_lift]
    exact List.prefix_rfl

end AllegroApiClient

theorem sent_fetch (library : AllegroLibrary) (transport : Transport) (id : UUID) (secret : String)
    (limit offset : Int) :
    (fetch library transport ⟨id, secret, none⟩ limit offset).1 <+:
      [AllegroApiClient.usersRequest ⟨secret, transport⟩,
        AllegroApiClient.ordersRequest ⟨secret, transport⟩ limit offset] := by
  refine sent_bind_prefix (AllegroApiClient.sent_getUserInfo ⟨secret, transport⟩) fun login => ?_
  rw [sent_bind_lift]
  exact AllegroApiClient.sent_getOrders _ _ _ _

section Fetched

variable {library : AllegroLibrary} {transport : Transport} {account : AllegroAccount} {limit offset : Int}
  {payments : List AllegroOrderPayment}

end Fetched

end FireflyToolkit.Allegro
