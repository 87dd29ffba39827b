import FireflyToolkit.Domain.Numerals
import FireflyToolkit.Shared.Grouping
import Mathlib.Algebra.BigOperators.Group.List.Basic

set_option autoImplicit false

namespace FireflyToolkit.Allegro

open OrderedDict PyText

-- An amount of a payload; pydantic takes no infinity and no NaN for a decimal.
structure Amount where
  negative : Bool
  coefficient : Nat
  exponent : Int
  deriving DecidableEq, Repr

namespace Amount

def toDecimal (amount : Amount) : Decimal := .finite amount.negative amount.coefficient amount.exponent

def value (amount : Amount) : ℚ :=
  Decimal.rational amount.negative amount.coefficient amount.exponent

def zero : Amount := ⟨false, 0, 0⟩

def ofInt (number : Int) : Amount := ⟨decide (number < 0), number.natAbs, 0⟩

-- `left + right` without rounding; two negative zeros make a negative zero.
def add (left right : Amount) : Amount :=
  let low := min left.exponent right.exponent
  let sum := Decimal.scaled left.negative left.coefficient left.exponent low +
    Decimal.scaled right.negative right.coefficient right.exponent low
  { negative := if sum = 0 then left.negative && right.negative else decide (sum < 0)
    coefficient := sum.natAbs
    exponent := low }

def mul (left right : Amount) : Amount :=
  { negative := xor left.negative right.negative
    coefficient := left.coefficient * right.coefficient
    exponent := left.exponent + right.exponent }

def total (amounts : List Amount) : Amount := amounts.foldl add zero

theorem value_zero : zero.value = 0 := by simp [value, zero, Decimal.rational]

theorem value_of_sign {negative : Bool} {number : Int} (sign : number ≠ 0 → negative = decide (number < 0))
    (exponent : Int) : value ⟨negative, number.natAbs, exponent⟩ = number * 10 ^ exponent := by
  by_cases none : number = 0
  · simp [value, Decimal.rational, none]
  · rw [value, sign none, Decimal.rational, Nat.cast_natAbs]
    by_cases below : number < 0
    · have size : |number| = -number := abs_of_neg below
      simp [below, size]
    · have size : |number| = number := abs_of_nonneg (not_lt.mp below)
      simp [below, size]

theorem value_ofInt (number : Int) : (ofInt number).value = number := by
  rw [ofInt, value_of_sign fun _ => rfl]
  simp

theorem value_add (left right : Amount) : (left.add right).value = left.value + right.value := by
  have scale : (10 : ℚ) ^ (-min left.exponent right.exponent) * 10 ^ min left.exponent right.exponent = 1 := by
    rw [← zpow_add₀ (by norm_num), neg_add_cancel, zpow_zero]
  rw [add, value_of_sign fun some => if_neg some]
  push_cast
  rw [Decimal.scaled_rational (min_le_left _ _), Decimal.scaled_rational (min_le_right _ _), add_mul,
    mul_assoc, mul_assoc, scale, mul_one, mul_one]
  rfl

theorem value_mul (left right : Amount) : (left.mul right).value = left.value * right.value := by
  obtain ⟨negative, coefficient, exponent⟩ := left
  obtain ⟨negative', coefficient', exponent'⟩ := right
  have scale : (10 : ℚ) ^ (exponent + exponent') = 10 ^ exponent * 10 ^ exponent' :=
    zpow_add₀ (by norm_num) _ _
  simp only [value, mul, Decimal.rational, scale, Nat.cast_mul]
  cases negative <;> cases negative' <;> simp <;> ring

theorem value_total (amounts : List Amount) : (total amounts).value = (amounts.map value).sum := by
  have from_start : ∀ start : Amount,
      (amounts.foldl add start).value = start.value + (amounts.map value).sum := by
    induction amounts with
    | nil => simp
    | cons amount rest ih =>
      intro start
      rw [List.foldl_cons, ih, value_add, List.map_cons, List.sum_cons]
      ring
  rw [total, from_start, value_zero, zero_add]

def isZero (amount : Amount) : Bool := amount.coefficient == 0

theorem isZero_iff {amount : Amount} : amount.isZero = true ↔ amount.value = 0 := by
  have scale : (10 : ℚ) ^ amount.exponent ≠ 0 := by positivity
  cases sign : amount.negative <;>
    simp [isZero, value, Decimal.rational, scale, sign]

end Amount

structure MoneyPayload where
  amount : Amount
  currency : String
  deriving DecidableEq

structure OfferPayload where
  offerId : String
  title : String
  unitPrice : MoneyPayload
  friendlyUrl : String
  quantity : Int
  imageUrl : String

structure DeliveryPayload where
  cost : Option MoneyPayload
  name : Option String
  deliveredBy : Option String
  methodId : Option String
  status : Option String

structure PaymentPayload where
  amount : MoneyPayload
  provider : String
  method : String
  paymentId : String

structure SellerPayload where
  login : String

structure OrderPayload where
  orderId : String
  purchaseId : Option String
  seller : SellerPayload
  offers : List OfferPayload
  delivery : Option DeliveryPayload
  totalCost : MoneyPayload
  payment : PaymentPayload

structure OrderGroupPayload where
  groupId : String
  orders : List OrderPayload

structure GetOrdersResponse where
  orderGroups : List OrderGroupPayload

structure Offer where
  offerId : String
  title : String
  unitPrice : Amount
  priceCurrency : String
  friendlyUrl : String
  quantity : Int
  imageUrl : String
  deriving DecidableEq

def Offer.fromPayload (payload : OfferPayload) : Offer where
  offerId := payload.offerId
  title := payload.title
  unitPrice := payload.unitPrice.amount
  priceCurrency := payload.unitPrice.currency
  friendlyUrl := payload.friendlyUrl
  quantity := payload.quantity
  imageUrl := payload.imageUrl

-- What Python's Unicode tables say of the words of a title.
structure TitleTables where
  isWord : Char → Bool
  capitalize : List Char → List Char
  lower : List Char → List Char

section Titles

variable (tables : TitleTables)

def formatWord (word : List Char) : List Char :=
  ['-'].intercalate ((word.splitOn '-').map fun part =>
    if 2 < part.length then tables.capitalize part else tables.lower part)

-- At most three words, and no more than fit in 32 characters with the blanks between them.
def shortenWords (result : List (List Char)) (totalLength : Nat) : List (List Char) → List (List Char)
  | [] => result
  | word :: rest =>
      let formatted := formatWord tables word
      let extra := formatted.length + if result = [] then 0 else 1
      if result.length < 3 ∧ totalLength + extra ≤ 32 then
        shortenWords (result ++ [formatted]) (totalLength + extra) rest
      else result

def Offer.getSimplifiedTitle (offer : Offer) : String :=
  let clean := offer.title.toList.filter fun character =>
    tables.isWord character || PyBuiltins.isSpace character || character == '-'
  String.ofList ([' '].intercalate (shortenWords tables [] 0 (words clean)))

def Offer.describe (offer : Offer) : String :=
  offer.getSimplifiedTitle tables ++ " x" ++ toString offer.quantity ++ " (" ++
    offer.unitPrice.toDecimal.toText ++ " " ++ offer.priceCurrency ++ ")"

end Titles

structure Delivery where
  cost : Option MoneyPayload
  name : Option String
  deliveredBy : Option String
  methodId : Option String
  status : Option String
  deriving DecidableEq

def Delivery.fromPayload (payload : DeliveryPayload) : Delivery where
  cost := payload.cost
  name := payload.name
  deliveredBy := payload.deliveredBy
  methodId := payload.methodId
  status := payload.status

def Delivery.costAmount (delivery : Delivery) : Amount :=
  match delivery.cost with
  | none => .zero
  | some cost => cost.amount

structure Order where
  orderId : String
  groupId : String
  purchaseId : Option String
  seller : String
  offers : List Offer
  delivery : Option Delivery
  totalCostAmount : Amount
  paymentAmount : Amount
  currencyCode : String
  paymentProvider : String
  paymentMethod : String
  paymentId : String
  deriving DecidableEq

namespace Order

def fromPayload (groupId : String) (payload : OrderPayload) : Order where
  orderId := payload.orderId
  groupId := groupId
  purchaseId := payload.purchaseId
  seller := payload.seller.login
  offers := payload.offers.map Offer.fromPayload
  delivery := payload.delivery.map Delivery.fromPayload
  totalCostAmount := payload.totalCost.amount
  paymentAmount := payload.payment.amount.amount
  currencyCode := payload.payment.amount.currency
  paymentProvider := payload.payment.provider
  paymentMethod := payload.payment.method
  paymentId := payload.payment.paymentId

def itemsTotal (order : Order) : Amount :=
  .total (order.offers.map fun offer => offer.unitPrice.mul (.ofInt offer.quantity))

def deliveryTotal (order : Order) : Amount :=
  match order.delivery with
  | none => .zero
  | some delivery => delivery.costAmount

def knownTotal (order : Order) : Amount := order.itemsTotal.add order.deliveryTotal

def listOffers (tables : TitleTables) (order : Order) : List String :=
  order.offers.map (Offer.describe tables)

end Order

structure Payment where
  paymentId : String
  orders : List Order

namespace Payment

def deliveryLine (delivery : Delivery) (cost : MoneyPayload) : String :=
  let deliveryName := (delivery.name.filter (· ≠ "")).getD "Delivery"
  "Delivery: " ++ deliveryName ++ " (" ++ cost.amount.toDecimal.toText ++ " " ++ cost.currency ++ ")"

def detailsFrom (tables : TitleTables) (details : List String) : List Order → List String
  | [] => details
  | order :: rest =>
      let details := details ++ order.listOffers tables
      match order.delivery with
      | none => detailsFrom tables details rest
      | some delivery =>
          if delivery.costAmount.isZero then detailsFrom tables details rest
          else
            match delivery.cost with
            | none => detailsFrom tables details rest
            | some cost => detailsFrom tables (details ++ [deliveryLine delivery cost]) rest

def listDetails (tables : TitleTables) (payment : Payment) : List String :=
  detailsFrom tables [] payment.orders

def itemsTotal (payment : Payment) : Amount := .total (payment.orders.map Order.itemsTotal)

def deliveryTotal (payment : Payment) : Amount := .total (payment.orders.map Order.deliveryTotal)

def knownTotal (payment : Payment) : Amount := payment.itemsTotal.add payment.deliveryTotal

def fromOrders (orders : List Order) : List Payment :=
  (Grouping.groupBy Order.paymentId orders).entries.map fun (paymentId, group) =>
    { paymentId, orders := group }

end Payment

structure GetOrdersResult where
  orders : List Order
  payments : List Payment

def GetOrdersResult.init (items : GetOrdersResponse) : GetOrdersResult :=
  let orders := items.orderGroups.flatMap fun group => group.orders.map (Order.fromPayload group.groupId)
  { orders, payments := Payment.fromOrders orders }

def Order.deliveryText (order : Order) : String :=
  match order.delivery with
  | none => ""
  | some delivery => (delivery.cost.map (Payment.deliveryLine delivery)).getD ""

def Order.detailLines (tables : TitleTables) (order : Order) : List String :=
  order.offers.map (Offer.describe tables) ++
    if order.deliveryTotal.value = 0 then [] else [order.deliveryText]

def OrderPayload.due (payload : OrderPayload) : ℚ :=
  (payload.offers.map fun offer => offer.unitPrice.amount.value * (offer.quantity : ℚ)).sum +
    (payload.delivery.bind DeliveryPayload.cost).elim 0 fun cost => cost.amount.value

structure Conserves (tables : TitleTables) (items : GetOrdersResponse) (result : GetOrdersResult) :
    Prop where
  flattened : result.orders =
    items.orderGroups.flatMap fun group => group.orders.map (Order.fromPayload group.groupId)
  due : result.orders.map (fun order => order.knownTotal.value) =
    items.orderGroups.flatMap fun group => group.orders.map OrderPayload.due
  ids : Grouping.FirstOccurrences (result.payments.map Payment.paymentId)
    (result.orders.map Order.paymentId)
  groups : ∀ payment ∈ result.payments,
    payment.orders = result.orders.filter fun order => order.paymentId = payment.paymentId
  unique : ∀ order ∈ result.orders, ∃! payment, payment ∈ result.payments ∧ order ∈ payment.orders
  divided : (result.payments.flatMap Payment.orders).Perm result.orders
  paymentTotal : ∀ payment ∈ result.payments,
    payment.knownTotal.value = (payment.orders.map fun order => order.knownTotal.value).sum
  allTotals : (result.payments.map fun payment => payment.knownTotal.value).sum =
    (result.orders.map fun order => order.knownTotal.value).sum
  details : ∀ payment ∈ result.payments,
    payment.listDetails tables = payment.orders.flatMap (Order.detailLines tables)
  detailCount : ∀ payment ∈ result.payments, (payment.listDetails tables).length =
    (payment.orders.map fun order => order.offers.length).sum +
      payment.orders.countP fun order => order.deliveryTotal.value ≠ 0

section Conservation

variable {tables : TitleTables}

theorem Order.knownTotal_value (order : Order) : order.knownTotal.value =
    (order.offers.map fun offer => offer.unitPrice.value * (offer.quantity : ℚ)).sum +
      order.deliveryTotal.value := by
  simp only [Order.knownTotal, Order.itemsTotal, Amount.value_add, Amount.value_total, List.map_map,
    Function.comp_def, Amount.value_mul, Amount.value_ofInt]

theorem Order.fromPayload_due (groupId : String) (payload : OrderPayload) :
    (Order.fromPayload groupId payload).knownTotal.value = payload.due := by
  have offers : (Order.fromPayload groupId payload).offers = payload.offers.map Offer.fromPayload := rfl
  have delivery : (Order.fromPayload groupId payload).deliveryTotal.value =
      (payload.delivery.bind DeliveryPayload.cost).elim 0 fun cost => cost.amount.value := by
    rw [Order.deliveryTotal, Order.fromPayload]
    cases payload.delivery with
    | none => exact Amount.value_zero
    | some delivery =>
      obtain ⟨cost, _, _, _, _⟩ := delivery
      cases cost with
      | none => exact Amount.value_zero
      | some money => rfl
  rw [Order.knownTotal_value, delivery, offers, List.map_map]
  rfl

-- Items first or orders first: the sums are the same.
theorem Payment.knownTotal_value (payment : Payment) : payment.knownTotal.value =
    (payment.orders.map fun order => order.knownTotal.value).sum := by
  simp only [Payment.knownTotal, Payment.itemsTotal, Payment.deliveryTotal, Order.knownTotal,
    Amount.value_add, Amount.value_total, List.map_map, List.sum_map_add]
  rfl

theorem detailsFrom_lines (details : List String) (orders : List Order) :
    Payment.detailsFrom tables details orders = details ++ orders.flatMap (Order.detailLines tables) := by
  induction orders generalizing details with
  | nil => simp [Payment.detailsFrom]
  | cons order rest ih =>
    have free : ∀ amount : Amount, amount.isZero = true → amount.value = 0 :=
      fun amount => Amount.isZero_iff.mp
    unfold Payment.detailsFrom
    dsimp only
    cases delivered : order.delivery with
    | none =>
      have cost : order.deliveryTotal.value = 0 := by
        rw [Order.deliveryTotal, delivered]
        exact Amount.value_zero
      simp [ih, Order.detailLines, Order.listOffers, cost]
    | some delivery =>
      have total : order.deliveryTotal = delivery.costAmount := by rw [Order.deliveryTotal, delivered]
      dsimp only
      split_ifs with zero
      · simp [ih, Order.detailLines, Order.listOffers, total, free _ zero]
      · have paid : order.deliveryTotal.value ≠ 0 := by
          rw [total]
          exact fun none => zero (Amount.isZero_iff.mpr none)
        cases cost : delivery.cost with
        | none =>
          rw [Delivery.costAmount, cost] at zero
          exact absurd (by decide) zero
        | some money =>
          have text : order.deliveryText = Payment.deliveryLine delivery money := by
            simp [Order.deliveryText, delivered, cost]
          simp [ih, Order.detailLines, Order.listOffers, paid, text]

theorem length_detailLines (orders : List Order) : (orders.flatMap (Order.detailLines tables)).length =
    (orders.map fun order => order.offers.length).sum +
      orders.countP fun order => order.deliveryTotal.value ≠ 0 := by
  induction orders with
  | nil => rfl
  | cons order rest ih =>
    rw [List.flatMap_cons, List.length_append, ih, List.map_cons, List.sum_cons, List.countP_cons,
      Order.detailLines]
    by_cases free : order.deliveryTotal.value = 0
    · simp [free]
      omega
    · simp [free]
      omega

theorem mem_fromOrders {orders : List Order} {payment : Payment}
    (member : payment ∈ Payment.fromOrders orders) :
    payment.orders = orders.filter fun order => order.paymentId = payment.paymentId := by
  obtain ⟨entry, stored, rfl⟩ := List.mem_map.mp member
  exact Grouping.entries_groupBy stored

theorem getOrdersResult_conserves (tables : TitleTables) (items : GetOrdersResponse) :
    Conserves tables items (GetOrdersResult.init items) := by
  have due : (GetOrdersResult.init items).orders.map (fun order => order.knownTotal.value) =
      items.orderGroups.flatMap fun group => group.orders.map OrderPayload.due := by
    rw [GetOrdersResult.init, List.map_flatMap]
    simp only [List.map_map, Function.comp_def, Order.fromPayload_due]
  generalize split : items.orderGroups.flatMap (fun group =>
    group.orders.map (Order.fromPayload group.groupId)) = orders
  have result : GetOrdersResult.init items = { orders, payments := Payment.fromOrders orders } := by
    rw [GetOrdersResult.init, split]
  have ids : (Payment.fromOrders orders).map Payment.paymentId =
      Grouping.keys (Grouping.groupBy Order.paymentId orders) := by
    rw [Payment.fromOrders, List.map_map]
    rfl
  have groups : (Payment.fromOrders orders).flatMap Payment.orders =
      (Grouping.groupBy Order.paymentId orders).entries.flatMap Prod.snd := by
    rw [Payment.fromOrders, List.flatMap_map]
  have occurrences : Grouping.FirstOccurrences ((Payment.fromOrders orders).map Payment.paymentId)
      (orders.map Order.paymentId) := ids ▸ Grouping.keys_groupBy orders
  have divided : ((Payment.fromOrders orders).flatMap Payment.orders).Perm orders :=
    groups ▸ Grouping.groupBy_perm orders
  rw [result] at due ⊢
  refine ⟨split.symm, due, occurrences, fun payment member => mem_fromOrders member, ?_, divided,
    fun payment _ => Payment.knownTotal_value payment, ?_, fun payment _ => ?_, fun payment _ => ?_⟩
  · intro order member
    obtain ⟨payment, paid, holds⟩ := List.mem_flatMap.mp (divided.mem_iff.mpr member)
    refine ⟨payment, ⟨paid, holds⟩, ?_⟩
    rintro other ⟨otherPaid, otherHolds⟩
    have own := mem_fromOrders paid
    have others := mem_fromOrders otherPaid
    have same : other.paymentId = payment.paymentId := by
      rw [own, List.mem_filter] at holds
      rw [others, List.mem_filter] at otherHolds
      rw [← of_decide_eq_true otherHolds.2, of_decide_eq_true holds.2]
    cases payment
    cases other
    simp_all
  · have each : (Payment.fromOrders orders).map (fun payment => payment.knownTotal.value) =
        (Payment.fromOrders orders).map fun payment =>
          (payment.orders.map fun order => order.knownTotal.value).sum :=
      List.map_congr_left fun payment _ => Payment.knownTotal_value payment
    have flat := (divided.map fun order => order.knownTotal.value).sum_eq
    rw [each, ← flat, List.map_flatMap, List.flatMap_def, List.sum_flatten, List.map_map]
    rfl
  · exact detailsFrom_lines [] payment.orders
  · rw [Payment.listDetails, detailsFrom_lines, List.nil_append]
    exact length_detailLines payment.orders

end Conservation

namespace Sample

def zloty (coefficient : Nat) : MoneyPayload := ⟨⟨false, coefficient, -2⟩, "PLN"⟩

def orderOf (orderId paymentId : String) (price : Nat) (delivery : Option DeliveryPayload) : OrderPayload where
  orderId := orderId
  purchaseId := none
  seller := ⟨"shop"⟩
  offers := [⟨"7", "Mug", zloty price, "", 2, ""⟩]
  delivery := delivery
  totalCost := zloty price
  payment := ⟨zloty price, "P24", "ONLINE", paymentId⟩

def basket : GetOrdersResponse where
  orderGroups :=
    [⟨"g1", [orderOf "a" "p1" 1000 (some ⟨some (zloty 899), none, none, none, none⟩),
        orderOf "b" "p2" 500 none]⟩,
      ⟨"g2", [orderOf "c" "p1" 250 none, orderOf "d" "p2" 125 none]⟩]

def plainTitles : TitleTables := ⟨Char.isAlphanum, id, id⟩

end Sample

theorem getOrdersResult_conserves_interleaved :
    Conserves Sample.plainTitles Sample.basket (GetOrdersResult.init Sample.basket) ∧
      (GetOrdersResult.init Sample.basket).orders.map Order.paymentId = ["p1", "p2", "p1", "p2"] ∧
      ((GetOrdersResult.init Sample.basket).payments.map fun payment =>
          (payment.paymentId, payment.orders.map Order.orderId)) =
        [("p1", ["a", "c"]), ("p2", ["b", "d"])] :=
  ⟨getOrdersResult_conserves Sample.plainTitles Sample.basket, by decide, by decide⟩

end FireflyToolkit.Allegro
