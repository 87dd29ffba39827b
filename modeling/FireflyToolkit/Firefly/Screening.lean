import FireflyToolkit.Firefly.Responses
import FireflyToolkit.Firefly.Window

set_option autoImplicit false

namespace FireflyToolkit

open PyBuiltins

-- The filter texts that the service is built with.
structure TxFilters where
  filterDescBlik : String
  filterDescAllegro : String

namespace FireflyTxService

variable (lower : String → String) (filters : TxFilters) (reader : FireflyReader)

def getTxsForScreening (startDate endDate : Option Date) : Except PyError (List Transaction) := do
  let domainTxs ← FireflyBaseService.fetchFrom reader startDate endDate true
  let filtered := filterByDescription lower domainTxs filters.filterDescBlik true true
  let filtered := filtered.filter fun tx => !tx.hasTag .action_req
  .ok (filtered.filter fun tx =>
    !(decide (OccursIn filters.filterDescAllegro (lower tx.description)) &&
      !tx.hasTag .allegro_done))

def getCategories : Except PyError (List Category) :=
  match reader.fetchCategories with
  | .ok categories => .ok categories
  | .error failure =>
      .error (.fireflyServiceError "Failed to fetch categories from Firefly iii" failure.statusCode)

end FireflyTxService

structure ScreeningMonthResponse where
  year : Nat
  month : Nat
  remaining : Nat
  transactions : List SimplifiedTx
  categories : List SimplifiedCategory
  deriving DecidableEq

namespace TxApplicationService

def monthRange (year month : Nat) : Except PyError (Date × Date) :=
  match Date.ofFields? year month 1, Date.ofFields? year month (daysInMonth year month) with
  | some firstDay, some lastDay => .ok (firstDay, lastDay)
  | _, _ =>
      if 1 ≤ year ∧ year ≤ 9999 then .error (.valueError "month must be in 1..12")
      else .error (.valueError ("year " ++ toString year ++ " is out of range"))

def screen (lower : String → String) (filters : TxFilters) (reader : FireflyReader)
    (startDate endDate : Date) : Except PyError (List Category × List Transaction) := do
  let categories ← FireflyTxService.getCategories reader
  let txs ←
    FireflyTxService.getTxsForScreening lower filters reader (some startDate) (some endDate)
  .ok (categories, txs)

def getScreeningMonth (lower : String → String) (filters : TxFilters) (reader : FireflyReader)
    (year month : Nat) : Except PyError (Option ScreeningMonthResponse) := do
  let (startDate, endDate) ← monthRange year month
  match screen lower filters reader startDate endDate with
  | .error (.fireflyServiceError message _) =>
      .error (.application .externalServiceFailed message)
  | .error other => .error other
  | .ok (categories, txs) =>
      if txs = [] then .ok none
      else do
        let transactions ← txs.mapM mapTxToApi
        .ok (some
          { year := year
            month := month
            remaining := txs.length
            transactions := transactions
            categories := categories.map mapCategoryToApi })

end TxApplicationService

namespace TxApplicationService

variable {year month : Nat} {firstDay lastDay : Date}

theorem monthRange_ok (range : monthRange year month = .ok (firstDay, lastDay)) :
    (firstDay.year = year ∧ firstDay.month = month ∧ firstDay.day = 1) ∧
      lastDay.year = year ∧ lastDay.month = month ∧ lastDay.day = daysInMonth year month := by
  unfold monthRange at range
  cases first : Date.ofFields? year month 1 with
  | none =>
    simp only [first] at range
    split_ifs at range
  | some day =>
    cases last : Date.ofFields? year month (daysInMonth year month) with
    | none =>
      simp only [first, last] at range
      split_ifs at range
    | some final =>
      simp only [first, last, Except.ok.injEq, Prod.mk.injEq] at range
      obtain ⟨rfl, rfl⟩ := range
      exact ⟨Date.ofFields?_eq_some.mp first, Date.ofFields?_eq_some.mp last⟩

theorem monthRange_valid (calendar : ValidDate year month 1) :
    ∃ firstDay lastDay, monthRange year month = .ok (firstDay, lastDay) := by
  obtain ⟨years, yearsUp, months, monthsUp, -, starts⟩ := calendar
  have ends : ValidDate year month (daysInMonth year month) :=
    ⟨years, yearsUp, months, monthsUp, starts, Nat.le_refl _⟩
  have begins : ValidDate year month 1 := ⟨years, yearsUp, months, monthsUp, Nat.le_refl 1, starts⟩
  exact ⟨⟨year, month, 1, begins⟩, ⟨year, month, _, ends⟩,
    by simp [monthRange, Date.ofFields?, begins, ends]⟩

theorem inRange_month (range : monthRange year month = .ok (firstDay, lastDay)) (tx : Transaction) :
    FireflyStore.inRange (some firstDay) (some lastDay) tx = true ↔
      tx.date.year = year ∧ tx.date.month = month := by
  obtain ⟨⟨firstYear, firstMonth, first⟩, lastYear, lastMonth, last⟩ := monthRange_ok range
  have starts := tx.date.valid.2.2.2.2.1
  have ends := tx.date.valid.2.2.2.2.2
  simp only [FireflyStore.inRange, Option.all_some, Bool.and_eq_true, Date.le, decide_eq_true_eq]
  constructor
  · intro inside
    omega
  · rintro ⟨rfl, rfl⟩
    omega

end TxApplicationService

end FireflyToolkit
