import FireflyToolkit.Domain.Transaction
import FireflyToolkit.Shared.PyBuiltins
import Mathlib.Data.Finset.Sort
import Mathlib.Data.String.Basic

set_option autoImplicit false

namespace FireflyToolkit

-- `float(value)`; the decimal that it converts is kept.
def toFloat (value : Decimal) : Except PyError Decimal :=
  if value.isSignaling then .error (.valueError "cannot convert signaling NaN to float") else .ok value

theorem toFloat_ok_iff {value converted : Decimal} :
    toFloat value = .ok converted ↔ value.isSignaling = false ∧ converted = value := by
  unfold toFloat
  cases value.isSignaling <;> simp [eq_comm]

-- Quantizing leaves no signaling NaN for `float`.
def toApiAmount (amount : Decimal) (decimals : Int) : Except PyError Decimal := do
  let exponent ← Decimal.scalebExponent decimals
  amount.quantize exponent

example : toApiAmount (.finite true 12345 (-3)) 2 = .ok (.finite true 1234 (-2)) := by decide
example : toApiAmount (.finite false 1 26) 2 = .error .invalidOperation := by decide

structure SimplifiedTx where
  date : Date
  amount : Decimal
  id : Int
  description : String
  tags : List String
  notes : String
  category : Option String
  currencyCode : String
  currencySymbol : String
  type : TxType
  fxAmount : Option Decimal
  fxCurrency : Option String
  sourceAccount : Option AccountRef
  destinationAccount : Option AccountRef
  deriving DecidableEq

-- `sorted(tags)`
def sortedTags (tags : Finset String) : List String := tags.sort (· ≤ ·)

def fxToApi : Option FXContext → Except PyError (Option Decimal × Option String)
  | none => .ok (none, none)
  | some fx => do
      let amount ← toApiAmount fx.originalAmount fx.originalCurrency.decimals
      .ok (some amount, some fx.originalCurrency.code)

def mapTxToApi (tx : Transaction) : Except PyError SimplifiedTx := do
  let amount ← toApiAmount tx.amount tx.currency.decimals
  let (fxAmount, fxCurrency) ← fxToApi tx.fx
  .ok
    { date := tx.date
      amount := amount
      id := tx.id
      description := tx.description
      tags := sortedTags tx.tags
      notes := tx.notes.getD ""
      category := tx.category.map Category.name
      currencyCode := tx.currency.code
      currencySymbol := tx.currency.symbol
      type := tx.type
      fxAmount := fxAmount
      fxCurrency := fxCurrency
      sourceAccount := tx.sourceAccount
      destinationAccount := tx.destinationAccount }

def Transaction.Renders (tx : Transaction) : Prop :=
  (∃ amount, toApiAmount tx.amount tx.currency.decimals = .ok amount) ∧
    ∀ fx, tx.fx = some fx →
      ∃ amount, toApiAmount fx.originalAmount fx.originalCurrency.decimals = .ok amount

theorem mapTxToApi_ok_iff {tx : Transaction} :
    (∃ answer, mapTxToApi tx = .ok answer) ↔ tx.Renders := by
  unfold mapTxToApi Transaction.Renders
  cases amounts : toApiAmount tx.amount tx.currency.decimals with
  | error failure => simp [bind, Except.bind]
  | ok amount =>
    cases context : tx.fx with
    | none => simp [fxToApi, bind, Except.bind]
    | some fx =>
      cases converted : toApiAmount fx.originalAmount fx.originalCurrency.decimals <;>
        simp [fxToApi, converted, bind, Except.bind]

structure SimplifiedCategory where
  id : Int
  name : String
  deriving DecidableEq

def mapCategoryToApi (category : Category) : SimplifiedCategory := ⟨category.id, category.name⟩

end FireflyToolkit
