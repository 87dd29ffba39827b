import FireflyToolkit.Domain.Decimals
import Mathlib.Data.Finset.Insert

set_option autoImplicit false

namespace FireflyToolkit

inductive TxTag
  | blik_done | allegro_done | rule_p | action_req
  deriving DecidableEq, Repr

def TxTag.value : TxTag → String
  | blik_done => "blik_done"
  | allegro_done => "allegro_done"
  | rule_p => "rule_potential"
  | action_req => "action_req"

inductive TxType
  | withdrawal | deposit | transfer
  deriving DecidableEq, Repr

inductive AccountType
  | asset | expense | revenue | liability | loan | debt | mortgage | initialBalance | reconciliation
  deriving DecidableEq, Repr

structure Category where
  id : Int
  name : String
  deriving DecidableEq, Repr

structure AccountRef where
  id : Int
  name : String
  type : AccountType
  iban : Option String
  deriving DecidableEq, Repr

structure Currency where
  code : String
  symbol : String
  decimals : Int
  deriving DecidableEq, Repr

structure FXContext where
  originalCurrency : Currency
  originalAmount : Decimal
  deriving DecidableEq, Repr

structure Transaction where
  date : Date
  amount : Decimal
  id : Int
  type : TxType
  description : String
  tags : Finset String
  notes : Option String
  category : Option Category
  currency : Currency
  fx : Option FXContext := none
  sourceAccount : Option AccountRef := none
  destinationAccount : Option AccountRef := none
  deriving DecidableEq

def Transaction.hasTag (tx : Transaction) (tag : TxTag) : Bool := decide (tag.value ∈ tx.tags)

-- The payload lists the tags of a set in no particular order, so it holds the set itself.
structure TransactionUpdate where
  description : Option String := none
  notes : Option String := none
  tags : Option (Finset String) := none
  categoryId : Option Int := none
  deriving DecidableEq

end FireflyToolkit
