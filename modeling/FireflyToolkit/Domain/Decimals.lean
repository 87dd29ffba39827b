import FireflyToolkit.Domain.Values
import Mathlib.Algebra.Order.Ring.Int

set_option autoImplicit false

namespace FireflyToolkit

-- A decimal keeps its exponent: `10.0` and `10.00` are equal numbers and different texts.
inductive Decimal
  | finite (negative : Bool) (coefficient : Nat) (exponent : Int)
  | infinity (negative : Bool)
  | nan (negative signaling : Bool) (payload : Nat)
  deriving DecidableEq, Repr

namespace Decimal

def digitCount (coefficient : Nat) : Nat := (Nat.toDigits 10 coefficient).length

-- The default context keeps 28 digits and rounds halves to even.
def prec : Nat := 28

def emax : Int := 999999

def etiny : Int := -1000026

def roundHalfEven (numerator denominator : Nat) : Nat :=
  let quotient := numerator / denominator
  let twice := 2 * (numerator % denominator)
  if twice < denominator ∨ (twice = denominator ∧ quotient % 2 = 0) then quotient else quotient + 1

def bounded (negative : Bool) (coefficient : Nat) (exponent : Int) : Except PyError Decimal :=
  if emax < exponent + digitCount coefficient - 1 then .error .decimalOverflow
  else .ok (finite negative coefficient exponent)

-- What an operation makes of its exact result; a carry leaves a digit too many, which is a zero.
def finalize (negative : Bool) (coefficient : Nat) (exponent : Int) : Except PyError Decimal :=
  if coefficient = 0 then .ok (finite negative 0 (max etiny (min exponent emax)))
  else
    let lowest := max etiny (exponent + digitCount coefficient - prec)
    if lowest ≤ exponent then bounded negative coefficient exponent
    else
      let rounded := roundHalfEven coefficient (10 ^ (lowest - exponent).toNat)
      if rounded = 10 ^ prec then bounded negative (10 ^ (prec - 1)) (lowest + 1)
      else bounded negative rounded lowest

def quieted (negative signaling : Bool) (payload : Nat) : Except PyError Decimal :=
  if signaling then .error .invalidOperation else .ok (nan negative false (payload % 10 ^ prec))

-- `abs(value)`
def abs : Decimal → Except PyError Decimal
  | finite _ coefficient exponent => finalize false coefficient exponent
  | infinity _ => .ok (infinity false)
  | nan negative signaling payload => quieted negative signaling payload

-- `value.quantize(...)`, given the exponent of its argument
def quantize (exponent : Int) : Decimal → Except PyError Decimal
  | finite negative coefficient own =>
      let rounded :=
        if exponent ≤ own then coefficient * 10 ^ (own - exponent).toNat
        else roundHalfEven coefficient (10 ^ (exponent - own).toNat)
      if rounded < 10 ^ prec ∧ etiny ≤ exponent ∧ exponent + digitCount rounded - 1 ≤ emax then
        .ok (finite negative rounded exponent)
      else .error .invalidOperation
  | infinity _ => .error .invalidOperation
  | nan negative signaling payload => quieted negative signaling payload

-- The exponent of `Decimal("1").scaleb(-places)`; what is too small becomes a zero.
def scalebExponent (places : Int) : Except PyError Int :=
  if 2000054 < places.natAbs then .error .invalidOperation
  else if places < -emax then .error .decimalOverflow
  else .ok (max etiny (-places))

def scaled (negative : Bool) (coefficient : Nat) (exponent low : Int) : Int :=
  let size : Int := coefficient * 10 ^ (exponent - low).toNat
  if negative then -size else size

-- Equality of the numbers, as `==` decides it; a NaN equals nothing.
def numEq : Decimal → Decimal → Bool
  | finite negative coefficient exponent, finite negative' coefficient' exponent' =>
      let low := min exponent exponent'
      decide (scaled negative coefficient exponent low = scaled negative' coefficient' exponent' low)
  | infinity negative, infinity negative' => negative == negative'
  | _, _ => false

theorem scaled_lower {negative : Bool} {coefficient : Nat} {exponent low lower : Int}
    (below : lower ≤ low) (bound : low ≤ exponent) :
    scaled negative coefficient exponent lower =
      scaled negative coefficient exponent low * 10 ^ (low - lower).toNat := by
  have split : (exponent - lower).toNat = (exponent - low).toNat + (low - lower).toNat := by omega
  cases negative <;> simp [scaled, split, pow_add, mul_assoc]

theorem scaled_eq_iff {negative negative' : Bool} {coefficient coefficient' : Nat}
    {exponent exponent' low lower : Int} (below : lower ≤ low) (bound : low ≤ exponent)
    (bound' : low ≤ exponent') :
    scaled negative coefficient exponent lower = scaled negative' coefficient' exponent' lower ↔
      scaled negative coefficient exponent low = scaled negative' coefficient' exponent' low := by
  rw [scaled_lower below bound, scaled_lower below bound']
  exact mul_left_inj' (pow_ne_zero _ (by decide))

theorem numEq_finite {negative negative' : Bool} {coefficient coefficient' : Nat}
    {exponent exponent' lower : Int} (bound : lower ≤ exponent) (bound' : lower ≤ exponent') :
    numEq (finite negative coefficient exponent) (finite negative' coefficient' exponent') = true ↔
      scaled negative coefficient exponent lower = scaled negative' coefficient' exponent' lower := by
  rw [scaled_eq_iff (le_min bound bound') (min_le_left _ _) (min_le_right _ _)]
  simp [numEq]

theorem numEq_symm {left right : Decimal} (equal : left.numEq right = true) :
    right.numEq left = true := by
  cases left <;> cases right <;> simp_all [numEq, min_comm]

theorem numEq_trans {first second third : Decimal} (left : first.numEq second = true)
    (right : second.numEq third = true) : first.numEq third = true := by
  cases first with
  | nan => cases left
  | infinity => cases second <;> cases third <;> simp_all [numEq]
  | finite negative coefficient exponent =>
    cases second with
    | nan => cases left
    | infinity => cases left
    | finite negative' coefficient' exponent' =>
      cases third with
      | nan => cases right
      | infinity => cases right
      | finite negative'' coefficient'' exponent'' =>
        let low := min exponent (min exponent' exponent'')
        have first : low ≤ exponent := min_le_left _ _
        have second : low ≤ exponent' := (min_le_right _ _).trans (min_le_left _ _)
        have third : low ≤ exponent'' := (min_le_right _ _).trans (min_le_right _ _)
        rw [numEq_finite first second] at left
        rw [numEq_finite second third] at right
        exact (numEq_finite first third).mpr (left.trans right)

def isNan : Decimal → Bool
  | nan .. => true
  | _ => false

def isSignaling : Decimal → Bool
  | nan _ signaling _ => signaling
  | _ => false

-- `value != 0`
def isNonzero : Decimal → Except PyError Bool
  | finite _ coefficient _ => .ok (coefficient != 0)
  | infinity _ => .ok true
  | nan _ signaling _ => if signaling then .error .invalidOperation else .ok true

theorem isNonzero_ok_iff {value : Decimal} :
    (∃ nonzero, value.isNonzero = .ok nonzero) ↔ value.isSignaling = false := by
  cases value with
  | finite => simp [isNonzero, isSignaling]
  | infinity => simp [isNonzero, isSignaling]
  | nan negative signaling payload => cases signaling <;> simp [isNonzero, isSignaling]

def IsCondition (failure : PyError) : Prop := failure = .invalidOperation ∨ failure = .decimalOverflow

theorem bounded_error {negative : Bool} {coefficient : Nat} {exponent : Int} {failure : PyError}
    (raised : bounded negative coefficient exponent = .error failure) : IsCondition failure := by
  unfold bounded at raised
  split_ifs at raised
  exact .inr (Except.error.inj raised).symm

theorem abs_error {value : Decimal} {failure : PyError} (raised : value.abs = .error failure) :
    IsCondition failure := by
  cases value with
  | infinity => cases raised
  | nan negative signaling payload =>
    cases signaling with
    | false => cases raised
    | true => exact .inl (Except.error.inj raised).symm
  | finite negative coefficient exponent =>
    unfold abs finalize at raised
    dsimp only at raised
    split_ifs at raised
    · exact bounded_error raised
    · exact bounded_error raised
    · exact bounded_error raised

theorem isNan_of_abs {value absolute : Decimal} (answers : value.abs = .ok absolute) :
    absolute.isNan = value.isNan := by
  cases value with
  | infinity => cases answers; rfl
  | nan negative signaling payload =>
    cases signaling with
    | false => cases answers; rfl
    | true => cases answers
  | finite negative coefficient exponent =>
    unfold abs finalize at answers
    simp only [bounded] at answers
    split_ifs at answers <;> cases answers <;> rfl

private def withPoint (digits : List Char) (place : Int) : List Char :=
  if place ≤ 0 then '0' :: '.' :: (List.replicate (-place).toNat '0' ++ digits)
  else if (digits.length : Int) ≤ place then
    digits ++ List.replicate (place - digits.length).toNat '0'
  else digits.take place.toNat ++ '.' :: digits.drop place.toNat

-- `str(value)`: plain notation while the exponent allows it, scientific otherwise.
def toText : Decimal → String
  | finite negative coefficient exponent =>
      let digits := (toString coefficient).toList
      let leftDigits : Int := exponent + digits.length
      let place := if exponent ≤ 0 ∧ -6 < leftDigits then leftDigits else 1
      let power := leftDigits - place
      let suffix :=
        if power = 0 then "" else if 0 < power then "E+" ++ toString power else "E" ++ toString power
      (if negative then "-" else "") ++ String.ofList (withPoint digits place) ++ suffix
  | infinity negative => if negative then "-Infinity" else "Infinity"
  | nan negative signaling payload =>
      (if negative then "-" else "") ++ (if signaling then "sNaN" else "NaN") ++
        (if payload = 0 then "" else toString payload)

theorem mem_withPoint {digits : List Char} {place : Int} {character : Char}
    (member : character ∈ withPoint digits place) :
    character = '0' ∨ character = '.' ∨ character ∈ digits := by
  unfold withPoint at member
  split_ifs at member
  · simp only [List.mem_cons, List.mem_append, List.mem_replicate] at member
    tauto
  · simp only [List.mem_append, List.mem_replicate] at member
    tauto
  · simp only [List.mem_append, List.mem_cons] at member
    rcases member with before | point | after
    · exact .inr (.inr (List.mem_of_mem_take before))
    · exact .inr (.inl point)
    · exact .inr (.inr (List.mem_of_mem_drop after))

theorem digit_of_mem_toString {value : Nat} {character : Char}
    (member : character ∈ (toString value).toList) : character.isDigit = true := by
  rw [Nat.toString_eq_repr, Nat.toList_repr] at member
  exact Nat.isDigit_of_mem_toDigits (by decide) (by decide) member

theorem toString_negSucc (size : Nat) :
    (toString (Int.negSucc size)).toList = '-' :: (toString (size + 1)).toList := by
  simp [toString, Int.repr]

theorem bar_notMem_toString (number : Int) : '|' ∉ (toString number).toList := by
  intro member
  cases number with
  | ofNat size =>
    have digits : '|' ∈ (toString size).toList := member
    exact absurd (digit_of_mem_toString digits) (by decide)
  | negSucc size =>
    rw [toString_negSucc] at member
    rcases List.mem_cons.mp member with dash | digit
    · exact absurd dash (by decide)
    · exact absurd (digit_of_mem_toString digit) (by decide)

theorem bar_notMem_toText (value : Decimal) : '|' ∉ value.toText.toList := by
  cases value with
  | infinity negative => cases negative <;> decide
  | nan negative signaling payload =>
    have sign : '|' ∉ (if negative then "-" else "").toList := by cases negative <;> decide
    have word : '|' ∉ (if signaling then "sNaN" else "NaN").toList := by cases signaling <;> decide
    have digits : '|' ∉ (if payload = 0 then "" else toString payload).toList := by
      split_ifs
      · decide
      · exact fun member => absurd (digit_of_mem_toString member) (by decide)
    simp only [toText, String.toList_append, List.mem_append, not_or]
    exact ⟨⟨sign, word⟩, digits⟩
  | finite negative coefficient exponent =>
    have sign : '|' ∉ (if negative then "-" else "").toList := by cases negative <;> decide
    have plain : ∀ place, '|' ∉ withPoint (toString coefficient).toList place := by
      intro place member
      rcases mem_withPoint member with zero | point | digit
      · exact absurd zero (by decide)
      · exact absurd point (by decide)
      · exact absurd (digit_of_mem_toString digit) (by decide)
    have suffixes : ∀ power : Int, '|' ∉ (if power = 0 then "" else if 0 < power then
        "E+" ++ toString power else "E" ++ toString power).toList := by
      intro power
      split_ifs
      · decide
      · simpa [String.toList_append] using bar_notMem_toString power
      · simpa [String.toList_append] using bar_notMem_toString power
    simp only [toText, String.toList_append, String.toList_ofList, List.mem_append, not_or]
    exact ⟨⟨sign, plain _⟩, suffixes _⟩

example : (finite false 1000 (-2)).toText = "10.00" := by decide
example : (finite true 5 (-3)).toText = "-0.005" := by decide
example : (finite false 12 3).toText = "1.2E+4" := by decide
example : (finite true 12345678901234567890123456785 0).abs =
    .ok (finite false 1234567890123456789012345678 1) := by decide
example : (finite false 1 1000000).abs = .error .decimalOverflow := by decide

end Decimal

end FireflyToolkit
