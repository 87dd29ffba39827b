import FireflyToolkit.Citi.Parser

set_option autoImplicit false

namespace FireflyToolkit.Citi

open PyText
open PyBuiltins (map_eq_ok)

section Run

variable (tables : UnicodeTables)

def transactionsOf (includePositive : Bool) (lines : List (List Char)) :
    Except PyError (List ParsedCitiTransaction) :=
  (parseLines tables includePositive 0 lines).map CitiParseResult.transactions

variable {tables} {includePositive : Bool} {dateLine payee description amountLine : List Char}
  {date : Date} {later : List (List Char)}

theorem map_warned (warning : String) (outcome : Except PyError CitiParseResult) :
    (outcome.map (.warned warning)).map CitiParseResult.transactions =
      outcome.map CitiParseResult.transactions := by
  cases outcome <;> rfl

theorem map_recorded (transaction : ParsedCitiTransaction) (outcome : Except PyError CitiParseResult) :
    (outcome.map (.recorded transaction)).map CitiParseResult.transactions =
      (outcome.map CitiParseResult.transactions).map (transaction :: ·) := by
  cases outcome <;> rfl

theorem parseLines_transactions (index : Nat) (lines : List (List Char)) :
    (parseLines tables includePositive index lines).map CitiParseResult.transactions =
      transactionsOf tables includePositive lines := by
  have anywhere : ∀ index', (parseLines tables includePositive index lines).map
      CitiParseResult.transactions = (parseLines tables includePositive index' lines).map
        CitiParseResult.transactions := by
    induction index, lines using parseLines.induct tables includePositive with
    | case1 => exact fun _ => rfl
    | case2 index dateLine rest failure raised => simp [parseLines, raised]
    | case3 index dateLine rest passed ih =>
      intro index'
      simp only [parseLines, passed]
      exact ih (index' + 1)
    | case4 index dateLine date dated payee description amountLine later invalid ih =>
      intro index'
      simp only [parseLines, dated, invalid, map_warned]
      exact ih (index' + 4)
    | case5 index dateLine date dated payee description amountLine later amount read skipped ih =>
      intro index'
      simp only [parseLines, dated, read, skipped, if_true]
      exact ih (index' + 4)
    | case6 index dateLine date dated payee description amountLine later amount read taken ih =>
      intro index'
      simp only [parseLines, dated, read, taken, Bool.false_eq_true, if_false, map_recorded, ih (index' + 4)]
    | case7 index dateLine rest date dated short =>
      intro index'
      simp only [parseLines, dated]
      rfl
  exact anywhere 0

theorem transactionsOf_pass (passed : parsePolishDate tables dateLine = .ok none) :
    transactionsOf tables includePositive (dateLine :: later) =
      transactionsOf tables includePositive later := by
  rw [transactionsOf, parseLines, passed]
  exact parseLines_transactions 1 later

theorem transactionsOf_raise {failure : PyError} (raised : parsePolishDate tables dateLine = .error failure) :
    transactionsOf tables includePositive (dateLine :: later) = .error failure := by
  rw [transactionsOf, parseLines, raised]
  rfl

theorem transactionsOf_incomplete (dated : parsePolishDate tables dateLine = .ok (some date))
    (short : later.length < 3) : transactionsOf tables includePositive (dateLine :: later) = .ok [] := by
  rw [transactionsOf, parseLines, dated]
  cases later with
  | nil => rfl
  | cons payee rest =>
    cases rest with
    | nil => rfl
    | cons description rest =>
      cases rest with
      | nil => rfl
      | cons => exact absurd short (by simp)

theorem transactionsOf_invalid (dated : parsePolishDate tables dateLine = .ok (some date))
    (invalid : parseAmount tables amountLine = none) :
    transactionsOf tables includePositive (dateLine :: payee :: description :: amountLine :: later) =
      transactionsOf tables includePositive later := by
  simp only [transactionsOf, parseLines, dated, invalid, map_warned]
  exact parseLines_transactions 4 later

theorem transactionsOf_skipped {amount : ParsedAmount}
    (dated : parsePolishDate tables dateLine = .ok (some date))
    (read : parseAmount tables amountLine = some amount)
    (skipped : (!includePositive && amount.value.isPositive) = true) :
    transactionsOf tables includePositive (dateLine :: payee :: description :: amountLine :: later) =
      transactionsOf tables includePositive later := by
  simp only [transactionsOf, parseLines, dated, read, skipped, if_true]
  exact parseLines_transactions 4 later

def frameTransaction (date : Date) (payee amountLine : List Char) (amount : ParsedAmount) :
    ParsedCitiTransaction where
  date := date
  payee := String.ofList payee
  amountText := String.ofList amountLine
  amountCurrency := amount.currency
  amountValue := amount.normalizedValue

theorem transactionsOf_taken {amount : ParsedAmount}
    (dated : parsePolishDate tables dateLine = .ok (some date))
    (read : parseAmount tables amountLine = some amount)
    (taken : (!includePositive && amount.value.isPositive) = false) :
    transactionsOf tables includePositive (dateLine :: payee :: description :: amountLine :: later) =
      (transactionsOf tables includePositive later).map
        (frameTransaction date payee amountLine amount :: ·) := by
  simp only [transactionsOf, parseLines, dated, read, taken, Bool.false_eq_true, if_false, map_recorded]
  exact congrArg _ (parseLines_transactions 4 later)

theorem transactionsOf_length {lines : List (List Char)} {transactions : List ParsedCitiTransaction}
    (read : transactionsOf tables includePositive lines = .ok transactions) :
    4 * transactions.length ≤ lines.length := by
  induction (0 : Nat), lines using parseLines.induct tables includePositive generalizing transactions with
  | case1 =>
    obtain rfl : [] = transactions := by simpa [transactionsOf, parseLines, Except.map] using read
    simp
  | case2 index dateLine rest failure raised =>
    rw [transactionsOf_raise raised] at read
    simp at read
  | case3 index dateLine rest passed ih =>
    rw [transactionsOf_pass passed] at read
    exact (ih read).trans (Nat.le_succ _)
  | case4 index dateLine date dated payee description amountLine later invalid ih =>
    rw [transactionsOf_invalid dated invalid] at read
    exact (ih read).trans (Nat.le_add_right _ 4)
  | case5 index dateLine date dated payee description amountLine later amount parsed skipped ih =>
    rw [transactionsOf_skipped dated parsed skipped] at read
    exact (ih read).trans (Nat.le_add_right _ 4)
  | case6 index dateLine date dated payee description amountLine later amount parsed taken ih =>
    rw [transactionsOf_taken dated parsed (Bool.eq_false_of_not_eq_true taken)] at read
    obtain ⟨rest, laterRead, rfl⟩ := map_eq_ok.mp read
    have bound := ih laterRead
    simp only [List.length_cons]
    omega
  | case7 index dateLine rest date dated short =>
    obtain rfl : [] = transactions := by simpa [transactionsOf, parseLines, dated, Except.map] using read
    simp

inductive Stop
  | passed (line : List Char)
  | frame (date : Date) (payee amountLine : List Char)
  | cut (date : Date)

variable (tables)

-- Only the dates say where the run stops; a line that raises is counted as passed over.
def stops : List (List Char) → List Stop
  | [] => []
  | dateLine :: rest =>
      match parsePolishDate tables dateLine with
      | .ok (some date) =>
          match rest with
          | payee :: _ :: amountLine :: later => .frame date payee amountLine :: stops later
          | _ => [.cut date]
      | _ => .passed dateLine :: stops rest

def Quiet (lines : List (List Char)) : Prop :=
  ∀ line, .passed line ∈ stops tables lines → ¬ Overflows tables line

def transactionAt (includePositive : Bool) : Stop → Option ParsedCitiTransaction
  | .frame date payee amountLine =>
      (parseAmount tables amountLine).bind fun amount =>
        if !includePositive && amount.value.isPositive then none
        else some (frameTransaction date payee amountLine amount)
  | _ => none

variable {tables}

theorem transactionsOf_frameAt (dated : parsePolishDate tables dateLine = .ok (some date)) :
    transactionsOf tables includePositive (dateLine :: payee :: description :: amountLine :: later) =
      (transactionsOf tables includePositive later).map
        ((transactionAt tables includePositive (.frame date payee amountLine)).toList ++ ·) := by
  cases parsed : parseAmount tables amountLine with
  | none =>
    rw [transactionsOf_invalid dated parsed, transactionAt, parsed]
    cases transactionsOf tables includePositive later <;> rfl
  | some amount =>
    cases skipped : !includePositive && amount.value.isPositive with
    | true =>
      rw [transactionsOf_skipped dated parsed skipped, transactionAt, parsed, Option.bind_some, if_pos skipped]
      cases transactionsOf tables includePositive later <;> rfl
    | false =>
      rw [transactionsOf_taken dated parsed skipped, transactionAt, parsed, Option.bind_some,
        if_neg (by simp [skipped])]
      rfl

theorem transactionsOf_stops (lines : List (List Char)) :
    (¬ Quiet tables lines ∧ ∃ failure, transactionsOf tables includePositive lines = .error failure) ∨
      (Quiet tables lines ∧ transactionsOf tables includePositive lines =
        .ok ((stops tables lines).filterMap (transactionAt tables includePositive))) := by
  induction lines using stops.induct tables with
  | case1 => exact .inr ⟨by simp [Quiet, stops], rfl⟩
  | case2 dateLine date dated payee description amountLine later ih =>
    have split : stops tables (dateLine :: payee :: description :: amountLine :: later) =
        .frame date payee amountLine :: stops tables later := by simp only [stops, dated]
    have same : Quiet tables (dateLine :: payee :: description :: amountLine :: later) ↔
        Quiet tables later := by simp [Quiet, split]
    rw [same, split, transactionsOf_frameAt dated, List.filterMap_cons]
    rcases ih with ⟨loud, failure, raised⟩ | ⟨quiet, returned⟩
    · exact .inl ⟨loud, failure, by rw [raised]; rfl⟩
    · refine .inr ⟨quiet, ?_⟩
      rw [returned]
      cases transactionAt tables includePositive (.frame date payee amountLine) <;> rfl
  | case3 dateLine rest date dated long =>
    have short : rest.length < 3 := by
      by_contra enough
      obtain ⟨payee, others, rfl⟩ := List.exists_cons_of_length_pos (show 0 < rest.length by omega)
      obtain ⟨description, more, rfl⟩ := List.exists_cons_of_length_pos
        (show 0 < others.length by simp only [List.length_cons] at enough; omega)
      obtain ⟨amountLine, later, rfl⟩ := List.exists_cons_of_length_pos
        (show 0 < more.length by simp only [List.length_cons] at enough; omega)
      exact long payee description amountLine later rfl
    have split : stops tables (dateLine :: rest) = [.cut date] := by
      simp only [stops, dated]
    refine .inr ⟨by simp [Quiet, split], ?_⟩
    rw [transactionsOf_incomplete dated short, split]
    rfl
  | case4 dateLine rest undated ih =>
    have split : stops tables (dateLine :: rest) = .passed dateLine :: stops tables rest := by
      simp only [stops]
    cases read : parsePolishDate tables dateLine with
    | error failure =>
      refine .inl ⟨fun quiet => ?_, failure, transactionsOf_raise read⟩
      exact quiet dateLine (by simp [split]) (parsePolishDate_error_iff.mp ⟨failure, read⟩)
    | ok found =>
      cases found with
      | some date => exact absurd read (undated date)
      | none =>
        have fits : ¬ Overflows tables dateLine := by
          rw [← parsePolishDate_error_iff, read]
          simp
        have same : Quiet tables (dateLine :: rest) ↔ Quiet tables rest := by simp [Quiet, split, fits]
        rw [same, split, transactionsOf_pass read]
        exact ih

end Run

end FireflyToolkit.Citi
