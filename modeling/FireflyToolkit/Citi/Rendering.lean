import FireflyToolkit.Citi.Blocks

set_option autoImplicit false

namespace FireflyToolkit.Citi

open PyText Numerals

inductive Piece
  | block (content : CitiBlock)
  | noise (line : List Char)

def Piece.rawLines : Piece → List (List Char)
  | block content => content.rawLines
  | noise line => [line]

def contents (pieces : List Piece) : List (List Char) := pieces.flatMap Piece.rawLines

def blocksOf : List Piece → List CitiBlock
  | [] => []
  | .block content :: rest => content :: blocksOf rest
  | .noise _ :: rest => blocksOf rest

inductive Spaced : List (List Char) → List (List Char) → Prop
  | nil : Spaced [] []
  | blank {lines spaced : List (List Char)} {line : List Char} (empty : strip line = []) :
      Spaced lines spaced → Spaced lines (line :: spaced)
  | line {lines spaced : List (List Char)} (line : List Char) :
      Spaced lines spaced → Spaced (line :: lines) (line :: spaced)

theorem spaced_refl (lines : List (List Char)) : Spaced lines lines := by
  induction lines with
  | nil => exact .nil
  | cons line rest ih => exact .line line ih

theorem cleanLines_append (left right : List (List Char)) :
    cleanLines (left ++ right) = cleanLines left ++ cleanLines right := by
  simp [cleanLines]

theorem cleanLines_spaced {lines spaced : List (List Char)} (laid : Spaced lines spaced) :
    cleanLines spaced = cleanLines lines := by
  induction laid with
  | nil => rfl
  | blank empty _ ih => simpa [cleanLines, empty] using ih
  | line line _ ih =>
    rw [← List.singleton_append, cleanLines_append, ih, ← cleanLines_append]
    rfl

section Parsed

variable (tables : UnicodeTables)

def IsNoise (line : List Char) : Prop := ∀ date, parsePolishDate tables line ≠ .ok (some date)

structure Describes (block : CitiBlock) (transaction : ParsedCitiTransaction) : Prop where
  date : transaction.date = block.dateLine.date
  payee : transaction.payee = String.ofList block.payee
  currency : transaction.amountCurrency = String.ofList block.amountLine.code
  amount : decimalNumber tables transaction.amountValue.toList = some block.amountLine.number

def Recovers (includePositive : Bool) (rawText : String) (blocks : List CitiBlock) : Prop :=
  ∃ result, parse tables rawText includePositive = .ok result ∧
    List.Forall₂ (Describes tables) (blocks.filter (CitiBlock.kept includePositive)) result.transactions ∧
    result.warnings = []

def resultOf (includePositive : Bool) (blocks : List CitiBlock) : CitiParseResult :=
  { transactions := (blocks.filter (CitiBlock.kept includePositive)).map CitiBlock.transaction
    warnings := [] }

variable {tables}

theorem describes_transaction (block : CitiBlock) : Describes tables block block.transaction where
  date := rfl
  payee := rfl
  currency := rfl
  amount := by
    have text : block.transaction.amountValue.toList = block.amountLine.valueText :=
      String.toList_ofList
    rw [text]
    exact decimalNumber_of_float (block.amountLine.floatNumber_valueText tables)

theorem record_resultOf (includePositive : Bool) (block : CitiBlock) (rest : List CitiBlock) :
    block.record includePositive (resultOf includePositive rest) =
      resultOf includePositive (block :: rest) := by
  unfold CitiBlock.record resultOf
  split_ifs with kept
  · simp [kept, CitiParseResult.recorded]
  · simp [kept]

theorem parsePolishDate_strip (line : List Char) :
    parsePolishDate tables (strip line) = parsePolishDate tables line := by
  have twice : strip (strip line) = strip line := stripOf_stripOf (fun _ space => space) line
  simp only [parsePolishDate, twice]

theorem overflows_strip {line : List Char} : Overflows tables (strip line) ↔ Overflows tables line := by
  rw [← parsePolishDate_error_iff, ← parsePolishDate_error_iff, parsePolishDate_strip]

theorem not_overflows_blank {line : List Char} (empty : strip line = []) : ¬ Overflows tables line := by
  rintro ⟨dayText, monthText, yearText, -, -, -, split, -⟩
  rw [empty] at split
  simp [words, wordsFrom] at split

theorem parseLines_noise {line : List Char} (noise : IsNoise tables line) (includePositive : Bool)
    (index : Nat) (rest : List (List Char)) :
    ((∃ failure, parseLines tables includePositive index (line :: rest) = .error failure) ∧
        Overflows tables line) ∨
      (parseLines tables includePositive index (line :: rest) =
          parseLines tables includePositive (index + 1) rest ∧ ¬ Overflows tables line) := by
  rw [← parsePolishDate_error_iff, parseLines]
  cases read : parsePolishDate tables line with
  | error failure => exact .inl ⟨⟨failure, rfl⟩, failure, rfl⟩
  | ok found =>
    cases found with
    | none => exact .inr ⟨rfl, by simp⟩
    | some date => exact absurd read (noise date)

variable {pieces : List Piece}

-- The run raises at the first line that overflows, and reads all of the blocks without one.
theorem parseLines_contents (noise : ∀ line, .noise line ∈ pieces → IsNoise tables line)
    (includePositive : Bool) (index : Nat) :
    ((∃ failure, parseLines tables includePositive index (cleanLines (contents pieces)) =
          .error failure) ∧ ∃ line, .noise line ∈ pieces ∧ Overflows tables line) ∨
      (parseLines tables includePositive index (cleanLines (contents pieces)) =
          .ok (resultOf includePositive (blocksOf pieces)) ∧
        ∀ line, .noise line ∈ pieces → ¬ Overflows tables line) := by
  induction pieces generalizing index with
  | nil => exact .inr ⟨rfl, by simp⟩
  | cons piece rest ih =>
    have later := ih fun line member => noise line (.tail _ member)
    rw [contents, List.flatMap_cons, cleanLines_append, ← contents]
    cases piece with
    | block content =>
      rw [Piece.rawLines, content.cleanLines_rawLines, content.parseLines_block]
      rcases later (index + 4) with ⟨⟨failure, raised⟩, line, member, overflows⟩ | ⟨read, quiet⟩
      · exact .inl ⟨⟨failure, by rw [raised]; rfl⟩, line, .tail _ member, overflows⟩
      · refine .inr ⟨?_, by simpa using quiet⟩
        rw [read, blocksOf, ← record_resultOf]
        rfl
    | noise line =>
      by_cases empty : strip line = []
      · have blank : cleanLines (Piece.noise line).rawLines = [] := by
          simp [Piece.rawLines, cleanLines, empty]
        rw [blank, List.nil_append, blocksOf]
        rcases later index with ⟨raised, other, member, overflows⟩ | ⟨read, quiet⟩
        · exact .inl ⟨raised, other, .tail _ member, overflows⟩
        · refine .inr ⟨read, ?_⟩
          simpa using ⟨not_overflows_blank empty, quiet⟩
      · have some : cleanLines (Piece.noise line).rawLines = [strip line] := by
          simp [Piece.rawLines, cleanLines, empty]
        have stripped : IsNoise tables (strip line) := by
          intro date
          rw [parsePolishDate_strip]
          exact noise line (by simp) date
        rw [some, List.singleton_append, blocksOf]
        rcases parseLines_noise stripped includePositive index (cleanLines (contents rest)) with
          ⟨raised, overflows⟩ | ⟨passed, quietLine⟩
        · exact .inl ⟨raised, line, by simp, overflows_strip.mp overflows⟩
        · rw [passed]
          rcases later (index + 1) with ⟨raised, other, member, overflows⟩ | ⟨read, quiet⟩
          · exact .inl ⟨raised, other, .tail _ member, overflows⟩
          · refine .inr ⟨read, ?_⟩
            rw [overflows_strip] at quietLine
            simpa using ⟨quietLine, quiet⟩

theorem parse_rendered_iff {rawText : String} (noise : ∀ line, .noise line ∈ pieces → IsNoise tables line)
    (laid : Spaced (contents pieces) (splitLines rawText.toList)) (includePositive : Bool) :
    Recovers tables includePositive rawText (blocksOf pieces) ↔
      ∀ line, .noise line ∈ pieces → ¬ Overflows tables line := by
  have lines := cleanLines_spaced laid
  unfold Recovers parse
  rw [lines]
  rcases parseLines_contents noise includePositive 0 with ⟨⟨failure, raised⟩, line, member, overflows⟩ |
    ⟨read, quiet⟩
  · rw [raised]
    constructor
    · rintro ⟨result, returned, -⟩
      simp at returned
    · intro quiet
      exact absurd overflows (quiet line member)
  · rw [read]
    refine ⟨fun _ => quiet, fun _ => ⟨_, rfl, ?_, rfl⟩⟩
    rw [resultOf, List.forall₂_map_right_iff, List.forall₂_same]
    exact fun block _ => describes_transaction block

end Parsed

def shopBlock : CitiBlock where
  dateLine :=
    { date := ⟨2025, 1, 16, by decide⟩, day := "16".toList, month := "sty", year := "2025".toList
      dayDigits := by decide, yearDigits := by decide, dayLength := by decide, yearLength := by decide
      dayValue := by decide, monthValue := by decide, yearValue := by decide }
  payee := "Test Shop".toList
  description := "Test Shop".toList
  amountLine :=
    { negative := true, groups := ["1".toList, "042".toList], mark := ',', decimals := "50".toList
      currency := "PLN".toList, groupsSome := by decide, groupDigits := by decide, pointMark := by decide
      decimalDigits := by decide, decimalLength := by decide, currencyUpper := List.all_eq_true.mp (by decide) }
  payeeTrimmed := by decide
  payeeSome := by decide
  descriptionSome := by decide

theorem parse_rendered_shop : Recovers plainTables false
    "Saldo\n16 sty 2025\nTest Shop\n\nTest Shop\n-1 042,50PLN" [shopBlock] := by
  have read : parsePolishDate plainTables "Saldo".toList = .ok none := by decide
  have noise : ∀ line, Piece.noise line ∈ [.noise "Saldo".toList, .block shopBlock] →
      IsNoise plainTables line := by
    intro line member date
    obtain rfl : line = "Saldo".toList := by simpa using member
    rw [read]
    simp
  have laid : Spaced (contents [.noise "Saldo".toList, .block shopBlock])
      (splitLines "Saldo\n16 sty 2025\nTest Shop\n\nTest Shop\n-1 042,50PLN".toList) :=
    .line _ <| .line _ <| .line _ <| .blank (by decide) <| .line _ <| .line _ .nil
  refine (parse_rendered_iff noise laid false).mpr fun line member => ?_
  obtain rfl : line = "Saldo".toList := by simpa using member
  rw [← parsePolishDate_error_iff, read]
  simp

-- A line of the statement that only looks like a date stops the whole import.
theorem parse_rendered_overflow : ¬ ∀ (tables : UnicodeTables) (pieces : List Piece) (rawText : String)
    (includePositive : Bool), (∀ line, .noise line ∈ pieces → IsNoise tables line) →
      Spaced (contents pieces) (splitLines rawText.toList) →
      Recovers tables includePositive rawText (blocksOf pieces) := by
  intro recovered
  have raised : parsePolishDate plainTables "1 sty 99999999999".toList =
      .error (.overflowError "signed integer is greater than maximum") := by decide
  obtain ⟨result, returned, -⟩ := recovered plainTables [.noise "1 sty 99999999999".toList]
    "1 sty 99999999999" true
    (by
      intro line member date
      obtain rfl : line = "1 sty 99999999999".toList := by simpa using member
      rw [raised]
      simp)
    (.line _ .nil)
  have stopped : parse plainTables "1 sty 99999999999" true =
      .error (.overflowError "signed integer is greater than maximum") := by decide
  rw [stopped] at returned
  simp at returned

end FireflyToolkit.Citi
