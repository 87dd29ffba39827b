import FireflyToolkit.Citi.Rendering
import FireflyToolkit.Citi.Runs

set_option autoImplicit false

namespace FireflyToolkit.Citi

open PyText
open PyBuiltins (map_eq_ok)

section Blocks

variable {tables : UnicodeTables} {includePositive : Bool} {dateLine payee description amountLine : List Char}
  {date : Date} {later : List (List Char)}

def recordsOf (includePositive : Bool) (blocks : List CitiBlock) : List ParsedCitiTransaction :=
  (resultOf includePositive blocks).transactions

theorem recordsOf_cons (block : CitiBlock) (rest : List CitiBlock) :
    recordsOf includePositive (block :: rest) =
      recordsOf includePositive [block] ++ recordsOf includePositive rest := by
  simp [recordsOf, resultOf, ← List.map_append, ← List.filter_append]

theorem transactionsOf_frame (block : CitiBlock)
    (sameDate : parsePolishDate tables dateLine = .ok (some block.dateLine.date)) :
    transactionsOf tables includePositive
        (dateLine :: block.payee :: description :: block.amountLine.text :: later) =
      (transactionsOf tables includePositive later).map (recordsOf includePositive [block] ++ ·) := by
  have recorded : ∀ result, (block.record includePositive result).transactions =
      recordsOf includePositive [block] ++ result.transactions := by
    intro result
    cases kept : block.kept includePositive <;>
      simp [CitiBlock.record, recordsOf, resultOf, kept, CitiParseResult.recorded]
  rw [← parseLines_transactions 4 later, transactionsOf, block.parseLines_frame tables sameDate]
  cases parseLines tables includePositive 4 later with
  | error failure => rfl
  | ok result => exact congrArg _ (recorded result)

theorem transactionsOf_blocks (blocks : List CitiBlock) (rest : List (List Char)) :
    transactionsOf tables includePositive (blocks.flatMap CitiBlock.lines ++ rest) =
      (transactionsOf tables includePositive rest).map (recordsOf includePositive blocks ++ ·) := by
  induction blocks with
  | nil =>
    rw [List.flatMap_nil, List.nil_append]
    cases transactionsOf tables includePositive rest <;> rfl
  | cons block later ih =>
    have dated := block.dateLine.parsePolishDate_text tables
    rw [List.flatMap_cons, List.append_assoc, recordsOf_cons]
    simp only [CitiBlock.lines, List.cons_append, List.nil_append]
    rw [transactionsOf_frame block dated, ih]
    cases transactionsOf tables includePositive rest with
    | error => rfl
    | ok transactions => simp [Except.map]

theorem transactionsOf_blocks_only (blocks : List CitiBlock) :
    transactionsOf tables includePositive (blocks.flatMap CitiBlock.lines) =
      .ok (recordsOf includePositive blocks) := by
  have none : transactionsOf tables includePositive [] = .ok [] := rfl
  rw [← List.append_nil (blocks.flatMap CitiBlock.lines), transactionsOf_blocks, none]
  simp [Except.map]

variable (tables)

-- The shifted lines read as the very transactions that the blocks stand for.
inductive Realigns : List (List Char) → List CitiBlock → Prop
  | finished (lines : List (List Char)) : Realigns lines []
  | alone {dateLine : List Char} {block : CitiBlock} (rest : List CitiBlock)
      (sameDate : parsePolishDate tables dateLine = .ok (some block.dateLine.date))
      (samePayee : block.payee = block.dateLine.text)
      (sameAmount : strip block.description = block.amountLine.text) :
      Realigns [dateLine] (block :: rest)
  | pair {dateLine payee : List Char} {block : CitiBlock} (rest : List CitiBlock)
      (sameDate : parsePolishDate tables dateLine = .ok (some block.dateLine.date))
      (samePayee : payee = block.payee) (sameAmount : block.payee = block.amountLine.text)
      (passed : parsePolishDate tables (strip block.description) = .ok none) :
      Realigns [dateLine, payee] (block :: rest)
  | chain {dateLine payee : List Char} {block : CitiBlock} {rest : List CitiBlock} (date : Date)
      (sameDate : parsePolishDate tables dateLine = .ok (some block.dateLine.date))
      (samePayee : payee = block.payee) (sameAmount : block.payee = block.amountLine.text)
      (dated : parsePolishDate tables (strip block.description) = .ok (some date))
      (later : Realigns [strip block.description, block.amountLine.text] rest) :
      Realigns [dateLine, payee] (block :: rest)

variable {tables}

theorem Realigns.reads {lines : List (List Char)} {blocks : List CitiBlock}
    (aligned : Realigns tables lines blocks) (short : lines.length < 4)
    (dated : ∃ dateLine rest date, lines = dateLine :: rest ∧
      parsePolishDate tables dateLine = .ok (some date)) (includePositive : Bool) :
    transactionsOf tables includePositive (lines ++ blocks.flatMap CitiBlock.lines) =
      .ok (recordsOf includePositive blocks) := by
  induction aligned with
  | finished lines =>
    obtain ⟨dateLine, rest, date, rfl, read⟩ := dated
    rw [List.flatMap_nil, List.append_nil]
    exact transactionsOf_incomplete read (Nat.lt_of_succ_lt_succ short)
  | @alone dateLine block rest sameDate samePayee sameAmount =>
    simp only [List.flatMap_cons, CitiBlock.lines, List.cons_append, List.nil_append]
    rw [← samePayee, sameAmount, transactionsOf_frame block sameDate,
      transactionsOf_pass (block.amountLine.parsePolishDate_text tables), transactionsOf_blocks_only,
      recordsOf_cons block rest]
    rfl
  | @pair dateLine payee block rest sameDate samePayee sameAmount passed =>
    simp only [List.flatMap_cons, CitiBlock.lines, List.cons_append, List.nil_append]
    rw [samePayee]
    nth_rewrite 2 [sameAmount]
    rw [transactionsOf_frame block sameDate, transactionsOf_pass passed,
      transactionsOf_pass (block.amountLine.parsePolishDate_text tables), transactionsOf_blocks_only,
      recordsOf_cons block rest]
    rfl
  | @chain dateLine payee block rest date sameDate samePayee sameAmount again later ih =>
    have next := ih (by simp) ⟨_, _, date, rfl, again⟩
    simp only [List.flatMap_cons, CitiBlock.lines, List.cons_append, List.nil_append] at next ⊢
    rw [samePayee]
    nth_rewrite 2 [sameAmount]
    rw [transactionsOf_frame block sameDate, next, recordsOf_cons block rest]
    rfl

theorem recordsOf_true (blocks : List CitiBlock) :
    recordsOf true blocks = blocks.map CitiBlock.transaction := by
  have all : blocks.filter (CitiBlock.kept true) = blocks := List.filter_eq_self.mpr fun _ _ => rfl
  rw [recordsOf, resultOf, all]

theorem not_read_of_short {lines : List (List Char)} {blocks : List CitiBlock}
    (short : lines.length < 4 * blocks.length) :
    transactionsOf tables true lines ≠ .ok (recordsOf true blocks) := by
  intro read
  have bound := transactionsOf_length read
  rw [recordsOf_true, List.length_map] at bound
  omega

theorem length_lines (blocks : List CitiBlock) :
    (blocks.flatMap CitiBlock.lines).length = 4 * blocks.length := by
  induction blocks with
  | nil => rfl
  | cons block rest ih =>
    rw [List.flatMap_cons, List.length_append, ih]
    simp [CitiBlock.lines]
    omega

-- A frame has to be the first block, and what follows it the others.
theorem frame_split {block : CitiBlock} {blocks : List CitiBlock} {lines : List (List Char)}
    (dated : parsePolishDate tables dateLine = .ok (some date)) (room : lines.length < 4 * (blocks.length + 1))
    (read : transactionsOf tables true (dateLine :: payee :: description :: amountLine :: lines) =
      .ok (recordsOf true (block :: blocks))) :
    date = block.dateLine.date ∧ payee = block.payee ∧ amountLine = block.amountLine.text ∧
      transactionsOf tables true lines = .ok (recordsOf true blocks) := by
  cases parsed : parseAmount tables amountLine with
  | none =>
    rw [transactionsOf_invalid dated parsed] at read
    exact absurd read (not_read_of_short (by simpa using room))
  | some amount =>
    rw [transactionsOf_taken dated parsed rfl] at read
    obtain ⟨later, laterRead, same⟩ := map_eq_ok.mp read
    rw [recordsOf_true, List.map_cons, List.cons.injEq] at same
    obtain ⟨first, others⟩ := same
    have dates := congrArg ParsedCitiTransaction.date first
    have payees := congrArg ParsedCitiTransaction.payee first
    have amounts := congrArg ParsedCitiTransaction.amountText first
    refine ⟨dates, String.ofList_injective payees, String.ofList_injective amounts, ?_⟩
    rw [laterRead, others, recordsOf_true]

theorem realigns_pair {blocks : List CitiBlock} (dated : parsePolishDate tables dateLine = .ok (some date))
    (read : transactionsOf tables true (dateLine :: payee :: blocks.flatMap CitiBlock.lines) =
      .ok (recordsOf true blocks)) : Realigns tables [dateLine, payee] blocks := by
  induction blocks generalizing dateLine payee date with
  | nil => exact .finished _
  | cons block rest ih =>
    have lines := length_lines rest
    simp only [List.flatMap_cons, CitiBlock.lines, List.cons_append, List.nil_append] at read
    obtain ⟨rfl, samePayee, sameAmount, later⟩ := frame_split dated (by simp only [List.length_cons, lines]; omega) read
    cases next : parsePolishDate tables (strip block.description) with
    | error failure =>
      rw [transactionsOf_raise next] at later
      simp at later
    | ok found =>
      cases found with
      | none => exact .pair rest dated samePayee sameAmount next
      | some following => exact .chain following dated samePayee sameAmount next (ih next later)

theorem realigns_of_read {extra : List (List Char)} {blocks : List CitiBlock}
    (dated : parsePolishDate tables dateLine = .ok (some date)) (short : extra.length < 3)
    (read : transactionsOf tables true (dateLine :: extra ++ blocks.flatMap CitiBlock.lines) =
      .ok (recordsOf true blocks)) : Realigns tables (dateLine :: extra) blocks := by
  cases blocks with
  | nil => exact .finished _
  | cons block rest =>
    have lines := length_lines rest
    cases extra with
    | nil =>
      simp only [List.flatMap_cons, CitiBlock.lines, List.cons_append, List.nil_append] at read
      obtain ⟨rfl, samePayee, sameAmount, -⟩ := frame_split dated (by simp only [List.length_cons, lines]; omega) read
      exact .alone rest dated samePayee.symm sameAmount
    | cons payee extra =>
      cases extra with
      | nil => exact realigns_pair dated read
      | cons description extra =>
        obtain rfl : extra = [] := List.length_eq_zero_iff.mp (by simp at short; omega)
        -- The amount would be the date of the first block.
        simp only [List.flatMap_cons, CitiBlock.lines, List.cons_append, List.nil_append] at read
        rw [transactionsOf_invalid dated (block.dateLine.parseAmount_text tables)] at read
        exact absurd read (not_read_of_short (by simp only [List.length_cons, lines]; omega))

variable (tables)

def Resyncs (includePositive : Bool) (rawText : String) (before after : List CitiBlock) : Prop :=
  ∃ result, parse tables rawText includePositive = .ok result ∧
    result.transactions = recordsOf includePositive before ++ recordsOf includePositive after

def truncatedLines (before : List CitiBlock) (dateLine : DateLine) (extra : List (List Char))
    (after : List CitiBlock) : List (List Char) :=
  before.flatMap CitiBlock.rawLines ++ (dateLine.text :: extra ++ after.flatMap CitiBlock.rawLines)

variable {tables}

theorem cleanLines_blocks (blocks : List CitiBlock) :
    cleanLines (blocks.flatMap CitiBlock.rawLines) = blocks.flatMap CitiBlock.lines := by
  induction blocks with
  | nil => rfl
  | cons block rest ih =>
    rw [List.flatMap_cons, cleanLines_append, block.cleanLines_rawLines, ih, List.flatMap_cons]

theorem cleanLines_truncated (before : List CitiBlock) (dateLine : DateLine) (extra : List (List Char))
    (after : List CitiBlock) : cleanLines (truncatedLines before dateLine extra after) =
      before.flatMap CitiBlock.lines ++
        (dateLine.text :: cleanLines extra ++ after.flatMap CitiBlock.lines) := by
  have some : dateLine.text ≠ [] := by simp [DateLine.text]
  have date : cleanLines [dateLine.text] = [dateLine.text] := by
    simp [cleanLines, dateLine.strip_text, some]
  rw [truncatedLines, cleanLines_append, cleanLines_append, cleanLines_blocks, cleanLines_blocks,
    ← List.singleton_append, cleanLines_append, date, List.singleton_append]

theorem resyncs_iff {before after : List CitiBlock} {dateLine : DateLine} {extra : List (List Char)}
    {rawText : String}
    (laid : Spaced (truncatedLines before dateLine extra after) (splitLines rawText.toList)) :
    Resyncs tables includePositive rawText before after ↔
      transactionsOf tables includePositive
        (dateLine.text :: cleanLines extra ++ after.flatMap CitiBlock.lines) =
          .ok (recordsOf includePositive after) := by
  have lines := (cleanLines_spaced laid).trans (cleanLines_truncated before dateLine extra after)
  have read : Resyncs tables includePositive rawText before after ↔
      transactionsOf tables includePositive (cleanLines (splitLines rawText.toList)) =
        .ok (recordsOf includePositive before ++ recordsOf includePositive after) := by
    rw [transactionsOf, map_eq_ok]
    rfl
  rw [read, lines, transactionsOf_blocks, map_eq_ok]
  simp

-- After a truncated block all the blocks are found again only where its lines, shifted over the
-- blocks, happen to repeat what these say.
theorem parse_truncated_iff {before after : List CitiBlock} {dateLine : DateLine}
    {extra : List (List Char)} {rawText : String} (short : extra.length < 3)
    (laid : Spaced (truncatedLines before dateLine extra after) (splitLines rawText.toList)) :
    ((∀ includePositive, Resyncs tables includePositive rawText before after) ↔
        Realigns tables (dateLine.text :: cleanLines extra) after) ∧
      (Resyncs tables true rawText before after ↔
        Realigns tables (dateLine.text :: cleanLines extra) after) := by
  have dated := dateLine.parsePolishDate_text tables
  have cleaned : (cleanLines extra).length ≤ extra.length := by
    rw [cleanLines]
    exact (List.length_filter_le _ _).trans (by simp)
  have enough : Realigns tables (dateLine.text :: cleanLines extra) after →
      ∀ includePositive, Resyncs tables includePositive rawText before after := by
    intro aligned includePositive
    exact (resyncs_iff laid).mpr <| aligned.reads (by simp; omega) ⟨_, _, _, rfl, dated⟩ includePositive
  have needed : Resyncs tables true rawText before after →
      Realigns tables (dateLine.text :: cleanLines extra) after :=
    fun resynced => realigns_of_read dated (by omega) ((resyncs_iff laid).mp resynced)
  exact ⟨⟨fun resynced => needed (resynced true), enough⟩, needed, fun aligned => enough aligned true⟩

end Blocks

def echoedBlock : CitiBlock :=
  { shopBlock with
    payee := "-1 042,50PLN".toList
    payeeTrimmed := by decide
    payeeSome := by decide }

def echoedText : String :=
  "16 sty 2025\nTest Shop\nTest Shop\n-1 042,50PLN\n16 sty 2025\n-1 042,50PLN\n" ++
    "16 sty 2025\n-1 042,50PLN\nTest Shop\n-1 042,50PLN"

theorem parse_truncated_echoed : Resyncs plainTables false echoedText [shopBlock] [echoedBlock] ∧
    Resyncs plainTables true echoedText [shopBlock] [echoedBlock] := by
  have laid : Spaced (truncatedLines [shopBlock] shopBlock.dateLine ["-1 042,50PLN".toList] [echoedBlock])
      (splitLines echoedText.toList) := by
    have lines : splitLines echoedText.toList =
        truncatedLines [shopBlock] shopBlock.dateLine ["-1 042,50PLN".toList] [echoedBlock] := by
      decide +kernel
    rw [lines]
    exact spaced_refl _
  have aligned : Realigns plainTables [shopBlock.dateLine.text, "-1 042,50PLN".toList] [echoedBlock] :=
    .pair [] (shopBlock.dateLine.parsePolishDate_text plainTables) rfl (by decide) (by decide)
  have cleaned : cleanLines ["-1 042,50PLN".toList] = ["-1 042,50PLN".toList] := by decide
  have resynced := (parse_truncated_iff (by decide) laid).1.mpr (cleaned ▸ aligned)
  exact ⟨resynced false, resynced true⟩

-- The payment that follows the lone date is lost.
theorem parse_truncated_lost : ¬ ∀ (tables : UnicodeTables) (before after : List CitiBlock)
    (dateLine : DateLine) (extra : List (List Char)) (rawText : String) (includePositive : Bool),
    extra.length < 3 → (∀ line ∈ extra, IsNoise tables line) →
      Spaced (truncatedLines before dateLine extra after) (splitLines rawText.toList) →
      Resyncs tables includePositive rawText before after := by
  intro resynced
  have laid : Spaced (truncatedLines [] shopBlock.dateLine [] [shopBlock])
      (splitLines "16 sty 2025\n16 sty 2025\nTest Shop\nTest Shop\n-1 042,50PLN".toList) := by
    have lines : splitLines "16 sty 2025\n16 sty 2025\nTest Shop\nTest Shop\n-1 042,50PLN".toList =
        truncatedLines [] shopBlock.dateLine [] [shopBlock] := by decide +kernel
    rw [lines]
    exact spaced_refl _
  obtain ⟨result, returned, transactions⟩ := resynced plainTables [] [shopBlock] shopBlock.dateLine []
    "16 sty 2025\n16 sty 2025\nTest Shop\nTest Shop\n-1 042,50PLN" true (by decide) (by simp) laid
  have read : parse plainTables "16 sty 2025\n16 sty 2025\nTest Shop\nTest Shop\n-1 042,50PLN" true =
      .ok { transactions := []
            warnings := ["Skipped transaction at line 1: invalid amount 'Test Shop'"] } := by decide +kernel
  rw [read] at returned
  obtain rfl := Except.ok.inj returned
  rw [recordsOf_true, recordsOf_true] at transactions
  simp at transactions

end FireflyToolkit.Citi
