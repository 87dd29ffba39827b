import FireflyToolkit.Citi.Rendering
import FireflyToolkit.Citi.Service

set_option autoImplicit false

namespace FireflyToolkit.Citi

open Numerals PyText
open PyBuiltins (bind_eq_ok)

structure CitiStatement (tables : UnicodeTables) where
  pieces : List Piece
  text : List Char
  noise : ∀ line, .noise line ∈ pieces → parsePolishDate tables line = .ok none
  laid : Spaced (contents pieces) (splitLines text)
  fits : ∀ block ∈ blocksOf pieces,
    Fits (digitsValue (block.amountLine.whole ++ block.amountLine.decimals)) (-2)

def CitiBlock.bankRecord (block : CitiBlock) : BankRecord where
  date := block.dateLine.date
  amount := block.amountLine.number
  details := some (String.ofList block.payee)
  recipient := some (String.ofList block.payee)
  operationAmount := block.amountLine.number
  operationCurrency := some (String.ofList block.amountLine.code)
  accountCurrency := some (String.ofList block.amountLine.code)

def CitiStatement.records {tables : UnicodeTables} (statement : CitiStatement tables)
    (includePositive : Bool) : List BankRecord :=
  ((blocksOf statement.pieces).filter (CitiBlock.kept includePositive)).map CitiBlock.bankRecord

section Imported

variable {tables : UnicodeTables} {strftime : Date → String} {includePositive : Bool}

theorem toBankRecord_transaction {block : CitiBlock}
    (fits : Fits (digitsValue (block.amountLine.whole ++ block.amountLine.decimals)) (-2)) :
    toBankRecord tables block.transaction = .ok block.bankRecord := by
  have read : decimalOf tables block.transaction.amountValue = .ok block.amountLine.number := by
    rw [decimalOf, (describes_transaction block).amount, AmountLine.number]
    exact if_pos fits
  rw [toBankRecord, read]
  rfl

theorem CitiStatement.parse_text (statement : CitiStatement tables) (includePositive : Bool) :
    parse tables (String.ofList statement.text) includePositive =
      .ok (resultOf includePositive (blocksOf statement.pieces)) := by
  have noise : ∀ line, .noise line ∈ statement.pieces → IsNoise tables line := by
    intro line member date
    rw [statement.noise line member]
    simp
  rw [parse, String.toList_ofList, cleanLines_spaced statement.laid]
  rcases @parseLines_contents tables statement.pieces noise includePositive 0 with
    ⟨-, line, member, overflows⟩ | ⟨read, -⟩
  · obtain ⟨error, raised⟩ := parsePolishDate_error_iff.mpr overflows
    rw [statement.noise line member] at raised
    cases raised
  · exact read

theorem CitiStatement.toBankRecords_text (statement : CitiStatement tables) (includePositive : Bool) :
    toBankRecords tables (resultOf includePositive (blocksOf statement.pieces)).transactions =
      .ok (statement.records includePositive) := by
  rw [toBankRecords, PyBuiltins.mapM_eq_ok, resultOf, CitiStatement.records, List.forall₂_map_left_iff,
    List.forall₂_map_right_iff, List.forall₂_same]
  intro block member
  exact toBankRecord_transaction (statement.fits block (List.mem_of_mem_filter member))

theorem CitiStatement.tells (statement : CitiStatement tables) (includePositive : Bool) :
    List.Forall₂ (Tells tables) (statement.records includePositive)
      ((statement.records includePositive).map rowOf) := by
  rw [List.forall₂_map_right_iff, List.forall₂_same]
  intro record member
  obtain ⟨block, -, rfl⟩ := List.mem_map.mp member
  refine tells_rowOf tables ⟨digitsValue (block.amountLine.whole ++ block.amountLine.decimals), ?_⟩
  norm_num

theorem str_injective {left right : DrawnId} (same : left.val.str = right.val.str) : left = right := by
  have parsed := UUID.parse_str left.property
  rw [same, UUID.parse_str right.property] at parsed
  exact Subtype.ext (Option.some.inj parsed).symm

variable {fileBytes : List Nat} {filename : Option String} {fresh : DrawnId} {chunkSize : ChunkSize}
  {before after : List Request}

def CitiStatement.entry (statement : CitiStatement tables) (fresh : DrawnId) (filename : Option String)
    (includePositive : Bool) (chunkSize : ChunkSize) : CitiImportFile :=
  { fileId := fresh.val.str, records := statement.records includePositive, warnings := []
    chunkSize, includePositive, sourceName := filename }

theorem CitiStatement.makes (statement : CitiStatement tables) (writes : Writes statement.text fileBytes)
    (taken : refusedName tables filename = false) :
    Makes tables strftime (.upload fresh filename fileBytes includePositive chunkSize)
      (statement.entry fresh filename includePositive chunkSize) := by
  obtain ⟨response, shown⟩ := mapPreviewToResponse_stored (statement.parse_text includePositive)
    (statement.toBankRecords_text includePositive) fresh.val.str
  refine ⟨response, shown, fun store => ?_⟩
  have stored : parseText tables store fresh (String.ofList statement.text) includePositive chunkSize
      filename = .ok (_, _) :=
    parseText_eq_ok.mpr ⟨_, _, statement.parse_text includePositive,
      statement.toBankRecords_text includePositive, rfl, rfl⟩
  rw [handle_upload taken, decodeText_writes writes, stored]
  simp only [imported, shown]
  rfl

-- An uploaded statement is shown and exported with all its records and nothing else, in whichever
-- encoding it comes and whatever is asked before and after.
theorem statement_imported (statement : CitiStatement tables) (writes : Writes statement.text fileBytes)
    (taken : refusedName tables filename = false)
    (drawnOnce : ∀ later ∈ after, later.drawn ≠ some fresh) :
    ∃ response payload,
      (∀ store, (handle tables strftime store
        (.upload fresh filename fileBytes includePositive chunkSize)).2 = .ok (.preview response)) ∧
      getCitiFile tables (storeAfter tables strftime
        (before ++ .upload fresh filename fileBytes includePositive chunkSize :: after)) fresh.val.str =
          .ok (.preview response) ∧
      exportCitiCsv tables strftime (storeAfter tables strftime
        (before ++ .upload fresh filename fileBytes includePositive chunkSize :: after)) fresh.val.str =
          .ok (.archive payload) ∧
      response.fileId = fresh.val.str ∧ response.warnings = [] ∧
      response.recordCount = (statement.records includePositive).length ∧
      (statement.records includePositive).mapM mapBankRecordToApi = .ok response.preview ∧
      (∀ file ∈ payload.content, ((readRows file.content).length : Int) ≤ chunkSize) ∧
      List.Forall₂ (Tells tables) (statement.records includePositive)
        (payload.content.flatMap fun file => readRows file.content) := by
  have makes : Makes tables strftime (.upload fresh filename fileBytes includePositive chunkSize)
      (statement.entry fresh filename includePositive chunkSize) := statement.makes writes taken
  have latest : Latest tables strftime
      (before ++ .upload fresh filename fileBytes includePositive chunkSize :: after) fresh.val.str
      (statement.entry fresh filename includePositive chunkSize) := by
    refine ⟨before, _, after, rfl, makes, rfl, fun later member other also named => ?_⟩
    obtain ⟨drawn, own, same⟩ := also.named
    exact drawnOnce later member (str_injective (same.symm.trans named) ▸ own)
  obtain ⟨response, made, answered⟩ := makes
  obtain ⟨again, madeAgain, shown, exported⟩ := latest_answered latest
  obtain rfl := Except.ok.inj (made.symm.trans madeAgain)
  obtain ⟨records, mapped, returned⟩ := bind_eq_ok.mp made
  obtain rfl := Except.ok.inj returned
  refine ⟨_, _, fun store => congrArg Prod.snd (answered store), shown, exported, rfl, rfl, rfl, mapped, ?_, ?_⟩
  · intro file member
    obtain ⟨chunk, inChunks, rows⟩ := mem_exportZip member
    have short := (length_of_mem_exportChunks inChunks).1
    rw [rows, List.length_map]
    exact short.trans (max_le chunkSize.property.1 le_rfl)
  · rw [archiveOf, rows_exportZip]
    exact statement.tells includePositive

end Imported

def shopStatement : CitiStatement plainTables where
  pieces := [.noise "Saldo".toList, .block shopBlock]
  text := "Saldo\n16 sty 2025\nTest Shop\n\nTest Shop\n-1 042,50PLN".toList
  noise := by
    intro line member
    obtain rfl : line = "Saldo".toList := by simpa using member
    decide
  laid := by
    have split : splitLines "Saldo\n16 sty 2025\nTest Shop\n\nTest Shop\n-1 042,50PLN".toList =
        ["Saldo".toList, "16 sty 2025".toList, "Test Shop".toList, [], "Test Shop".toList,
          "-1 042,50PLN".toList] := by decide
    rw [split]
    exact .line _ <| .line _ <| .line _ <| .blank (by decide) <| .line _ <| .line _ .nil
  fits := by decide

theorem statement_imported_shop : ∃ response, getCitiFile plainTables (storeAfter plainTables paddedYmd
    [.getFile "1", .upload ⟨⟨1⟩, by decide⟩ (some "citi.TXT") (bom ++ Utf8.encode shopStatement.text) false
      ⟨60, by decide⟩, .exportCsv "1"]) (UUID.str ⟨1⟩) = .ok (.preview response) ∧
    response.recordCount = 1 := by
  obtain ⟨response, payload, -, shown, -, -, -, count, -⟩ :=
    @statement_imported plainTables paddedYmd false _ (some "citi.TXT") ⟨⟨1⟩, by decide⟩ ⟨60, by decide⟩
      [.getFile "1"] [.exportCsv "1"] shopStatement .utf8Sig (by decide) (by decide)
  exact ⟨response, shown, count⟩

end FireflyToolkit.Citi
