import FireflyToolkit.Domain.Evidence
import FireflyToolkit.Domain.Numerals
import FireflyToolkit.Shared.Csv

set_option autoImplicit false

namespace FireflyToolkit

open PyBuiltins PyText

namespace Decimal

def cents (coefficient : Nat) (exponent : Int) : Nat :=
  (Rounding.halfEven (coefficient * 10 ^ (exponent + 2))).toNat

-- `f"{value:.2f}"`
def twoPlaces : Decimal → String
  | finite negative coefficient exponent =>
      (if negative then "-" else "") ++ toString (cents coefficient exponent / 100) ++ "." ++
        padZeros 2 (cents coefficient exponent % 100)
  | special => special.toText

theorem twoPlaces_finite (tables : UnicodeTables) (negative : Bool) (coefficient : Nat) (exponent : Int) :
    Numerals.decimalNumber tables (finite negative coefficient exponent).twoPlaces.toList =
      some (finite negative (cents coefficient exponent) (-2)) := by
  have size := Nat.mod_lt (cents coefficient exponent) (show 0 < 100 by decide)
  have places : (padZeros 2 (cents coefficient exponent % 100)).toList.length = 2 :=
    padZeros_length (by decide) size
  have digits := padZeros_digits 2 (cents coefficient exponent % 100)
  have whole : (Nat.toDigits 10 (cents coefficient exponent / 100)).all Char.isDigit = true :=
    List.all_eq_true.mpr fun character member =>
      Nat.isDigit_of_mem_toDigits (by decide) (by decide) member
  have text : (finite negative coefficient exponent).twoPlaces.toList =
      Numerals.signText negative ++ (Nat.toDigits 10 (cents coefficient exponent / 100) ++
        '.' :: (padZeros 2 (cents coefficient exponent % 100)).toList) := by
    have sign : (if negative then "-" else "").toList = Numerals.signText negative := by
      cases negative <;> rfl
    simp only [twoPlaces, String.toList_append, sign, Nat.toString_eq_repr, Nat.toList_repr,
      List.append_assoc]
    rfl
  have value : Numerals.digitsValue (Nat.toDigits 10 (cents coefficient exponent / 100) ++
      (padZeros 2 (cents coefficient exponent % 100)).toList) = cents coefficient exponent := by
    rw [Numerals.digitsValue, Nat.ofDigitChars_append, Nat.ofDigitChars_ten_toDigits,
      Nat.ofDigitChars_eq_ofDigitChars_zero, places, padZeros_value]
    exact Nat.div_add_mod _ 100
  have read : Numerals.floatNumber tables (Numerals.signText negative ++ (_ ++ '.' :: _)) = some _ :=
    Numerals.floatNumber_point whole Nat.toDigits_ne_nil digits
  rw [value, places] at read
  rw [text]
  exact Numerals.decimalNumber_of_float read

def WholeCents : Decimal → Prop
  | finite _ coefficient exponent => ∃ count : Nat, (coefficient : ℚ) * 10 ^ (exponent + 2) = count
  | infinity _ | nan .. => False

theorem twoPlaces_wholeCents (tables : UnicodeTables) {amount : Decimal} (whole : amount.WholeCents) :
    ∃ number, Numerals.decimalNumber tables amount.twoPlaces.toList = some number ∧
      number.numEq amount = true := by
  cases amount with
  | finite negative coefficient exponent =>
    obtain ⟨count, exact⟩ := whole
    refine ⟨_, twoPlaces_finite tables negative coefficient exponent, numEq_iff_rational.mpr ?_⟩
    have same : cents coefficient exponent = count := by
      rw [cents, exact, ← Int.cast_natCast, Rounding.halfEven_intCast, Int.toNat_natCast]
    have scale : (10 : ℚ) ^ (exponent + 2) * 10 ^ (-2 : Int) = 10 ^ exponent := by
      rw [← zpow_add₀ (by norm_num)]
      congr 1
      omega
    rw [same, rational, rational, ← exact, mul_assoc, mul_assoc, mul_assoc, scale]
  | infinity => exact absurd whole id
  | nan => exact absurd whole id

end Decimal

namespace Citi

-- `[items[index : index + size] for index in range(0, len(items), size)]`
def chunksOf {α : Type} (size : Nat) (items : List α) : List (List α) :=
  (List.range ((items.length + size - 1) / size)).map fun step => (items.drop (step * size)).take size

section Chunks

variable {α : Type} {size : Nat} {items : List α}

theorem flatten_slices (size count : Nat) (items : List α) :
    ((List.range count).map fun step => (items.drop (step * size)).take size).flatten =
      items.take (count * size) := by
  induction count with
  | zero => simp
  | succ count ih =>
    rw [List.range_succ, List.map_append, List.flatten_append, ih, Nat.succ_mul, List.take_add]
    simp

theorem chunksOf_flatten (positive : 0 < size) (items : List α) : (chunksOf size items).flatten = items := by
  rw [chunksOf, flatten_slices]
  refine List.take_of_length_le ?_
  have rounded := Nat.div_add_mod (items.length + size - 1) size
  have rest := Nat.mod_lt (items.length + size - 1) positive
  rw [Nat.mul_comm] at rounded
  omega

theorem length_of_mem_chunksOf {chunk : List α} (positive : 0 < size) (member : chunk ∈ chunksOf size items) :
    chunk.length ≤ size ∧ chunk ≠ [] := by
  obtain ⟨step, inRange, rfl⟩ := List.mem_map.mp member
  have below := List.mem_range.mp inRange
  have start : step * size < items.length := by
    have whole : (step + 1) * size ≤ items.length + size - 1 :=
      (Nat.le_div_iff_mul_le positive).mp below
    rw [Nat.succ_mul] at whole
    omega
  refine ⟨List.length_take_le _ _, List.ne_nil_of_length_pos ?_⟩
  rw [List.length_take, List.length_drop]
  omega

end Chunks

def headers : List String :=
  ["Date", "Amount", "Payee", "Description", "Category", "Source account", "Destination account",
    "Tags", "Notes"]

def toRow (record : BankRecord) : List (String × Option String) :=
  [("Date", some record.date.isoformat), ("Amount", some record.amount.twoPlaces),
    ("Payee", record.recipient), ("Description", record.details), ("Category", some ""),
    ("Source account", some "Bank"), ("Destination account", record.recipient), ("Tags", some ""),
    ("Notes", some "")]

-- `DictWriter` puts the cells in the order of its field names, and writes nothing for `None`.
def cells (row : List (String × Option String)) : Csv.Row :=
  headers.map fun header => ((row.lookup header).join.getD "").toList

def renderCsv (records : List BankRecord) : List Char :=
  Csv.write ';' (headers.map String.toList :: records.map fun record => cells (toRow record))

structure ArchiveMember where
  name : String
  content : List Char

-- `ZipFile` cuts a name at the first null character.
def zipName (name : String) : String := String.ofList (name.toList.takeWhile (· ≠ '\x00'))

def exportChunks (chunkSize : Int) (records : List BankRecord) : List (List BankRecord) :=
  let chunks := chunksOf (max 1 chunkSize).toNat records
  if chunks.isEmpty then [[]] else chunks

section Archive

-- `date.strftime("%Y%m%d")`: how it writes years of less than four digits depends on the platform.
variable (strftime : Date → String)

def buildExportName (fileId : String) (records : List BankRecord) : String :=
  let shortFileId := String.ofList (fileId.toList.take 6)
  match records.head?, records.getLast? with
  | some first, some last =>
      "citi_" ++ shortFileId ++ "_" ++ strftime first.date ++ "_" ++ strftime last.date
  | _, _ => "citi_" ++ shortFileId

def exportZip (fileId : String) (records : List BankRecord) (chunkSize : Int) : List ArchiveMember :=
  let exportName := buildExportName strftime fileId records
  let chunks := exportChunks chunkSize records
  (chunks.zipIdx 1).map fun (chunk, index) =>
    let suffix := if 1 < chunks.length then "_" ++ toString index else ""
    { name := zipName (exportName ++ suffix ++ ".csv"), content := renderCsv chunk }

end Archive

-- `csv.DictReader`
def readRows (content : List Char) : List (List (String × String)) :=
  match Csv.read ';' content with
  | [] => []
  | header :: rows => rows.map fun row => (header.map String.ofList).zip (row.map String.ofList)

structure Tells (tables : UnicodeTables) (record : BankRecord) (row : List (String × String)) : Prop where
  date : row.lookup "Date" = some record.date.isoformat
  amount : ∃ text number, row.lookup "Amount" = some text ∧
    Numerals.decimalNumber tables text.toList = some number ∧ number.numEq record.amount = true
  payee : row.lookup "Payee" = some (record.recipient.getD "")
  description : row.lookup "Description" = some (record.details.getD "")

def rowOf (record : BankRecord) : List (String × String) :=
  headers.zip ((cells (toRow record)).map String.ofList)

theorem readRows_renderCsv (records : List BankRecord) :
    readRows (renderCsv records) = records.map rowOf := by
  have shape : Csv.IsDelimiter ';' := ⟨by decide, by decide, by decide⟩
  have names : (headers.map String.toList).map String.ofList = headers := by
    simp [List.map_map, Function.comp_def]
  rw [readRows, renderCsv, Csv.read_write shape]
  simp only [names, List.map_map]
  rfl

theorem tells_rowOf (tables : UnicodeTables) {record : BankRecord} (whole : record.amount.WholeCents) :
    Tells tables record (rowOf record) := by
  obtain ⟨number, read, equal⟩ := Decimal.twoPlaces_wholeCents tables whole
  have row : rowOf record = (toRow record).map fun field => (field.1, field.2.getD "") := by
    rw [rowOf, cells, List.map_map]
    simp only [Function.comp_def, String.ofList_toList]
    rfl
  rw [row]
  exact ⟨rfl, ⟨_, number, rfl, read, equal⟩, rfl, rfl⟩

section Archive

variable {strftime : Date → String} {fileId : String} {chunkSize : Int} {records : List BankRecord}

theorem flatten_exportChunks (chunkSize : Int) (records : List BankRecord) :
    (exportChunks chunkSize records).flatten = records := by
  have positive : 0 < (max 1 chunkSize).toNat := by omega
  have whole := chunksOf_flatten positive records
  unfold exportChunks
  dsimp only
  split_ifs with none
  · rw [List.isEmpty_iff.mp none] at whole
    exact whole
  · exact whole

theorem length_of_mem_exportChunks {chunk : List BankRecord} (member : chunk ∈ exportChunks chunkSize records) :
    (chunk.length : Int) ≤ max 1 chunkSize ∧ (records ≠ [] → chunk ≠ []) := by
  have positive : 0 < (max 1 chunkSize).toNat := by omega
  have whole := chunksOf_flatten positive records
  unfold exportChunks at member
  dsimp only at member
  split_ifs at member with none
  · obtain rfl : chunk = [] := by simpa using member
    rw [List.isEmpty_iff.mp none] at whole
    exact ⟨by simp, fun some => absurd whole.symm some⟩
  · obtain ⟨short, some⟩ := length_of_mem_chunksOf positive member
    exact ⟨by omega, fun _ => some⟩

theorem contents_exportZip : (exportZip strftime fileId records chunkSize).map ArchiveMember.content =
    (exportChunks chunkSize records).map renderCsv := by
  rw [exportZip, List.map_map]
  have contents : ((exportChunks chunkSize records).zipIdx 1).map (renderCsv ∘ Prod.fst) =
      (exportChunks chunkSize records).map renderCsv := by
    rw [← List.map_map, List.zipIdx_map_fst]
  exact contents

theorem mem_exportZip {file : ArchiveMember} (member : file ∈ exportZip strftime fileId records chunkSize) :
    ∃ chunk ∈ exportChunks chunkSize records, readRows file.content = chunk.map rowOf := by
  have inContents := List.mem_map_of_mem (f := ArchiveMember.content) member
  rw [contents_exportZip] at inContents
  obtain ⟨chunk, inChunks, same⟩ := List.mem_map.mp inContents
  exact ⟨chunk, inChunks, by rw [← same, readRows_renderCsv]⟩

theorem rows_exportZip : (exportZip strftime fileId records chunkSize).flatMap
    (fun file => readRows file.content) = records.map rowOf := by
  have files : (exportZip strftime fileId records chunkSize).map (fun file => readRows file.content) =
      (exportChunks chunkSize records).map (List.map rowOf) := by
    have contents : (exportZip strftime fileId records chunkSize).map ArchiveMember.content =
        (exportChunks chunkSize records).map renderCsv := contents_exportZip
    have read := congrArg (List.map readRows) contents
    simpa [List.map_map, Function.comp_def, readRows_renderCsv] using read
  rw [List.flatMap_def, files, ← List.map_flatten, flatten_exportChunks]

end Archive

def paddedYmd (date : Date) : String := padZeros 4 date.year ++ padZeros 2 date.month ++ padZeros 2 date.day

end Citi

end FireflyToolkit
