import FireflyToolkit.Blik.Statements
import FireflyToolkit.Blik.Uploads
import FireflyToolkit.Shared.Transition

set_option autoImplicit false

namespace FireflyToolkit.Blik

open BankCSVReader (Statement StatementRow readFile)
open PosixPaths PyText Transition
open PyBuiltins (bind_eq_ok mapM_eq_ok mapM_ok_iff)

def ReadsFiles (tables : UnicodeTables) (read : List Nat → Except PyError (List BankRecord)) : Prop :=
  ∀ bytes records, BankCSVReader.parse tables bytes = .ok records → read bytes = .ok records

theorem readFile_reads {tables : UnicodeTables} : ReadsFiles tables (readFile tables) := by
  intro bytes records parsed
  rw [readFile, parsed]
  rfl

structure UploadLabel where
  stem : List Char
  fileBytes : List Nat

def UploadLabel.path (files : Files) (label : UploadLabel) : List Char :=
  join files.tempDir.path (csvName label.stem)

-- `NamedTemporaryFile` chooses a name that no file has.
def uploadMachine (read : List Nat → Except PyError (List BankRecord)) : Machine Files UploadLabel where
  step files label :=
    if SafeName label.stem ∧ files.present (label.path files) = false then
      some (uploadCsv read files label.stem label.fileBytes).1
    else none

structure Uploaded (read : List Nat → Except PyError (List BankRecord)) (start : Files)
    (past : List UploadLabel) (files : Files) : Prop where
  directory : files.tempDir = start.tempDir
  safe : ∀ label ∈ past, SafeName label.stem
  present : ∀ label ∈ past, files.present (label.path start) = true
  parsed : ∀ label ∈ past, files.parse (label.path start) = read label.fileBytes

theorem filePreviewOf_ok {encodedId decoded : String} {records : List BankRecord}
    (shown : ∀ record ∈ records, Shows record) :
    ∃ preview, filePreviewOf encodedId decoded records = .ok preview ∧
      preview.content.length = records.length := by
  obtain ⟨content, mapped⟩ := mapM_ok_iff.mpr fun record member =>
    (@simplified_ok_iff record none).mpr (shown record member)
  exact ⟨_, bind_eq_ok.mpr ⟨content, mapped, rfl⟩, (mapM_eq_ok.mp mapped).length_eq.symm⟩

theorem row_shows (row : StatementRow) : Shows row.record :=
  ⟨by simp [textFields, StatementRow.record], rfl, rfl⟩

section Runs

variable {read : List Nat → Except PyError (List BankRecord)} {start final : Files}
  {labels : List UploadLabel}

theorem uploaded_step {past : List UploadLabel} {files next : Files} {label : UploadLabel}
    (uploaded : Uploaded read start past files)
    (stepped : (uploadMachine read).step files label = some next) :
    Uploaded read start (past ++ [label]) next := by
  simp only [uploadMachine, Option.ite_none_right_eq_some, Option.some.injEq] at stepped
  obtain ⟨⟨safe, absent⟩, rfl⟩ := stepped
  have same : label.path files = label.path start := by
    rw [UploadLabel.path, uploaded.directory, UploadLabel.path]
  have other : ∀ earlier ∈ past, earlier.path start ≠ label.path files := by
    intro earlier member equal
    have taken := uploaded.present earlier member
    rw [equal, absent] at taken
    cases taken
  refine ⟨uploaded.directory, ?_, ?_, ?_⟩
  · exact List.forall_mem_append.mpr ⟨uploaded.safe, by simpa using safe⟩
  · refine List.forall_mem_append.mpr ⟨fun earlier member => ?_, ?_⟩
    · exact (if_neg (other earlier member)).trans (uploaded.present earlier member)
    · rw [List.forall_mem_singleton, ← same]
      exact if_pos rfl
  · refine List.forall_mem_append.mpr ⟨fun earlier member => ?_, ?_⟩
    · exact (if_neg (other earlier member)).trans (uploaded.parsed earlier member)
    · rw [List.forall_mem_singleton, ← same]
      exact if_pos rfl

theorem uploaded_run (reached : (uploadMachine read).run start labels = some final) :
    Uploaded read start labels final :=
  Machine.trace_invariant (fun _ _ _ _ uploaded stepped => uploaded_step uploaded stepped)
    ⟨rfl, by simp, by simp, by simp⟩ reached

-- Whatever else is uploaded, an upload of a statement counts its rows, and the identifier that it
-- answers leads both previews to their records; that of the file shows them all.
theorem statements_previewed (tables : UnicodeTables)
    (reads : ReadsFiles tables read) (reached : (uploadMachine read).run start labels = some final)
    (stem : List Char) (statement : Statement)
    (uploaded : ⟨stem, Utf8.encode statement.text⟩ ∈ labels) :
    ∃ response, response.count = statement.rows.length ∧
      (∀ files, (uploadCsv read files stem (Utf8.encode statement.text)).2 = .ok response) ∧
      (∃ preview, (previewCsv final response.id).outcome = .ok preview ∧
        preview.content.length = statement.rows.length) ∧
      ∀ (digest : String → String) (settings : Settings) (reader : FireflyReader) (store : StateStore),
        Identified digest settings reader store final response.id stem
          (statement.rows.map StatementRow.record) := by
  have kept := uploaded_run reached
  have records : read (Utf8.encode statement.text) = .ok (statement.rows.map StatementRow.record) :=
    reads _ _ statement.parse_text
  have safe := kept.safe _ uploaded
  have present := kept.present _ uploaded
  have parsed := (kept.parsed _ uploaded).trans records
  rw [UploadLabel.path, ← kept.directory] at present parsed
  let encodedId := String.ofList (encodeBase64url stem)
  have decoded : decodeBase64url encodedId.toList = .ok stem := by
    rw [String.toList_ofList, decodeBase64url_encodeBase64url]
  have located := locate_ok_iff.mpr ⟨decoded, safe.accepted, rfl, present⟩
  refine ⟨⟨_, _, encodedId⟩, List.length_map _, uploadCsv_answer safe records, ?_, ?_⟩
  · obtain ⟨preview, answered, complete⟩ := @filePreviewOf_ok encodedId (String.ofList stem)
      (statement.rows.map StatementRow.record) (List.forall_mem_map.mpr fun row _ => row_shows row)
    refine ⟨preview, ?_, complete.trans (List.length_map _)⟩
    rw [previewCsv_located located parsed, answered]
  · exact fun digest settings reader store => identified decoded safe present parsed

end Runs

theorem statements_previewed_shop : ∃ (response : UploadResponse) (final : Files) (preview : _),
    response.count = 1 ∧ (previewCsv final response.id).outcome = .ok preview ∧
      preview.content.length = 1 := by
  let label : UploadLabel := ⟨"tmp_a1b2c3d".toList, Utf8.encode BankCSVReader.Sample.shopStatement.text⟩
  have free : SafeName label.stem ∧
      (Sample.filesOf []).present (label.path (Sample.filesOf [])) = false := ⟨by decide, rfl⟩
  have stepped : (uploadMachine (readFile plainTables)).step (Sample.filesOf []) label =
      some (uploadCsv (readFile plainTables) (Sample.filesOf []) label.stem label.fileBytes).1 := by
    dsimp only [uploadMachine]
    rw [if_pos free]
  have reached := Machine.run_cons.mpr ⟨_, stepped, Machine.run_nil _⟩
  obtain ⟨response, count, -, ⟨preview, answered, complete⟩, -⟩ := statements_previewed plainTables
    readFile_reads reached "tmp_a1b2c3d".toList BankCSVReader.Sample.shopStatement
    (List.mem_singleton_self _)
  exact ⟨response, _, preview, count, answered, complete⟩

end FireflyToolkit.Blik
