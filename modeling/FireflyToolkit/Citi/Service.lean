import FireflyToolkit.Allegro.Router
import FireflyToolkit.Citi.Encodings
import FireflyToolkit.Domain.UuidTexts

set_option autoImplicit false

namespace FireflyToolkit.Citi

open Allegro (HTTPException internalServerError)
open Numerals OrderedDict PyText Transition
open PyBuiltins (bind_eq_ok)

section Service

variable (tables : UnicodeTables) (strftime : Date → String)

def validateFileId (fileId : String) : Except PyError Unit :=
  match uuidOf tables fileId with
  | some _ => .ok ()
  | none => .error (.application .invalidFileId fileId)

-- The text of the identifier is the key, however its UUID is spelt.
def CitiImportStore.get (store : CitiImportStore) (fileId : String) : Except PyError CitiImportFile := do
  validateFileId tables fileId
  match store.files.get? fileId with
  | some entry => .ok entry
  | none => .error (.application .fileNotFound "")

def isTextName (filename : String) : Bool := decide (".txt".toList <:+ tables.lower filename.toList)

-- A file without a name is taken for a text.
def refusedName (filename : Option String) : Bool :=
  filename.any fun name => name ≠ "" && !isTextName tables name

def uploadTextFile (store : CitiImportStore) (fresh : UUID) (filename : Option String)
    (fileBytes : List Nat) (includePositive : Bool) (chunkSize : Int) :
    Except PyError (CitiImportStore × CitiParsePreview) :=
  if refusedName tables filename then
    .error (.application .invalidFileFormat "Only .txt files are supported")
  else
    parseText tables store fresh (String.ofList (decodeText fileBytes)) includePositive chunkSize filename

def getFile (store : CitiImportStore) (fileId : String) : Except PyError CitiParsePreview := do
  let entry ← store.get tables fileId
  return buildPreview entry.fileId entry.records entry.warnings

structure CitiExportPayload where
  filename : String
  mediaType : String
  content : List ArchiveMember

def exportCsvZip (store : CitiImportStore) (fileId : String) : Except PyError CitiExportPayload := do
  let entry ← store.get tables fileId
  let exportName := buildExportName strftime fileId entry.records
  return {
    filename := exportName ++ ".zip"
    mediaType := "application/zip"
    content := exportZip strftime fileId entry.records entry.chunkSize }

-- The bounds that FastAPI checks before the handler runs.
abbrev ChunkSize := { size : Int // 1 ≤ size ∧ size ≤ 1000 }

-- What `uuid4` draws.
abbrev DrawnId := { id : UUID // id.value < 2 ^ 128 }

inductive Request
  | upload (fresh : DrawnId) (filename : Option String) (fileBytes : List Nat) (includePositive : Bool)
      (chunkSize : ChunkSize)
  | parseText (fresh : DrawnId) (text : String) (includePositive : Bool) (chunkSize : ChunkSize)
  | getFile (fileId : String)
  | exportCsv (fileId : String)

def Request.drawn : Request → Option DrawnId
  | .upload fresh _ _ _ _ | .parseText fresh _ _ _ => some fresh
  | .getFile _ | .exportCsv _ => none

inductive Reply
  | preview (response : CitiImportParseResponse)
  | archive (payload : CitiExportPayload)

def uploadHttpError : PyError → HTTPException
  | .application .invalidFileFormat message => ⟨400, message⟩
  | _ => internalServerError

def fileHttpError : PyError → HTTPException
  | .application .invalidFileId message => ⟨400, message⟩
  | .application .fileNotFound _ => ⟨404, "File not found"⟩
  | _ => internalServerError

def imported (httpError : PyError → HTTPException) (store : CitiImportStore)
    (made : Except PyError (CitiImportStore × CitiParsePreview)) :
    CitiImportStore × Except HTTPException Reply :=
  match made with
  | .ok (next, result) =>
      match mapPreviewToResponse result with
      | .ok response => (next, .ok (.preview response))
      | .error error => (next, .error (httpError error))
  | .error error => (store, .error (httpError error))

def uploadCitiText (store : CitiImportStore) (fresh : UUID) (filename : Option String)
    (content : List Nat) (includePositive : Bool) (chunkSize : Int) :
    CitiImportStore × Except HTTPException Reply :=
  imported uploadHttpError store
    (uploadTextFile tables store fresh filename content includePositive chunkSize)

def parseCitiText (store : CitiImportStore) (fresh : UUID) (text : String) (includePositive : Bool)
    (chunkSize : Int) : CitiImportStore × Except HTTPException Reply :=
  imported (fun _ => internalServerError) store
    (parseText tables store fresh text includePositive chunkSize none)

def getCitiFile (store : CitiImportStore) (fileId : String) : Except HTTPException Reply :=
  match getFile tables store fileId with
  | .ok result =>
      match mapPreviewToResponse result with
      | .ok response => .ok (.preview response)
      | .error error => .error (fileHttpError error)
  | .error error => .error (fileHttpError error)

def exportCitiCsv (store : CitiImportStore) (fileId : String) : Except HTTPException Reply :=
  match exportCsvZip tables strftime store fileId with
  | .ok payload => .ok (.archive payload)
  | .error error => .error (fileHttpError error)

def handle (store : CitiImportStore) : Request → CitiImportStore × Except HTTPException Reply
  | .upload fresh filename fileBytes includePositive chunkSize =>
      uploadCitiText tables store fresh filename fileBytes includePositive chunkSize
  | .parseText fresh text includePositive chunkSize =>
      parseCitiText tables store fresh text includePositive chunkSize
  | .getFile fileId => (store, getCitiFile tables store fileId)
  | .exportCsv fileId => (store, exportCitiCsv tables strftime store fileId)

-- The store of the process after these requests; no handler gives way to another.
def storeAfter (requests : List Request) : CitiImportStore :=
  requests.foldl (fun store request => (handle tables strftime store request).1) ⟨Dict.empty⟩

def previewOf (entry : CitiImportFile) : Except PyError CitiImportParseResponse :=
  mapPreviewToResponse (buildPreview entry.fileId entry.records entry.warnings)

def archiveOf (entry : CitiImportFile) : CitiExportPayload where
  filename := buildExportName strftime entry.fileId entry.records ++ ".zip"
  mediaType := "application/zip"
  content := exportZip strftime entry.fileId entry.records entry.chunkSize

def Makes (request : Request) (entry : CitiImportFile) : Prop :=
  ∃ response, previewOf entry = .ok response ∧
    ∀ store, handle tables strftime store request = (store.create entry, .ok (.preview response))

def Latest (requests : List Request) (fileId : String) (entry : CitiImportFile) : Prop :=
  ∃ before request after, requests = before ++ request :: after ∧
    Makes tables strftime request entry ∧ entry.fileId = fileId ∧
    ∀ later ∈ after, ∀ other, Makes tables strftime later other → other.fileId ≠ fileId

end Service

section Runs

variable {tables : UnicodeTables} {strftime : Date → String} {request : Request}
  {requests : List Request} {store : CitiImportStore} {fileId : String} {entry : CitiImportFile}

theorem parseText_made {rawText : String} {includePositive : Bool} {chunkSize : Int}
    {sourceName : Option String} {fresh : UUID} :
    (∃ (entry : CitiImportFile) (response : CitiImportParseResponse), entry.fileId = fresh.str ∧
        previewOf entry = .ok response ∧ ∀ store,
        parseText tables store fresh rawText includePositive chunkSize sourceName =
          .ok (store.create entry, buildPreview entry.fileId entry.records entry.warnings)) ∨
      ∃ error, ∀ store,
        parseText tables store fresh rawText includePositive chunkSize sourceName = .error error := by
  cases parsed : parse tables rawText includePositive with
  | error error => exact .inr ⟨error, fun store => by rw [parseText, parsed]; rfl⟩
  | ok result =>
    cases made : toBankRecords tables result.transactions with
    | error error =>
      refine .inr ⟨error, fun store => ?_⟩
      rw [parseText, parsed]
      exact PyBuiltins.bind_eq_error.mpr (.inr ⟨result, rfl, PyBuiltins.bind_eq_error.mpr (.inl made)⟩)
    | ok records =>
      obtain ⟨response, shown⟩ := mapPreviewToResponse_stored parsed made fresh.str
      exact .inl ⟨⟨fresh.str, records, result.warnings, chunkSize, includePositive, sourceName⟩, response,
        rfl, shown, fun store => parseText_eq_ok.mpr ⟨result, records, parsed, made, rfl, rfl⟩⟩

theorem handle_upload {filename : Option String} (taken : refusedName tables filename = false)
    (fresh : DrawnId) (fileBytes : List Nat) (includePositive : Bool) (chunkSize : ChunkSize)
    (store : CitiImportStore) :
    handle tables strftime store (.upload fresh filename fileBytes includePositive chunkSize) =
      imported uploadHttpError store
        (parseText tables store fresh (String.ofList (decodeText fileBytes)) includePositive chunkSize
          filename) := by
  rw [handle, uploadCitiText, uploadTextFile, taken]
  rfl

theorem imported_made {httpError : PyError → HTTPException} {rawText : String} {includePositive : Bool}
    {chunkSize : Int} {sourceName : Option String} (fresh : DrawnId) :
    (∃ (entry : CitiImportFile) (response : CitiImportParseResponse), entry.fileId = fresh.val.str ∧
        previewOf entry = .ok response ∧ ∀ store,
        imported httpError store
            (parseText tables store fresh rawText includePositive chunkSize sourceName) =
          (store.create entry, .ok (.preview response))) ∨
      ∀ store, (imported httpError store
        (parseText tables store fresh rawText includePositive chunkSize sourceName)).1 = store := by
  rcases @parseText_made tables rawText includePositive chunkSize sourceName fresh with
    ⟨entry, response, drawn, shown, made⟩ | ⟨error, refused⟩
  · unfold previewOf at shown
    exact .inl ⟨entry, response, drawn, shown, fun store => by rw [made store]; simp only [imported, shown]⟩
  · exact .inr fun store => by rw [refused store]; rfl

theorem handle_cases (tables : UnicodeTables) (strftime : Date → String) (request : Request) :
    (∃ fresh entry, request.drawn = some fresh ∧ entry.fileId = fresh.val.str ∧
        Makes tables strftime request entry) ∨
      ∀ store, (handle tables strftime store request).1 = store := by
  cases request with
  | upload fresh filename fileBytes includePositive chunkSize =>
    by_cases refused : refusedName tables filename = true
    · refine .inr fun store => ?_
      rw [handle, uploadCitiText, uploadTextFile, if_pos refused]
      rfl
    · simp only [Makes, handle_upload (Bool.eq_false_of_not_eq_true refused)]
      exact (imported_made fresh).imp (fun ⟨entry, response, drawn, shown, made⟩ =>
        ⟨fresh, entry, rfl, drawn, response, shown, made⟩) id
  | parseText fresh text includePositive chunkSize =>
    exact (imported_made fresh).imp (fun ⟨entry, response, drawn, shown, made⟩ =>
        ⟨fresh, entry, rfl, drawn, response, shown, made⟩) id
  | getFile fileId => exact .inr fun store => rfl
  | exportCsv fileId => exact .inr fun store => rfl

theorem makes_stores (makes : Makes tables strftime request entry) (store : CitiImportStore) :
    (handle tables strftime store request).1.files.get? fileId =
      if fileId = entry.fileId then some entry else store.files.get? fileId := by
  obtain ⟨response, -, answered⟩ := makes
  rw [answered store]
  exact Dict.get?_set store.files entry.fileId fileId entry

theorem Makes.unique {other : CitiImportFile} (makes : Makes tables strftime request entry)
    (also : Makes tables strftime request other) : other = entry := by
  have stored := @makes_stores tables strftime request entry.fileId other also ⟨Dict.empty⟩
  rw [makes_stores makes, if_pos rfl] at stored
  split_ifs at stored
  · exact (Option.some.inj stored).symm
  · simp at stored

theorem latest_snoc : Latest tables strftime (requests ++ [request]) fileId entry ↔
    (Makes tables strftime request entry ∧ entry.fileId = fileId) ∨
      (Latest tables strftime requests fileId entry ∧
        ∀ other, Makes tables strftime request other → other.fileId ≠ fileId) := by
  constructor
  · rintro ⟨before, own, after, split, makes, named, later⟩
    rcases List.eq_nil_or_concat after with rfl | ⟨rest, last, rfl⟩
    · obtain ⟨-, same⟩ := List.append_inj' split rfl
      obtain rfl := List.singleton_inj.mp same
      exact .inl ⟨makes, named⟩
    · rw [List.concat_eq_append, ← List.cons_append, ← List.append_assoc] at split
      obtain ⟨rfl, same⟩ := List.append_inj' split rfl
      obtain rfl := List.singleton_inj.mp same
      rw [List.concat_eq_append, List.forall_mem_append] at later
      exact .inr ⟨⟨before, own, rest, rfl, makes, named, later.1⟩, later.2 request (by simp)⟩
  · rintro (⟨makes, named⟩ | ⟨⟨before, own, after, rfl, makes, named, later⟩, other⟩)
    · exact ⟨requests, request, [], rfl, makes, named, by simp⟩
    · refine ⟨before, own, after ++ [request], by simp, makes, named, ?_⟩
      exact List.forall_mem_append.mpr ⟨later, by simpa using other⟩

theorem get?_storeAfter (requests : List Request) :
    (storeAfter tables strftime requests).files.get? fileId = some entry ↔
      Latest tables strftime requests fileId entry := by
  induction requests using List.reverseRecOn generalizing entry with
  | nil => simp [storeAfter, Latest]
  | append_singleton past request ih =>
    have after : storeAfter tables strftime (past ++ [request]) =
        (handle tables strftime (storeAfter tables strftime past) request).1 := by
      simp [storeAfter]
    rw [latest_snoc, ← ih, after]
    rcases handle_cases tables strftime request with ⟨-, made, -, -, makes⟩ | idle
    · rw [makes_stores makes]
      split_ifs with same
      · constructor
        · rintro ⟨rfl⟩
          exact .inl ⟨makes, same.symm⟩
        · rintro (⟨also, -⟩ | ⟨-, other⟩)
          · rw [makes.unique also]
          · exact absurd same.symm (other made makes)
      · constructor
        · refine fun found => .inr ⟨found, fun other also named => same ?_⟩
          rw [← named, makes.unique also]
        · rintro (⟨also, named⟩ | ⟨found, -⟩)
          · exact absurd (by rw [← named, makes.unique also]) same
          · exact found
    · have none : ∀ other, ¬ Makes tables strftime request other := by
        intro other makes
        have stored := @makes_stores tables strftime request other.fileId other makes ⟨Dict.empty⟩
        rw [idle] at stored
        simp at stored
      rw [idle]
      simp [none]

theorem Makes.named (makes : Makes tables strftime request entry) :
    ∃ fresh, request.drawn = some fresh ∧ entry.fileId = fresh.val.str := by
  rcases handle_cases tables strftime request with ⟨fresh, made, drawn, named, also⟩ | idle
  · exact ⟨fresh, drawn, makes.unique also ▸ named⟩
  · have stored := @makes_stores tables strftime request entry.fileId entry makes ⟨Dict.empty⟩
    rw [idle] at stored
    simp at stored

theorem answers_found {response : CitiImportParseResponse} (found : store.get tables fileId = .ok entry)
    (named : entry.fileId = fileId) (shown : previewOf entry = .ok response) :
    getCitiFile tables store fileId = .ok (.preview response) ∧
      exportCitiCsv tables strftime store fileId = .ok (.archive (archiveOf strftime entry)) := by
  subst named
  unfold previewOf at shown
  rw [getCitiFile, getFile, exportCitiCsv, exportCsvZip, found]
  refine ⟨?_, rfl⟩
  simp only [bind, Except.bind, pure, Except.pure, shown]

theorem latest_answered (latest : Latest tables strftime requests fileId entry) : ∃ response,
    previewOf entry = .ok response ∧
      getCitiFile tables (storeAfter tables strftime requests) fileId = .ok (.preview response) ∧
      exportCitiCsv tables strftime (storeAfter tables strftime requests) fileId =
        .ok (.archive (archiveOf strftime entry)) := by
  have found := (get?_storeAfter requests).mpr latest
  obtain ⟨_, _, _, _, makes, named, _⟩ := latest
  obtain ⟨fresh, -, drawn⟩ := makes.named
  have valid : uuidOf tables fileId = some fresh := by
    rw [← named, drawn]
    exact uuidOf_parse (UUID.parse_str fresh.property)
  obtain ⟨response, shown, -⟩ := makes
  refine ⟨response, shown, answers_found ?_ named shown⟩
  rw [CitiImportStore.get, validateFileId, valid, found]
  rfl

end Runs

end FireflyToolkit.Citi
