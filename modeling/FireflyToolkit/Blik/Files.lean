import FireflyToolkit.Allegro.Router
import FireflyToolkit.Jobs.Previews
import FireflyToolkit.Shared.Base64
import FireflyToolkit.Shared.PosixPaths
import FireflyToolkit.Shared.PyText
import FireflyToolkit.Shared.Utf8

set_option autoImplicit false

namespace FireflyToolkit.Blik

open Allegro (HTTPException internalServerError)
open PosixPaths PyText
open PyBuiltins (bind_eq_ok)

def urlsafe : Char → Char
  | '-' => '+'
  | '_' => '/'
  | character => character

-- The exceptions of the decoders are kinds of `ValueError`.
def urlsafeB64decode (text : List Char) : Except PyError (List Nat) :=
  if text.any fun character => 128 ≤ character.toNat then
    .error (.valueError "string argument should contain only ASCII characters")
  else (Base64.decode (text.map urlsafe)).mapError .valueError

def padded (text : List Char) : List Char :=
  let missing := text.length % 4
  if missing = 0 then text else text ++ List.replicate (4 - missing) '='

def decodeBase64url (text : List Char) : Except PyError (List Char) := do
  let bytes ← urlsafeB64decode (padded (strip text))
  (Utf8.decode bytes).mapError .valueError

def validateFileId (decoded : List Char) : Except PyError Unit :=
  if '/' ∈ decoded ∨ ['.', '.'] <:+: decoded then
    .error (.application .invalidFileId "Invalid file id")
  else .ok ()

def isNameCharacter (character : Char) : Bool :=
  character.isAlphanum || character == '_' || character == '-'

def SafeName (name : List Char) : Prop :=
  name ≠ [] ∧ name.all isNameCharacter = true

instance (name : List Char) : Decidable (SafeName name) := inferInstanceAs (Decidable (_ ∧ _))

-- `SAFE_NAME_RE.match`: the dollar sign also stands before a line feed at the end.
def SafeMatch (decoded : List Char) : Prop := SafeName (removeSuffix ['\n'] decoded)

instance (decoded : List Char) : Decidable (SafeMatch decoded) := inferInstanceAs (Decidable (SafeName _))

-- The file system: the directory for temporary files, the working directory, the paths that exist,
-- and what `BankCSVReader` reads of one.
structure Files where
  tempDir : Directory
  cwd : List Char
  present : List Char → Bool
  parse : List Char → Except PyError (List BankRecord)

def csvName (decoded : List Char) : List Char := decoded ++ ['.', 'c', 's', 'v']

def resolveCsvPath (files : Files) (decoded : List Char) : Except PyError (List Char) :=
  if ¬ SafeMatch decoded then .error (.application .fileNotFound "Invalid file identifier")
  else
    let fullPath := normpath (join files.tempDir.path (csvName decoded))
    if ¬ abspath files.cwd files.tempDir.path <+: fullPath then
      .error (.application .fileNotFound "Invalid file path")
    else if files.present fullPath = false then .error (.application .fileNotFound "File not found")
    else .ok fullPath

def locate (files : Files) (encodedId : String) : Except PyError (List Char × List Char) := do
  let decoded ← decodeBase64url encodedId.toList
  validateFileId decoded
  let path ← resolveCsvPath files decoded
  .ok (decoded, path)

structure FileAccess (α : Type) where
  opened : List (List Char)
  outcome : Except PyError α

structure FilePreviewResponse where
  fileId : String
  decodedName : String
  size : Nat
  content : List SimplifiedRecord

def filePreviewOf (encodedId decoded : String) (recordsDomain : List BankRecord) :
    Except PyError FilePreviewResponse := do
  let records ← mapBankRecordsToSimplified recordsDomain
  .ok { fileId := encodedId, decodedName := decoded, size := records.length, content := records }

def previewCsv (files : Files) (encodedId : String) : FileAccess FilePreviewResponse :=
  match locate files encodedId with
  | .error failure => ⟨[], .error failure⟩
  | .ok (decoded, path) =>
      ⟨[path], do
        let recordsDomain ← files.parse path
        filePreviewOf encodedId (String.ofList decoded) recordsDomain⟩

section Matches

variable (digest : String → String) (settings : Settings) (reader : FireflyReader) (store : StateStore)

def previewFileMatches (files : Files) (encodedId : String) :
    StateStore × FileAccess FileMatchResponse :=
  match locate files encodedId with
  | .error failure => (store, ⟨[], .error failure⟩)
  | .ok (decoded, path) =>
      match files.parse path with
      | .error failure => (store, ⟨[path], .error failure⟩)
      | .ok csvRecords =>
          let (next, outcome) := previewMatches digest settings store reader encodedId
            (String.ofList decoded) csvRecords
          (next, ⟨[path], outcome⟩)

end Matches

def previewCsvHttpError : PyError → HTTPException
  | .application .invalidFileId message => ⟨400, message⟩
  | .application .fileNotFound _ => ⟨404, "File not found"⟩
  | _ => internalServerError

def previewMatchesHttpError : PyError → HTTPException
  | .application .invalidFileId message => ⟨400, message⟩
  | .application .fileNotFound _ => ⟨404, "File not found"⟩
  | .application .externalServiceFailed message => ⟨502, message⟩
  | _ => internalServerError

def Reported (failure : PyError) : Prop :=
  ∃ message, failure = .application .invalidFileId message ∨
    failure = .application .fileNotFound message

-- The routes answer 400 or 404 to these, and to no other exception.
theorem reported_iff (failure : PyError) :
    (Reported failure ↔ (previewCsvHttpError failure).statusCode = 400 ∨
      (previewCsvHttpError failure).statusCode = 404) ∧
    (Reported failure ↔ (previewMatchesHttpError failure).statusCode = 400 ∨
      (previewMatchesHttpError failure).statusCode = 404) := by
  cases failure with
  | application kind message =>
    cases kind <;>
      simp [Reported, previewCsvHttpError, previewMatchesHttpError, internalServerError]
  | _ => simp [Reported, previewCsvHttpError, previewMatchesHttpError, internalServerError]

def base64Of (encodedId : List Char) : List Char := (padded (strip encodedId)).map urlsafe

structure Decodes (encodedId : List Char) : Prop where
  ascii : ∀ character ∈ strip encodedId, character.toNat < 128
  complete : Base64.Complete (base64Of encodedId)
  utf8 : ∃ name, Utf8.encode name = Base64.bytesOf (Base64.dataOf (base64Of encodedId))

section Decoding

variable {α : Type} {encodedId decoded : List Char}

theorem mapError_ok_iff {message : Except String α} {answer : α} :
    message.mapError PyError.valueError = .ok answer ↔ message = .ok answer := by
  cases message <;> simp [Except.mapError]

theorem mapError_error {message : Except String α} {failure : PyError}
    (failed : message.mapError PyError.valueError = .error failure) :
    ∃ text, failure = .valueError text := by
  cases message with
  | error text => exact ⟨text, (Except.error.inj failed).symm⟩
  | ok answer => cases failed

theorem padded_ascii (text : List Char) :
    ((padded text).any fun character => 128 ≤ character.toNat) =
      text.any fun character => 128 ≤ character.toNat := by
  have equals : ∀ count, (List.replicate count '=').any (fun character => 128 ≤ character.toNat) =
      false := by
    intro count
    simp
  unfold padded
  dsimp only
  split_ifs
  · rfl
  · rw [List.any_append, equals, Bool.or_false]

theorem urlsafeB64decode_ok_iff {bytes : List Nat} :
    urlsafeB64decode (padded (strip encodedId)) = .ok bytes ↔
      (∀ character ∈ strip encodedId, character.toNat < 128) ∧
        Base64.Complete (base64Of encodedId) ∧
          Base64.bytesOf (Base64.dataOf (base64Of encodedId)) = bytes := by
  rw [urlsafeB64decode, padded_ascii]
  split_ifs with large
  · have notAscii : ¬ ∀ character ∈ strip encodedId, character.toNat < 128 := by
      simpa using large
    simp [notAscii]
  · have ascii : ∀ character ∈ strip encodedId, character.toNat < 128 := by
      simpa using large
    rw [mapError_ok_iff, Base64.decode_ok_iff, base64Of]
    exact ⟨fun whole => ⟨ascii, whole⟩, fun whole => whole.2⟩

theorem decodeBase64url_ok_iff : decodeBase64url encodedId = .ok decoded ↔
    (∀ character ∈ strip encodedId, character.toNat < 128) ∧ Base64.Complete (base64Of encodedId) ∧
      Utf8.encode decoded = Base64.bytesOf (Base64.dataOf (base64Of encodedId)) := by
  simp only [decodeBase64url, bind_eq_ok, mapError_ok_iff, urlsafeB64decode_ok_iff, Utf8.decode_ok_iff]
  constructor
  · rintro ⟨bytes, ⟨ascii, complete, rfl⟩, written⟩
    exact ⟨ascii, complete, written⟩
  · rintro ⟨ascii, complete, written⟩
    exact ⟨_, ⟨ascii, complete, rfl⟩, written⟩

theorem decodes_iff : Decodes encodedId ↔ ∃ name, decodeBase64url encodedId = .ok name := by
  simp only [decodeBase64url_ok_iff]
  constructor
  · intro decodes
    obtain ⟨name, written⟩ := decodes.utf8
    exact ⟨name, decodes.ascii, decodes.complete, written⟩
  · rintro ⟨name, ascii, complete, written⟩
    exact ⟨ascii, complete, name, written⟩

theorem decodeBase64url_error {failure : PyError}
    (failed : decodeBase64url encodedId = .error failure) : ∃ text, failure = .valueError text := by
  unfold decodeBase64url at failed
  cases read : urlsafeB64decode (padded (strip encodedId)) with
  | ok bytes =>
    rw [read] at failed
    exact mapError_error failed
  | error reason =>
    rw [read] at failed
    obtain rfl := Except.error.inj failed
    unfold urlsafeB64decode at read
    split_ifs at read
    · exact ⟨_, (Except.error.inj read).symm⟩
    · exact mapError_error read

end Decoding

theorem SafeName.character {name : List Char} (safe : SafeName name) {character : Char}
    (member : character ∈ name) : isNameCharacter character = true :=
  List.all_eq_true.mp safe.2 character member

theorem not_safeName_lineFeed (name : List Char) : ¬ SafeName (name ++ ['\n']) := by
  have lineFeed : isNameCharacter '\n' = false := by decide
  simp [SafeName, lineFeed]

theorem safeMatch_iff {decoded : List Char} :
    SafeMatch decoded ↔ SafeName decoded ∨ ∃ name, SafeName name ∧ decoded = name ++ ['\n'] := by
  unfold SafeMatch
  by_cases ends : ['\n'] <:+ decoded
  · obtain ⟨name, rfl⟩ := ends
    rw [removeSuffix_append]
    simp [not_safeName_lineFeed name]
  · rw [removeSuffix, if_neg ends]
    refine (or_iff_left ?_).symm
    rintro ⟨name, -, rfl⟩
    exact ends (List.suffix_append _ _)

section Paths

variable {files : Files} {decoded path : List Char} {encodedId : String}

theorem SafeMatch.character (accepted : SafeMatch decoded) {character : Char}
    (member : character ∈ decoded) : isNameCharacter character = true ∨ character = '\n' := by
  rcases safeMatch_iff.mp accepted with safe | ⟨name, safe, rfl⟩
  · exact .inl (safe.character member)
  · rcases List.mem_append.mp member with inside | last
    · exact .inl (safe.character inside)
    · exact .inr (List.mem_singleton.mp last)

theorem SafeMatch.not_mem (accepted : SafeMatch decoded) {character : Char}
    (other : isNameCharacter character = false ∧ character ≠ '\n') : character ∉ decoded := by
  intro member
  rcases accepted.character member with own | lineFeed
  · rw [other.1] at own
    cases own
  · exact other.2 lineFeed

theorem SafeMatch.some (accepted : SafeMatch decoded) : decoded ≠ [] := by
  rcases safeMatch_iff.mp accepted with safe | ⟨name, -, rfl⟩
  · exact safe.1
  · simp

theorem SafeMatch.isPart (accepted : SafeMatch decoded) : IsPart (csvName decoded) := by
  have long : 5 ≤ (csvName decoded).length := by
    have some := List.length_pos_iff.mpr accepted.some
    simp only [csvName, List.length_append, List.length_cons, List.length_nil]
    omega
  refine ⟨fun same => ?_, fun same => ?_, fun same => ?_, ?_⟩
  · simp [same] at long
  · simp [same] at long
  · simp [same] at long
  · have slash : '/' ∉ decoded := accepted.not_mem (by decide)
    simp [csvName, slash]

theorem SafeMatch.validated (accepted : SafeMatch decoded) : validateFileId decoded = .ok () := by
  refine if_neg (not_or.mpr ⟨accepted.not_mem (by decide), fun dots => ?_⟩)
  have dot : '.' ∉ decoded := accepted.not_mem (by decide)
  exact dot (dots.subset (by simp))

theorem resolveCsvPath_ok_iff : resolveCsvPath files decoded = .ok path ↔
    SafeMatch decoded ∧ path = join files.tempDir.path (csvName decoded) ∧ files.present path = true := by
  unfold resolveCsvPath
  by_cases accepted : SafeMatch decoded
  · rw [if_neg (not_not.mpr accepted)]
    dsimp only
    rw [normpath_join files.tempDir accepted.isPart, abspath_directory,
      if_neg (not_not.mpr (prefix_join files.tempDir accepted.isPart))]
    cases present : files.present (join files.tempDir.path (csvName decoded)) with
    | false =>
      simp only [if_true, reduceCtorEq, false_iff]
      rintro ⟨-, rfl, found⟩
      rw [present] at found
      cases found
    | true =>
      simp only [Bool.true_eq_false, if_false, Except.ok.injEq]
      constructor
      · rintro rfl
        exact ⟨accepted, rfl, present⟩
      · rintro ⟨-, rfl, -⟩
        rfl
  · rw [if_pos accepted]
    simp [accepted]

theorem resolveCsvPath_error {failure : PyError} (failed : resolveCsvPath files decoded = .error failure) :
    ∃ message, failure = .application .fileNotFound message := by
  unfold resolveCsvPath at failed
  dsimp only at failed
  split_ifs at failed
  all_goals exact ⟨_, (Except.error.inj failed).symm⟩

theorem locate_ok_iff : locate files encodedId = .ok (decoded, path) ↔
    decodeBase64url encodedId.toList = .ok decoded ∧ SafeMatch decoded ∧
      path = join files.tempDir.path (csvName decoded) ∧ files.present path = true := by
  simp only [locate, bind_eq_ok, resolveCsvPath_ok_iff, Except.ok.injEq, Prod.mk.injEq]
  constructor
  · rintro ⟨name, read, -, -, found, resolved, rfl, rfl⟩
    exact ⟨read, resolved⟩
  · rintro ⟨read, accepted, located⟩
    exact ⟨decoded, read, (), accepted.validated, path, ⟨accepted, located⟩, rfl, rfl⟩

theorem previewCsv_opened : path ∈ (previewCsv files encodedId).opened ↔
    ∃ decoded, locate files encodedId = .ok (decoded, path) := by
  unfold previewCsv
  cases located : locate files encodedId with
  | error failure => simp
  | ok found => simp [Prod.ext_iff, eq_comm]

theorem previewFileMatches_opened {digest : String → String} {settings : Settings}
    {reader : FireflyReader} {store : StateStore} :
    path ∈ (previewFileMatches digest settings reader store files encodedId).2.opened ↔
      ∃ decoded, locate files encodedId = .ok (decoded, path) := by
  unfold previewFileMatches
  cases located : locate files encodedId with
  | error failure => simp
  | ok found =>
    obtain ⟨decoded, own⟩ := found
    cases parsed : files.parse own <;> simp [parsed, eq_comm]

end Paths

def Confined (files : Files) (encodedId : String) (opened : List (List Char)) : Prop :=
  ∀ path ∈ opened, ∃ name, decodeBase64url encodedId.toList = .ok name ∧ SafeName name ∧
    path = join files.tempDir.path (csvName name)

def ReachesLineFeed (files : Files) (encodedId : String) : Prop :=
  ∃ name, SafeName name ∧ decodeBase64url encodedId.toList = .ok (name ++ ['\n']) ∧
    files.present (join files.tempDir.path (csvName (name ++ ['\n']))) = true

theorem confined_iff {files : Files} {encodedId : String} {opened : List (List Char)}
    (located : ∀ path, path ∈ opened ↔ ∃ decoded, locate files encodedId = .ok (decoded, path)) :
    Confined files encodedId opened ↔ ¬ ReachesLineFeed files encodedId := by
  simp only [Confined, located, locate_ok_iff]
  constructor
  · rintro confined ⟨name, safe, decoded, present⟩
    have accepted : SafeMatch (name ++ ['\n']) := safeMatch_iff.mpr (.inr ⟨name, safe, rfl⟩)
    obtain ⟨other, read, safe', -⟩ := confined _ ⟨_, decoded, accepted, rfl, present⟩
    obtain rfl := Except.ok.inj (decoded.symm.trans read)
    exact absurd safe' (not_safeName_lineFeed name)
  · rintro unreached path ⟨decoded, read, accepted, rfl, present⟩
    rcases safeMatch_iff.mp accepted with safe | ⟨name, safe, rfl⟩
    · exact ⟨decoded, read, safe, rfl⟩
    · exact absurd ⟨name, safe, read, present⟩ unreached

-- Only files of the directory with safe names are opened, unless a safe name that is followed by
-- a line feed is the name of a file too.
theorem previews_confined_iff (digest : String → String) (settings : Settings) (reader : FireflyReader)
    (store : StateStore) (files : Files) (encodedId : String) :
    (Confined files encodedId (previewCsv files encodedId).opened ∧
      Confined files encodedId
        (previewFileMatches digest settings reader store files encodedId).2.opened) ↔
      ¬ ReachesLineFeed files encodedId := by
  rw [confined_iff fun _ => previewCsv_opened, confined_iff fun _ => previewFileMatches_opened, and_self]

namespace Sample

def tmp : Directory where
  slashes := 1
  parts := [['t', 'm', 'p']]
  oneOrTwo := .inl rfl
  plain := by
    intro part member
    obtain rfl := List.mem_singleton.mp member
    exact ⟨by decide, by decide, by decide, by decide⟩

def filesOf (names : List String) : Files where
  tempDir := tmp
  cwd := ['/']
  present path := decide (path ∈ names.map fun name => join tmp.path name.toList)
  parse _ := .ok []

end Sample

theorem previews_lineFeed :
    (previewCsv (Sample.filesOf ["abc\n.csv"]) "YWJjCg").opened = ["/tmp/abc\n.csv".toList] ∧
      ¬ Confined (Sample.filesOf ["abc\n.csv"]) "YWJjCg"
        (previewCsv (Sample.filesOf ["abc\n.csv"]) "YWJjCg").opened := by
  have opened : (previewCsv (Sample.filesOf ["abc\n.csv"]) "YWJjCg").opened =
      ["/tmp/abc\n.csv".toList] := by decide
  refine ⟨opened, fun confined => ?_⟩
  obtain ⟨name, read, safe, -⟩ := confined "/tmp/abc\n.csv".toList (by simp [opened])
  obtain rfl : ['a', 'b', 'c', '\n'] = name := Except.ok.inj read
  revert safe
  decide

def Denotes (files : Files) (encodedId : String) : Prop :=
  ∃ name, decodeBase64url encodedId.toList = .ok name ∧ SafeMatch name ∧
    files.present (join files.tempDir.path (csvName name)) = true

def FailsReported {α : Type} (call : FileAccess α) : Prop :=
  ∀ failure, call.outcome = .error failure → Reported failure

section Failures

variable {files : Files} {encodedId : String}

theorem locate_missing (missing : ¬ Denotes files encodedId) :
    ∃ failure, locate files encodedId = .error failure := by
  cases located : locate files encodedId with
  | error failure => exact ⟨failure, rfl⟩
  | ok found =>
    obtain ⟨decoded, accepted, same, present⟩ := locate_ok_iff.mp located
    exact absurd ⟨found.1, decoded, accepted, same ▸ present⟩ missing

theorem locate_reported {name : List Char} {failure : PyError}
    (decoded : decodeBase64url encodedId.toList = .ok name)
    (failed : locate files encodedId = .error failure) : Reported failure := by
  simp only [locate, decoded, bind, Except.bind] at failed
  by_cases refused : '/' ∈ name ∨ ['.', '.'] <:+: name
  · rw [validateFileId, if_pos refused] at failed
    exact ⟨_, .inl (Except.error.inj failed).symm⟩
  · rw [validateFileId, if_neg refused] at failed
    cases resolved : resolveCsvPath files name with
    | ok path => simp [resolved] at failed
    | error reason =>
      simp only [resolved] at failed
      obtain rfl := Except.error.inj failed
      obtain ⟨message, rfl⟩ := resolveCsvPath_error resolved
      exact ⟨message, .inr rfl⟩

theorem locate_undecoded {failure reason : PyError}
    (undecoded : decodeBase64url encodedId.toList = .error reason)
    (failed : locate files encodedId = .error failure) : ¬ Reported failure := by
  simp only [locate, undecoded, bind, Except.bind] at failed
  obtain rfl := Except.error.inj failed
  obtain ⟨text, rfl⟩ := decodeBase64url_error undecoded
  rintro ⟨message, own | own⟩ <;> cases own

theorem locate_reported_iff {failure : PyError} (failed : locate files encodedId = .error failure) :
    Reported failure ↔ Decodes encodedId.toList := by
  rw [decodes_iff]
  cases decoded : decodeBase64url encodedId.toList with
  | ok name => simp [locate_reported decoded failed]
  | error reason => simp [locate_undecoded decoded failed]

end Failures

-- Where there is no file both previews fail; the exception names the fault exactly for
-- identifiers that are decoded.
theorem previews_reported_iff (digest : String → String) (settings : Settings) (reader : FireflyReader)
    (store : StateStore) (files : Files) (encodedId : String) (missing : ¬ Denotes files encodedId) :
    (FailsReported (previewCsv files encodedId) ∧
      FailsReported (previewFileMatches digest settings reader store files encodedId).2) ↔
      Decodes encodedId.toList := by
  obtain ⟨failure, failed⟩ := locate_missing missing
  rw [← locate_reported_iff failed]
  simp [FailsReported, previewCsv, previewFileMatches, failed]

theorem filesOf_nil_missing (encodedId : String) : ¬ Denotes (Sample.filesOf []) encodedId := by
  rintro ⟨name, -, -, present⟩
  simp [Sample.filesOf] at present

theorem previews_reported_missing :
    ¬ Denotes (Sample.filesOf []) "YWJj" ∧
      ((FailsReported (previewCsv (Sample.filesOf []) "YWJj") ∧
        FailsReported (previewFileMatches id Sample.settings (Sample.readerOf []) .initial
          (Sample.filesOf []) "YWJj").2) ↔ Decodes "YWJj".toList) :=
  ⟨filesOf_nil_missing "YWJj",
    previews_reported_iff id Sample.settings (Sample.readerOf []) .initial (Sample.filesOf []) "YWJj"
      (filesOf_nil_missing "YWJj")⟩

-- One character is no base64, and no route names the exception.
theorem previews_oneCharacter :
    ¬ Denotes (Sample.filesOf []) "a" ∧
      decodeBase64url "a".toList = .error (.valueError ("Invalid base64-encoded string: number of " ++
        "data characters (1) cannot be 1 more than a multiple of 4")) ∧
      ¬ FailsReported (previewCsv (Sample.filesOf []) "a") := by
  have undecoded : decodeBase64url "a".toList = .error (.valueError ("Invalid base64-encoded " ++
      "string: number of data characters (1) cannot be 1 more than a multiple of 4")) := by decide
  obtain ⟨failure, failed⟩ := locate_missing (filesOf_nil_missing "a")
  refine ⟨filesOf_nil_missing "a", undecoded, fun reported => ?_⟩
  have outcome : (previewCsv (Sample.filesOf []) "a").outcome = .error failure := by
    rw [previewCsv, failed]
  exact locate_undecoded undecoded failed (reported failure outcome)

end FireflyToolkit.Blik
