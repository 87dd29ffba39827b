import FireflyToolkit.Blik.Files
import FireflyToolkit.Blik.Statements

set_option autoImplicit false

namespace FireflyToolkit.Blik

open PosixPaths PyText
open PyBuiltins (bind_eq_ok isSpace)

def toUrlsafe : Char → Char
  | '+' => '-'
  | '/' => '_'
  | character => character

def urlsafeB64encode (bytes : List Nat) : List Char := (Base64.encode bytes).map toUrlsafe

def encodeBase64url (text : List Char) : List Char :=
  (urlsafeB64encode (Utf8.encode text)).rdropWhile fun character => character == '='

example : encodeBase64url "zażółć>?".toList = "emHFvMOzxYLEhz4_".toList := by decide

structure UploadResponse where
  message : String
  count : Nat
  id : String

def Files.write (read : List Nat → Except PyError (List BankRecord)) (files : Files)
    (path : List Char) (bytes : List Nat) : Files :=
  { files with
    present := fun other => if other = path then true else files.present other
    parse := fun other => if other = path then read bytes else files.parse other }

-- The stem is the name that `NamedTemporaryFile` chooses, without the suffix.
def uploadCsv (read : List Nat → Except PyError (List BankRecord)) (files : Files)
    (stem : List Char) (fileBytes : List Nat) : Files × Except PyError UploadResponse :=
  let tmpPath := join files.tempDir.path (csvName stem)
  let next := files.write read tmpPath fileBytes
  (next, do
    let records ← next.parse tmpPath
    let filename := basename tmpPath
    let fileId := (splitext filename).1
    let encoded := encodeBase64url fileId
    .ok { message := "File uploaded successfully", count := records.length, id := String.ofList encoded })

section RoundTrip

variable {character : Char} {text : List Char}

def UrlsafeLetter (character : Char) : Prop :=
  character ≠ '=' ∧ isSpace character = false ∧ character.toNat < 128

theorem toUrlsafe_letter {sextet : Nat} (small : sextet < 64) :
    UrlsafeLetter (toUrlsafe (Base64.letterOf sextet)) ∧
      urlsafe (toUrlsafe (Base64.letterOf sextet)) = Base64.letterOf sextet := by
  have every : ∀ sextet < 64,
      (toUrlsafe (Base64.letterOf sextet) ≠ '=' ∧ isSpace (toUrlsafe (Base64.letterOf sextet)) = false ∧
        (toUrlsafe (Base64.letterOf sextet)).toNat < 128) ∧
      urlsafe (toUrlsafe (Base64.letterOf sextet)) = Base64.letterOf sextet := by decide
  exact every sextet small

theorem encodeBase64url_letters (text : List Char) :
    encodeBase64url text = (Base64.letters (Utf8.encode text)).map toUrlsafe := by
  have kept : ((Base64.letters (Utf8.encode text)).map toUrlsafe).rdropWhile
      (fun character => character == '=') = (Base64.letters (Utf8.encode text)).map toUrlsafe := by
    refine List.rdropWhile_eq_self_iff.mpr fun some => ?_
    obtain ⟨letter, own, same⟩ := List.mem_map.mp (List.getLast_mem some)
    obtain ⟨sextet, small, rfl⟩ := Base64.mem_letters (Utf8.encode_lt text) own
    rw [← same]
    simpa using (toUrlsafe_letter small).1.1
  have dropped : ∀ count (front : List Char),
      (front ++ List.replicate count '=').rdropWhile (fun character => character == '=') =
        front.rdropWhile fun character => character == '=' := by
    intro count front
    induction count with
    | zero => simp
    | succ count ih =>
      rw [List.replicate_succ', ← List.append_assoc, List.rdropWhile_concat_pos _ _ _ (by decide), ih]
  have equals : toUrlsafe '=' = '=' := rfl
  rw [encodeBase64url, urlsafeB64encode, Base64.encode, List.map_append, List.map_replicate, equals,
    dropped, kept]

theorem mem_encodeBase64url (member : character ∈ encodeBase64url text) : UrlsafeLetter character := by
  rw [encodeBase64url_letters] at member
  obtain ⟨letter, own, rfl⟩ := List.mem_map.mp member
  obtain ⟨sextet, small, rfl⟩ := Base64.mem_letters (Utf8.encode_lt text) own
  exact (toUrlsafe_letter small).1

theorem base64Of_encodeBase64url (text : List Char) :
    base64Of (encodeBase64url text) = Base64.encode (Utf8.encode text) := by
  have stripped : strip (encodeBase64url text) = encodeBase64url text :=
    stripOf_kept fun character member => (mem_encodeBase64url member).2.1
  have back : (encodeBase64url text).map urlsafe = Base64.letters (Utf8.encode text) := by
    rw [encodeBase64url_letters, List.map_map]
    refine (List.map_congr_left fun letter own => ?_).trans (List.map_id _)
    obtain ⟨sextet, small, rfl⟩ := Base64.mem_letters (Utf8.encode_lt text) own
    exact (toUrlsafe_letter small).2
  have length : (encodeBase64url text).length % 4 =
      (Utf8.encode text).length % 3 + ((Utf8.encode text).length % 3 + 1) / 2 := by
    rw [encodeBase64url_letters, List.length_map, Base64.length_letters_mod]
  have equals : urlsafe '=' = '=' := rfl
  rw [base64Of, stripped, padded, Base64.encode]
  split_ifs with whole
  · have none : (3 - (Utf8.encode text).length % 3) % 3 = 0 := by omega
    rw [back, none, List.replicate_zero, List.append_nil]
  · have oneOrTwo : (Utf8.encode text).length % 3 = 1 ∨ (Utf8.encode text).length % 3 = 2 := by omega
    have same : 4 - (encodeBase64url text).length % 4 = (3 - (Utf8.encode text).length % 3) % 3 := by
      rcases oneOrTwo with one | two <;> omega
    rw [List.map_append, back, List.map_replicate, equals, same]

theorem decodeBase64url_encodeBase64url (text : List Char) :
    decodeBase64url (encodeBase64url text) = .ok text := by
  have whole := Base64.decode_ok_iff.mp (Base64.decode_encode (Utf8.encode_lt text))
  rw [← base64Of_encodeBase64url] at whole
  refine decodeBase64url_ok_iff.mpr ⟨fun character member => ?_, whole.1, whole.2.symm⟩
  rw [strip, stripOf_kept fun character member => (mem_encodeBase64url member).2.1] at member
  exact (mem_encodeBase64url member).2.2

end RoundTrip

section Found

variable (digest : String → String) (settings : Settings) (reader : FireflyReader) (store : StateStore)

-- Both previews take an identifier for that of the file, open its path and no other, and go on with
-- the records that are read of it; whether they answer is up to these.
structure Identified (files : Files) (encodedId : String) (name : List Char)
    (records : List BankRecord) : Prop where
  located : locate files encodedId = .ok (name, join files.tempDir.path (csvName name))
  previewed : previewCsv files encodedId = ⟨[join files.tempDir.path (csvName name)],
    filePreviewOf encodedId (String.ofList name) records⟩
  matched : previewFileMatches digest settings reader store files encodedId =
    ((previewMatches digest settings store reader encodedId (String.ofList name) records).1,
      ⟨[join files.tempDir.path (csvName name)],
        (previewMatches digest settings store reader encodedId (String.ofList name) records).2⟩)

variable {digest settings reader store}
variable {files : Files} {name : List Char} {encodedId : String} {records : List BankRecord}

theorem SafeName.accepted (safe : SafeName name) : SafeMatch name := safeMatch_iff.mpr (.inl safe)

theorem splitext_csvName (safe : SafeName name) :
    splitext (basename (join files.tempDir.path (csvName name))) = (name, ['.', 'c', 's', 'v']) := by
  obtain ⟨character, member⟩ := List.exists_mem_of_ne_nil name safe.1
  have own := safe.character member
  rw [basename_join files.tempDir safe.accepted.isPart]
  refine splitext_name safe.accepted.isPart.noSlash (by decide) ⟨character, member, ?_⟩
  rintro rfl
  revert own
  decide

theorem previewCsv_located
    (located : locate files encodedId = .ok (name, join files.tempDir.path (csvName name)))
    (parsed : files.parse (join files.tempDir.path (csvName name)) = .ok records) :
    previewCsv files encodedId = ⟨[join files.tempDir.path (csvName name)],
      filePreviewOf encodedId (String.ofList name) records⟩ := by
  rw [previewCsv, located]
  dsimp only
  rw [parsed]
  rfl

theorem identified (decoded : decodeBase64url encodedId.toList = .ok name) (safe : SafeName name)
    (present : files.present (join files.tempDir.path (csvName name)) = true)
    (parsed : files.parse (join files.tempDir.path (csvName name)) = .ok records) :
    Identified digest settings reader store files encodedId name records := by
  have located := locate_ok_iff.mpr ⟨decoded, safe.accepted, rfl, present⟩
  refine ⟨located, previewCsv_located located parsed, ?_⟩
  rw [previewFileMatches, located]
  dsimp only
  rw [parsed]

end Found

theorem uploadCsv_answer {read : List Nat → Except PyError (List BankRecord)} {stem : List Char}
    {fileBytes : List Nat} {records : List BankRecord}
    (safe : SafeName stem) (parsed : read fileBytes = .ok records) (files : Files) :
    (uploadCsv read files stem fileBytes).2 =
      .ok ⟨"File uploaded successfully", records.length, String.ofList (encodeBase64url stem)⟩ := by
  have written : (files.write read (join files.tempDir.path (csvName stem)) fileBytes).parse
      (join files.tempDir.path (csvName stem)) = .ok records := (if_pos rfl).trans parsed
  refine bind_eq_ok.mpr ⟨records, written, ?_⟩
  dsimp only
  rw [splitext_csvName safe]

-- Identifiers are decoded to what they encode and hold no padding or white space, and that of an
-- upload leads both previews to the file that was written.
theorem uploads_identified :
    (∀ text : List Char, decodeBase64url (encodeBase64url text) = .ok text ∧
      '=' ∉ encodeBase64url text ∧
      ∀ character ∈ encodeBase64url text, isSpace character = false) ∧
    ∀ (read : List Nat → Except PyError (List BankRecord)) (files next : Files) (stem : List Char)
      (fileBytes : List Nat) (response : UploadResponse), SafeName stem →
      uploadCsv read files stem fileBytes = (next, .ok response) →
      ∃ records, read fileBytes = .ok records ∧ response.count = records.length ∧
        ∀ (digest : String → String) (settings : Settings) (reader : FireflyReader)
          (store : StateStore), Identified digest settings reader store next response.id stem records := by
  refine ⟨fun text => ⟨decodeBase64url_encodeBase64url text, fun member => ?_, fun character member =>
    (mem_encodeBase64url member).2.1⟩, ?_⟩
  · exact (mem_encodeBase64url member).1 rfl
  intro read files next stem fileBytes response safe uploaded
  obtain ⟨rfl, answered⟩ := Prod.mk.inj uploaded
  obtain ⟨records, parsed, answer⟩ := bind_eq_ok.mp answered
  have written : read fileBytes = .ok records := (if_pos rfl).symm.trans parsed
  dsimp only at answer
  rw [splitext_csvName safe] at answer
  obtain rfl := Except.ok.inj answer
  refine ⟨records, written, rfl, fun digest settings reader store => ?_⟩
  refine identified ?_ safe (if_pos rfl) parsed
  rw [String.toList_ofList, decodeBase64url_encodeBase64url]

theorem uploads_identified_shop :
    Identified id Sample.settings (Sample.readerOf []) .initial
      (uploadCsv (BankCSVReader.readFile plainTables) (Sample.filesOf []) "tmp_a1b2c3d".toList
        (Utf8.encode BankCSVReader.Sample.shopStatement.text)).1 "dG1wX2ExYjJjM2Q"
      "tmp_a1b2c3d".toList [BankCSVReader.Sample.shopRow.record] := by
  have safe : SafeName "tmp_a1b2c3d".toList := by decide
  have read : BankCSVReader.readFile plainTables (Utf8.encode BankCSVReader.Sample.shopStatement.text) =
      .ok [BankCSVReader.Sample.shopRow.record] := by
    rw [BankCSVReader.readFile, BankCSVReader.Statement.parse_text]
    rfl
  have encoded : String.ofList (encodeBase64url "tmp_a1b2c3d".toList) = "dG1wX2ExYjJjM2Q" := by decide
  have answered := uploadCsv_answer safe read (Sample.filesOf [])
  rw [encoded] at answered
  obtain ⟨records, parsed, -, found⟩ := uploads_identified.2 (BankCSVReader.readFile plainTables)
    (Sample.filesOf []) _ "tmp_a1b2c3d".toList _ _ safe (Prod.ext rfl answered)
  obtain rfl := Except.ok.inj (read.symm.trans parsed)
  exact found id Sample.settings (Sample.readerOf []) .initial

end FireflyToolkit.Blik
