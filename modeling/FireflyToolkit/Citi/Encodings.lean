import FireflyToolkit.Citi.Import
import FireflyToolkit.Domain.Identifiers
import FireflyToolkit.Shared.CodePages

set_option autoImplicit false

namespace FireflyToolkit.Citi

open CodePages Numerals PyText
open PyBuiltins (bind_eq_ok)

def cp1250 : CodePage :=
  ⟨[some '€', none, some '‚', none, some '„', some '…', some '†', some '‡',
    none, some '‰', some 'Š', some '‹', some 'Ś', some 'Ť', some 'Ž', some 'Ź',
    none, some '‘', some '’', some '“', some '”', some '•', some '–', some '—',
    none, some '™', some 'š', some '›', some 'ś', some 'ť', some 'ž', some 'ź',
    some '\u00a0', some 'ˇ', some '˘', some 'Ł', some '¤', some 'Ą', some '¦', some '§',
    some '¨', some '©', some 'Ş', some '«', some '¬', some '\u00ad', some '®', some 'Ż',
    some '°', some '±', some '˛', some 'ł', some '´', some 'µ', some '¶', some '·',
    some '¸', some 'ą', some 'ş', some '»', some 'Ľ', some '˝', some 'ľ', some 'ż',
    some 'Ŕ', some 'Á', some 'Â', some 'Ă', some 'Ä', some 'Ĺ', some 'Ć', some 'Ç',
    some 'Č', some 'É', some 'Ę', some 'Ë', some 'Ě', some 'Í', some 'Î', some 'Ď',
    some 'Đ', some 'Ń', some 'Ň', some 'Ó', some 'Ô', some 'Ő', some 'Ö', some '×',
    some 'Ř', some 'Ů', some 'Ú', some 'Ű', some 'Ü', some 'Ý', some 'Ţ', some 'ß',
    some 'ŕ', some 'á', some 'â', some 'ă', some 'ä', some 'ĺ', some 'ć', some 'ç',
    some 'č', some 'é', some 'ę', some 'ë', some 'ě', some 'í', some 'î', some 'ď',
    some 'đ', some 'ń', some 'ň', some 'ó', some 'ô', some 'ő', some 'ö', some '÷',
    some 'ř', some 'ů', some 'ú', some 'ű', some 'ü', some 'ý', some 'ţ', some '˙']⟩

def bom : List Nat := [0xEF, 0xBB, 0xBF]

-- `bytes.decode("utf-8-sig")`
def decodeUtf8Sig (fileBytes : List Nat) : Except String (List Char) :=
  Utf8.decode (if bom <+: fileBytes then fileBytes.drop bom.length else fileBytes)

def decodeLatin1 (fileBytes : List Nat) : List Char := fileBytes.map Char.ofNat

-- Latin-1 reads all bytes, so that none is ever replaced.
def decodeText (fileBytes : List Nat) : List Char :=
  match decodeUtf8Sig fileBytes with
  | .ok text => text
  | .error _ => (cp1250.decode fileBytes).getD (decodeLatin1 fileBytes)

example : decodeText [0xB3, 0x61] = ['ł', 'a'] := by decide
example : decodeText [0x81, 0x61] = ['\x81', 'a'] := by decide

-- The bytes of a text in an encoding that the import expects. A page is told from UTF-8 by a letter
-- that stands alone among ASCII.
inductive Writes (text : List Char) : List Nat → Prop
  | utf8 (unmarked : '\uFEFF' ∉ text.head?) : Writes text (Utf8.encode text)
  | utf8Sig : Writes text (bom ++ Utf8.encode text)
  | cp1250 {fileBytes : List Nat} (written : cp1250.encode text = some fileBytes)
      (alone : Utf8.Isolated (text.map Char.toNat)) : Writes text fileBytes

section Decoding

variable {fileBytes : List Nat} {text : List Char}

theorem encode_bom (text : List Char) : Utf8.encode ('\uFEFF' :: text) = bom ++ Utf8.encode text := by
  rw [Utf8.encode, List.flatMap_cons]
  rfl

theorem decodeUtf8Sig_bom (text : List Char) : decodeUtf8Sig (bom ++ Utf8.encode text) = .ok text := by
  rw [decodeUtf8Sig, if_pos (List.prefix_append _ _), List.drop_left]
  exact Utf8.decode_ok_iff.mpr rfl

theorem bom_marks (marked : bom <+: Utf8.encode text) : '\uFEFF' ∈ text.head? := by
  obtain ⟨rest, split⟩ := marked
  have read := Utf8.decode_ok_iff.mpr (Eq.refl (Utf8.encode text))
  have first : bom = Utf8.encodeChar '\uFEFF' := rfl
  obtain ⟨next, stepped⟩ := Utf8.decodeFrom_char 0 '\uFEFF' rest
  rw [← split, first, Utf8.decode, stepped] at read
  obtain ⟨later, -, rfl⟩ := PyBuiltins.map_eq_ok.mp read
  rfl

theorem decodeUtf8Sig_ok (read : decodeUtf8Sig fileBytes = .ok text) :
    ∃ written, Utf8.encode written = fileBytes := by
  rw [decodeUtf8Sig, Utf8.decode_ok_iff] at read
  split_ifs at read with marked
  · obtain ⟨rest, rfl⟩ := marked
    rw [List.drop_left] at read
    exact ⟨'\uFEFF' :: text, by rw [encode_bom, read]⟩
  · exact ⟨text, read⟩

theorem decodeText_writes (writes : Writes text fileBytes) : decodeText fileBytes = text := by
  cases writes with
  | utf8 unmarked =>
    have plain : ¬ bom <+: Utf8.encode text := fun marked => unmarked (bom_marks marked)
    rw [decodeText, decodeUtf8Sig, if_neg plain, Utf8.decode_ok_iff.mpr rfl]
  | utf8Sig => rw [decodeText, decodeUtf8Sig_bom]
  | cp1250 written alone =>
    have isolated : Utf8.Isolated fileBytes := alone.congr (encode_ascii written)
    rw [decodeText, decode_encode written]
    cases read : decodeUtf8Sig fileBytes with
    | error message => rfl
    | ok other =>
      obtain ⟨source, same⟩ := decodeUtf8Sig_ok read
      exact absurd (same ▸ isolated) (Utf8.encode_not_isolated source)

end Decoding

end FireflyToolkit.Citi
