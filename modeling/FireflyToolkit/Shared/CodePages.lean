import FireflyToolkit.Shared.PyBuiltins
import FireflyToolkit.Shared.Utf8

set_option autoImplicit false

namespace CodePages

/-- What the bytes from 128 on stand for; those before are ASCII. -/
structure CodePage where
  upper : List (Option Char)

def CodePage.charOf (page : CodePage) (byte : Nat) : Option Char :=
  if byte < 128 then some (Char.ofNat byte) else (page.upper[byte - 128]?).join

-- `none` stands for the error of a byte that the page leaves undefined.
def CodePage.decode (page : CodePage) (bytes : List Nat) : Option (List Char) := bytes.mapM page.charOf

def CodePage.byteOf (page : CodePage) (character : Char) : Option Nat :=
  if character.toNat < 128 then some character.toNat
  else (page.upper.idxOf? (some character)).map (128 + ·)

def CodePage.encode (page : CodePage) (text : List Char) : Option (List Nat) := text.mapM page.byteOf

section Pages

variable {page : CodePage} {byte : Nat} {character : Char} {bytes : List Nat} {text : List Char}

theorem charOf_byteOf (written : page.byteOf character = some byte) :
    page.charOf byte = some character := by
  unfold CodePage.byteOf at written
  split_ifs at written with ascii
  · obtain rfl := Option.some.inj written
    rw [CodePage.charOf, if_pos ascii, Char.ofNat_toNat]
  · obtain ⟨index, found, rfl⟩ := Option.map_eq_some_iff.mp written
    obtain ⟨inside, same, -⟩ := List.idxOf?_eq_some_iff.mp found
    have upper : ¬ 128 + index < 128 := by omega
    rw [CodePage.charOf, if_neg upper, Nat.add_sub_cancel_left, List.getElem?_eq_getElem inside]
    simpa using same

theorem byteOf_ascii_iff (written : page.byteOf character = some byte) :
    byte < 128 ↔ character.toNat < 128 := by
  unfold CodePage.byteOf at written
  split_ifs at written with ascii
  · rw [← Option.some.inj written]
  · obtain ⟨index, -, rfl⟩ := Option.map_eq_some_iff.mp written
    exact iff_of_false (by omega) ascii

theorem encode_eq_some_iff : page.encode text = some bytes ↔
    List.Forall₂ (fun character byte => page.byteOf character = some byte) text bytes := by
  unfold CodePage.encode
  induction text generalizing bytes with
  | nil => cases bytes <;> simp
  | cons character rest ih =>
    simp only [List.mapM_cons, Option.bind_eq_bind, Option.bind_eq_some_iff, Option.pure_def, ih,
      Option.some.injEq]
    constructor
    · rintro ⟨byte, own, later, each, rfl⟩
      exact .cons own each
    · intro each
      cases each with
      | cons own each => exact ⟨_, own, _, each, rfl⟩

theorem encode_ascii (written : page.encode text = some bytes) :
    (text.map Char.toNat).map (fun byte => decide (byte < 128)) =
      bytes.map fun byte => decide (byte < 128) := by
  have each := encode_eq_some_iff.mp written
  clear written
  induction each with
  | nil => rfl
  | cons own _ ih =>
    rw [List.map_cons, List.map_cons, List.map_cons, ih, decide_eq_decide.mpr (byteOf_ascii_iff own)]

theorem decode_encode (written : page.encode text = some bytes) : page.decode bytes = some text := by
  have each := encode_eq_some_iff.mp written
  clear written
  induction each with
  | nil => rfl
  | cons own _ ih =>
    rw [CodePage.decode] at ih ⊢
    simp [List.mapM_cons, charOf_byteOf own, ih]

end Pages

end CodePages

namespace Utf8

def Isolated (bytes : List Nat) : Prop :=
  ∃ before byte after, bytes = before ++ byte :: after ∧ 128 ≤ byte ∧
    (∀ last ∈ before.getLast?, last < 128) ∧ ∀ first ∈ after.head?, first < 128

theorem Isolated.congr {left right : List Nat}
    (same : left.map (fun byte => decide (byte < 128)) = right.map fun byte => decide (byte < 128))
    (isolated : Isolated left) : Isolated right := by
  obtain ⟨before, byte, after, rfl, beyond, leftEnd, rightEnd⟩ := isolated
  rw [List.map_append, List.map_cons] at same
  obtain ⟨front, tail, rfl, frontSame, tailSame⟩ := List.map_eq_append_iff.mp same.symm
  obtain ⟨other, back, rfl, otherSame, backSame⟩ := List.map_eq_cons_iff.mp tailSame
  have ends : ∀ (one two : Option Nat), one.map (fun byte => decide (byte < 128)) =
      two.map (fun byte => decide (byte < 128)) → (∀ byte ∈ one, byte < 128) → ∀ byte ∈ two, byte < 128 := by
    intro one two equal small byte member
    obtain rfl := Option.mem_def.mp member
    obtain ⟨source, found, sameSide⟩ := Option.map_eq_some_iff.mp equal
    simpa [small source found] using sameSide
  rw [decide_eq_decide] at otherSame
  refine ⟨front, other, back, rfl, by omega, ?_, ?_⟩
  · refine ends _ _ ?_ leftEnd
    rw [← List.getLast?_map, ← List.getLast?_map, frontSame]
  · refine ends _ _ ?_ rightEnd
    rw [← List.head?_map, ← List.head?_map, backSame]

-- A character is one byte of ASCII, or several bytes beyond it.
theorem encodeChar_shape (character : Char) :
    (∃ byte < 128, encodeChar character = [byte]) ∨
      (2 ≤ (encodeChar character).length ∧ ∀ byte ∈ encodeChar character, 128 ≤ byte) := by
  have beyond : ∀ owed code, (tails owed code).length = owed ∧ ∀ byte ∈ tails owed code, 128 ≤ byte := by
    intro owed code
    induction owed with
    | zero => simp [tails]
    | succ owed ih => exact ⟨by simp [tails, ih.1], List.forall_mem_cons.mpr ⟨by omega, ih.2⟩⟩
  unfold encodeChar
  dsimp only
  split_ifs with one two three
  · exact .inl ⟨_, one, rfl⟩
  all_goals
    refine .inr ⟨?_, List.forall_mem_cons.mpr ⟨by omega, (beyond _ _).2⟩⟩
    simp [(beyond _ _).1]

theorem encode_not_isolated (text : List Char) : ¬ Isolated (encode text) := by
  rintro ⟨before, byte, after, split, beyond, left, right⟩
  induction text generalizing before with
  | nil => simp [encode] at split
  | cons character rest ih =>
    rw [encode, List.flatMap_cons, ← encode, List.append_eq_append_iff] at split
    rcases split with ⟨more, rfl, later⟩ | ⟨inside, own, later⟩
    · -- The byte comes after the first character.
      refine ih more later fun last member => left last ?_
      obtain ⟨front, rfl⟩ := List.getLast?_eq_some_iff.mp member
      simp
    · cases inside with
      | nil => exact ih [] later.symm (by simp)
      | cons first inside =>
        obtain ⟨rfl, rfl⟩ := List.cons.inj later
        rcases encodeChar_shape character with ⟨single, ascii, one⟩ | ⟨several, all⟩
        · have member : byte ∈ encodeChar character := by simp [own]
          rw [one] at member
          exact absurd (List.mem_singleton.mp member ▸ ascii) (by omega)
        · cases inside with
          | cons next inside => exact absurd (right next rfl) (by simpa using all next (by simp [own]))
          | nil =>
            have some : before ≠ [] := by
              rintro rfl
              simp [own] at several
            have last := List.getLast_mem some
            refine absurd (left _ (List.getLast?_eq_some_getLast some)) ?_
            simpa using all _ (by rw [own]; exact List.mem_append_left _ last)

end Utf8
