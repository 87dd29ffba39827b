import FireflyToolkit.Shared.PyBuiltins
import Mathlib.Tactic.SplitIfs

set_option autoImplicit false

namespace Utf8

open PyBuiltins (map_eq_ok)

def tails : Nat → Nat → List Nat
  | 0, _ => []
  | owed + 1, code => (0x80 + code / 64 ^ owed % 64) :: tails owed code

def encodeChar (character : Char) : List Nat :=
  let code := character.toNat
  if code < 0x80 then [code]
  else if code < 0x800 then (0xC0 + code / 64) :: tails 1 code
  else if code < 0x10000 then (0xE0 + code / 64 ^ 2) :: tails 2 code
  else (0xF0 + code / 64 ^ 3) :: tails 3 code

def encode (text : List Char) : List Nat := text.flatMap encodeChar

structure Unfinished where
  owed : Nat
  least : Nat
  greatest : Nat
  code : Nat

/-- Longer forms than a code needs, surrogates and codes past the last are ruled out by the bounds. -/
def leadOf (byte : Nat) : Option Unfinished :=
  if 0xC2 ≤ byte ∧ byte ≤ 0xDF then some ⟨1, 0x80, 0xBF, byte - 0xC0⟩
  else if 0xE0 ≤ byte ∧ byte ≤ 0xEF then
    some ⟨2, if byte = 0xE0 then 0xA0 else 0x80, if byte = 0xED then 0x9F else 0xBF, byte - 0xE0⟩
  else if 0xF0 ≤ byte ∧ byte ≤ 0xF4 then
    some ⟨3, if byte = 0xF0 then 0x90 else 0x80, if byte = 0xF4 then 0x8F else 0xBF, byte - 0xF0⟩
  else none

structure Place where
  position : Nat
  byte : Nat

def fault (place : Place) (stop : Nat) (reason : String) : String :=
  if stop = place.position + 1 then
    "'utf-8' codec can't decode byte 0x" ++ String.ofList (Nat.toDigits 16 place.byte) ++
      " in position " ++ toString place.position ++ ": " ++ reason
  else
    "'utf-8' codec can't decode bytes in position " ++ toString place.position ++ "-" ++
      toString (stop - 1) ++ ": " ++ reason

def decodeFrom (position : Nat) : Option (Place × Unfinished) → List Nat → Except String (List Char)
  | none, [] => .ok []
  | some (place, _), [] => .error (fault place position "unexpected end of data")
  | none, byte :: rest =>
      if byte < 0x80 then (Char.ofNat byte :: ·) <$> decodeFrom (position + 1) none rest
      else
        match leadOf byte with
        | none => .error (fault ⟨position, byte⟩ (position + 1) "invalid start byte")
        | some unfinished => decodeFrom (position + 1) (some (⟨position, byte⟩, unfinished)) rest
  | some (place, unfinished), byte :: rest =>
      if byte < unfinished.least ∨ unfinished.greatest < byte then
        .error (fault place position "invalid continuation byte")
      else
        let code := unfinished.code * 64 + byte % 64
        if unfinished.owed ≤ 1 then (Char.ofNat code :: ·) <$> decodeFrom (position + 1) none rest
        else
          decodeFrom (position + 1) (some (place, ⟨unfinished.owed - 1, 0x80, 0xBF, code⟩)) rest

def decode (bytes : List Nat) : Except String (List Char) := decodeFrom 0 none bytes

example : decode [0xC5, 0x82, 0xF0, 0x9F, 0x98, 0x80] = .ok ['ł', '😀'] := by decide

section Codes

variable {code : Nat}

theorem toNat_ofNat (valid : code.isValidChar) : (Char.ofNat code).toNat = code := by
  rw [Char.ofNat, dif_pos valid]
  rfl

theorem encodeChar_one (small : code < 0x80) : encodeChar (Char.ofNat code) = [code] := by
  have same := @toNat_ofNat code (.inl (by omega))
  simp only [encodeChar, same]
  rw [if_pos small]

theorem encodeChar_two (least : 0x80 ≤ code) (greatest : code < 0x800) :
    encodeChar (Char.ofNat code) = [0xC0 + code / 64, 0x80 + code % 64] := by
  have same := @toNat_ofNat code (.inl (by omega))
  simp only [encodeChar, same]
  rw [if_neg (by omega), if_pos greatest]
  simp [tails]

theorem encodeChar_three (least : 0x800 ≤ code) (greatest : code < 0x10000)
    (noSurrogate : code < 0xD800 ∨ 0xDFFF < code) :
    encodeChar (Char.ofNat code) =
      [0xE0 + code / 64 ^ 2, 0x80 + code / 64 % 64, 0x80 + code % 64] := by
  have valid : code.isValidChar := by
    rcases noSurrogate with below | above
    · exact .inl below
    · exact .inr ⟨above, by omega⟩
  simp only [encodeChar, toNat_ofNat valid]
  rw [if_neg (by omega), if_neg (by omega), if_pos greatest]
  simp [tails]

theorem encodeChar_four (least : 0x10000 ≤ code) (greatest : code < 0x110000) :
    encodeChar (Char.ofNat code) =
      [0xF0 + code / 64 ^ 3, 0x80 + code / 64 ^ 2 % 64, 0x80 + code / 64 % 64, 0x80 + code % 64] := by
  have same := @toNat_ofNat code (.inr ⟨by omega, greatest⟩)
  simp only [encodeChar, same]
  rw [if_neg (by omega), if_neg (by omega), if_neg (by omega)]
  simp [tails]

end Codes

/-- However the bytes that are owed after the next one are read, the character has these bytes. -/
def Finishes : Nat → Nat → Nat → Nat → List Nat → Prop
  | 0, least, greatest, code, front => ∀ byte, least ≤ byte → byte ≤ greatest →
      encodeChar (Char.ofNat (code * 64 + byte % 64)) = front ++ [byte]
  | later + 1, least, greatest, code, front => ∀ byte, least ≤ byte → byte ≤ greatest →
      Finishes later 0x80 0xBF (code * 64 + byte % 64) (front ++ [byte])

def Unfinished.Begins (unfinished : Unfinished) (front : List Nat) : Prop :=
  Finishes (unfinished.owed - 1) unfinished.least unfinished.greatest unfinished.code front

theorem leadOf_begins {byte : Nat} {unfinished : Unfinished}
    (lead : leadOf byte = some unfinished) : unfinished.Begins [byte] := by
  rw [leadOf] at lead
  by_cases two : 0xC2 ≤ byte ∧ byte ≤ 0xDF
  · rw [if_pos two] at lead
    obtain rfl := Option.some.inj lead
    intro second least greatest
    dsimp only at least greatest ⊢
    rw [encodeChar_two (by omega) (by omega)]
    simp only [List.cons_append, List.nil_append, List.cons.injEq, and_true]
    omega
  rw [if_neg two] at lead
  by_cases three : 0xE0 ≤ byte ∧ byte ≤ 0xEF
  · rw [if_pos three] at lead
    obtain rfl := Option.some.inj lead
    intro second least greatest third least' greatest'
    dsimp only at least greatest ⊢
    have long : byte = 0xE0 → 0xA0 ≤ second := fun first => by rwa [if_pos first] at least
    have noSurrogate : byte = 0xED → second ≤ 0x9F := fun first => by rwa [if_pos first] at greatest
    have tail : 0x80 ≤ second ∧ second ≤ 0xBF := by split_ifs at least greatest <;> omega
    rw [encodeChar_three (by omega) (by omega) (by omega)]
    simp only [List.cons_append, List.nil_append, List.cons.injEq, and_true]
    omega
  rw [if_neg three] at lead
  by_cases four : 0xF0 ≤ byte ∧ byte ≤ 0xF4
  · rw [if_pos four] at lead
    obtain rfl := Option.some.inj lead
    intro second least greatest third least' greatest' fourth least'' greatest''
    dsimp only at least greatest ⊢
    have long : byte = 0xF0 → 0x90 ≤ second := fun first => by rwa [if_pos first] at least
    have last : byte = 0xF4 → second ≤ 0x8F := fun first => by rwa [if_pos first] at greatest
    have tail : 0x80 ≤ second ∧ second ≤ 0xBF := by split_ifs at least greatest <;> omega
    rw [encodeChar_four (by omega) (by omega)]
    simp only [List.cons_append, List.nil_append, List.cons.injEq, and_true]
    omega
  rw [if_neg four] at lead
  cases lead

theorem decodeFrom_sound {bytes : List Nat} {text : List Char} (position : Nat) :
    (decodeFrom position none bytes = .ok text → encode text = bytes) ∧
      ∀ place unfinished front, unfinished.Begins front →
        decodeFrom position (some (place, unfinished)) bytes = .ok text →
          encode text = front ++ bytes := by
  induction bytes generalizing position text with
  | nil =>
    refine ⟨fun decoded => ?_, fun place unfinished front begins decoded => ?_⟩
    · obtain rfl := Except.ok.inj decoded
      rfl
    · cases decoded
  | cons byte rest ih =>
    refine ⟨fun decoded => ?_, fun place unfinished front begins decoded => ?_⟩
    · rw [decodeFrom] at decoded
      split_ifs at decoded with small
      · obtain ⟨others, later, rfl⟩ := map_eq_ok.mp decoded
        rw [encode, List.flatMap_cons, encodeChar_one small]
        exact congrArg _ ((ih (position + 1)).1 later)
      · cases lead : leadOf byte with
        | none => simp [lead] at decoded
        | some unfinished =>
          rw [lead] at decoded
          exact (ih (position + 1)).2 _ unfinished [byte] (leadOf_begins lead) decoded
    · rw [decodeFrom] at decoded
      split_ifs at decoded with outside last
      · obtain ⟨others, later, rfl⟩ := map_eq_ok.mp decoded
        have one : unfinished.owed - 1 = 0 := by omega
        rw [Unfinished.Begins, one] at begins
        have written := begins byte (by omega) (by omega)
        rw [encode, List.flatMap_cons, written, List.append_assoc]
        exact congrArg _ (congrArg _ ((ih (position + 1)).1 later))
      · obtain ⟨more, owed⟩ : ∃ more, unfinished.owed - 1 = more + 1 := ⟨unfinished.owed - 2, by omega⟩
        rw [Unfinished.Begins, owed] at begins
        have next := begins byte (by omega) (by omega)
        have whole := (ih (position + 1)).2 place _ (front ++ [byte])
          (by rw [Unfinished.Begins, owed]; exact next) decoded
        simpa using whole

section Complete

variable {position byte : Nat} {rest : List Nat} {place : Place} {unfinished : Unfinished}

theorem decodeFrom_lead (large : 0x80 ≤ byte) (lead : leadOf byte = some unfinished) :
    decodeFrom position none (byte :: rest) =
      decodeFrom (position + 1) (some (⟨position, byte⟩, unfinished)) rest := by
  rw [decodeFrom, if_neg (by omega), lead]

theorem decodeFrom_more (inside : unfinished.least ≤ byte ∧ byte ≤ unfinished.greatest)
    (more : 2 ≤ unfinished.owed) :
    decodeFrom position (some (place, unfinished)) (byte :: rest) =
      decodeFrom (position + 1) (some (place,
        ⟨unfinished.owed - 1, 0x80, 0xBF, unfinished.code * 64 + byte % 64⟩)) rest := by
  rw [decodeFrom, if_neg (by omega)]
  dsimp only
  rw [if_neg (by omega)]

theorem decodeFrom_last (inside : unfinished.least ≤ byte ∧ byte ≤ unfinished.greatest)
    (last : unfinished.owed = 1) :
    decodeFrom position (some (place, unfinished)) (byte :: rest) =
      (Char.ofNat (unfinished.code * 64 + byte % 64) :: ·) <$>
        decodeFrom (position + 1) none rest := by
  rw [decodeFrom, if_neg (by omega)]
  dsimp only
  rw [if_pos (by omega)]

variable {code : Nat}

theorem decodeFrom_two (least : 0x80 ≤ code) (greatest : code < 0x800) :
    decodeFrom position none ((0xC0 + code / 64) :: tails 1 code ++ rest) =
      (Char.ofNat code :: ·) <$> decodeFrom (position + 2) none rest := by
  have lead : leadOf (0xC0 + code / 64) = some ⟨1, 0x80, 0xBF, code / 64⟩ := by
    rw [leadOf, if_pos (by omega), Nat.add_sub_cancel_left]
  have whole : code / 64 * 64 + (0x80 + code % 64) % 64 = code := by omega
  rw [List.cons_append, decodeFrom_lead (by omega) lead]
  simp only [tails, Nat.pow_zero, Nat.div_one, List.cons_append, List.nil_append]
  rw [decodeFrom_last (by dsimp only; omega) rfl]
  dsimp only
  rw [whole]

theorem decodeFrom_three (valid : code.isValidChar) (least : 0x800 ≤ code) (greatest : code < 0x10000) :
    decodeFrom position none ((0xE0 + code / 64 ^ 2) :: tails 2 code ++ rest) =
      (Char.ofNat code :: ·) <$> decodeFrom (position + 3) none rest := by
  have lead : leadOf (0xE0 + code / 64 ^ 2) =
      some ⟨2, if 0xE0 + code / 64 ^ 2 = 0xE0 then 0xA0 else 0x80,
        if 0xE0 + code / 64 ^ 2 = 0xED then 0x9F else 0xBF, code / 64 ^ 2⟩ := by
    rw [leadOf, if_neg (by omega), if_pos (by omega), Nat.add_sub_cancel_left]
  -- The second byte tells the code from a shorter one and from a surrogate.
  have inside : (if 0xE0 + code / 64 ^ 2 = 0xE0 then 0xA0 else 0x80) ≤ 0x80 + code / 64 % 64 ∧
      0x80 + code / 64 % 64 ≤ if 0xE0 + code / 64 ^ 2 = 0xED then 0x9F else 0xBF := by
    rcases valid with below | above <;> constructor <;> split_ifs <;> omega
  have whole : (code / 64 ^ 2 * 64 + (0x80 + code / 64 % 64) % 64) * 64 +
      (0x80 + code % 64) % 64 = code := by omega
  rw [List.cons_append, decodeFrom_lead (by omega) lead]
  simp only [tails, Nat.pow_zero, Nat.pow_one, Nat.div_one, List.cons_append, List.nil_append]
  rw [decodeFrom_more (by exact inside) (Nat.le_refl 2), decodeFrom_last (by dsimp only; omega) rfl]
  dsimp only
  rw [whole]

theorem decodeFrom_four (least : 0x10000 ≤ code) (greatest : code < 0x110000) :
    decodeFrom position none ((0xF0 + code / 64 ^ 3) :: tails 3 code ++ rest) =
      (Char.ofNat code :: ·) <$> decodeFrom (position + 4) none rest := by
  have lead : leadOf (0xF0 + code / 64 ^ 3) =
      some ⟨3, if 0xF0 + code / 64 ^ 3 = 0xF0 then 0x90 else 0x80,
        if 0xF0 + code / 64 ^ 3 = 0xF4 then 0x8F else 0xBF, code / 64 ^ 3⟩ := by
    rw [leadOf, if_neg (by omega), if_neg (by omega), if_pos (by omega), Nat.add_sub_cancel_left]
  have inside : (if 0xF0 + code / 64 ^ 3 = 0xF0 then 0x90 else 0x80) ≤ 0x80 + code / 64 ^ 2 % 64 ∧
      0x80 + code / 64 ^ 2 % 64 ≤ if 0xF0 + code / 64 ^ 3 = 0xF4 then 0x8F else 0xBF := by
    constructor <;> split_ifs <;> omega
  have whole : ((code / 64 ^ 3 * 64 + (0x80 + code / 64 ^ 2 % 64) % 64) * 64 +
      (0x80 + code / 64 % 64) % 64) * 64 + (0x80 + code % 64) % 64 = code := by omega
  rw [List.cons_append, decodeFrom_lead (by omega) lead]
  simp only [tails, Nat.pow_zero, Nat.pow_one, Nat.div_one, List.cons_append, List.nil_append]
  rw [decodeFrom_more (by exact inside) (Nat.le_succ 2),
    decodeFrom_more (by dsimp only; omega) (Nat.le_refl 2), decodeFrom_last (by dsimp only; omega) rfl]
  dsimp only
  rw [whole]

theorem decodeFrom_char (position : Nat) (character : Char) (rest : List Nat) :
    ∃ next, decodeFrom position none (encodeChar character ++ rest) =
      (character :: ·) <$> decodeFrom next none rest := by
  obtain ⟨code, valid, rfl⟩ : ∃ code : Nat, code.isValidChar ∧ character = Char.ofNat code :=
    ⟨character.toNat, character.valid, character.ofNat_toNat.symm⟩
  simp only [encodeChar, toNat_ofNat valid]
  split_ifs with one two three
  · refine ⟨position + 1, ?_⟩
    rw [List.cons_append, decodeFrom, if_pos one]
    rfl
  · exact ⟨position + 2, decodeFrom_two (by omega) two⟩
  · exact ⟨position + 3, decodeFrom_three valid (by omega) three⟩
  · have last : code < 0x110000 := by
      rcases valid with below | above <;> omega
    exact ⟨position + 4, decodeFrom_four (by omega) last⟩

theorem decodeFrom_encode (position : Nat) (text : List Char) :
    decodeFrom position none (encode text) = .ok text := by
  induction text generalizing position with
  | nil => rfl
  | cons character rest ih =>
    obtain ⟨next, read⟩ := decodeFrom_char position character (encode rest)
    rw [encode, List.flatMap_cons, ← encode, read, ih]
    rfl

end Complete

theorem decode_ok_iff {bytes : List Nat} {text : List Char} :
    decode bytes = .ok text ↔ encode text = bytes := by
  constructor
  · exact (decodeFrom_sound 0).1
  · rintro rfl
    exact decodeFrom_encode 0 text

theorem tails_lt (owed code : Nat) : ∀ byte ∈ tails owed code, byte < 256 := by
  induction owed with
  | zero => simp [tails]
  | succ owed ih =>
    refine List.forall_mem_cons.mpr ⟨?_, ih⟩
    have small := Nat.mod_lt (code / 64 ^ owed) (Nat.zero_lt_succ 63)
    omega

theorem encode_lt (text : List Char) : ∀ byte ∈ encode text, byte < 256 := by
  intro byte member
  obtain ⟨character, -, own⟩ := List.mem_flatMap.mp member
  have last : character.toNat < 0x110000 := by
    rcases character.valid with below | above
    · exact below.trans (by decide)
    · exact above.2
  rw [encodeChar] at own
  split_ifs at own with one two three
  · rw [List.mem_singleton.mp own]
    omega
  all_goals
    rcases List.mem_cons.mp own with rfl | later
    · omega
    · exact tails_lt _ _ byte later

end Utf8
