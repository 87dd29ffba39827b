import Mathlib.Data.List.Basic
import Mathlib.Tactic.SplitIfs

set_option autoImplicit false

namespace Base64

def value (character : Char) : Option Nat :=
  let code := character.toNat
  if 65 ≤ code ∧ code ≤ 90 then some (code - 65)
  else if 97 ≤ code ∧ code ≤ 122 then some (code - 71)
  else if 48 ≤ code ∧ code ≤ 57 then some (code + 4)
  else if character = '+' then some 62
  else if character = '/' then some 63
  else none

/-- The values of the data characters before the padding that completes them, and whether there is
one. Other characters are skipped, and so is padding where no byte is begun. -/
def scan (count pads : Nat) : List Char → List Nat × Bool
  | [] => ([], false)
  | character :: rest =>
      if character = '=' then
        if count % 4 < 2 then scan count pads rest
        else if 4 ≤ count % 4 + (pads + 1) then ([], true)
        else scan count (pads + 1) rest
      else
        match value character with
        | none => scan count pads rest
        | some sextet =>
            let (later, ended) := scan (count + 1) 0 rest
            (sextet :: later, ended)

def bytesOf : List Nat → List Nat
  | first :: second :: third :: fourth :: rest =>
      (first * 4 + second / 16) :: (second % 16 * 16 + third / 4) :: (third % 4 * 64 + fourth) ::
        bytesOf rest
  | [first, second, third] => [first * 4 + second / 16, second % 16 * 16 + third / 4]
  | [first, second] => [first * 4 + second / 16]
  | _ => []

def dataOf (text : List Char) : List Nat := (scan 0 0 text).1

def decode (text : List Char) : Except String (List Nat) :=
  let (sextets, ended) := scan 0 0 text
  if ended = true ∨ sextets.length % 4 = 0 then .ok (bytesOf sextets)
  else if sextets.length % 4 = 1 then
    .error ("Invalid base64-encoded string: number of data characters (" ++ toString sextets.length ++
      ") cannot be 1 more than a multiple of 4")
  else .error "Incorrect padding"

example : decode "YW Jj\nZA=!=Zg".toList = .ok [97, 98, 99, 100] := by decide

def dataCount (text : List Char) : Nat := text.countP fun character => (value character).isSome

def Padded (text : List Char) : Prop :=
  ∃ front padding rest, text = front ++ (padding ++ rest) ∧ dataCount padding = 0 ∧
    2 ≤ dataCount front % 4 ∧ 4 ≤ dataCount front % 4 + padding.count '='

def Complete (text : List Char) : Prop := Padded text ∨ dataCount text % 4 = 0

section Scan

variable {count pads : Nat} {character : Char} {rest text : List Char}

theorem value_equals : value '=' = none := by decide

@[simp] theorem dataCount_nil : dataCount [] = 0 := rfl

theorem dataCount_cons_none (other : value character = none) :
    dataCount (character :: rest) = dataCount rest := by
  simp [dataCount, other]

theorem dataCount_cons_some {sextet : Nat} (own : value character = some sextet) :
    dataCount (character :: rest) = dataCount rest + 1 := by
  simp [dataCount, own]

@[simp] theorem dataCount_append (left right : List Char) :
    dataCount (left ++ right) = dataCount left + dataCount right := List.countP_append

theorem ne_equals_of_value {sextet : Nat} (own : value character = some sextet) : character ≠ '=' := by
  rintro rfl
  cases own

theorem scan_skip (other : value character = none) (notEquals : character ≠ '=') :
    scan count pads (character :: rest) = scan count pads rest := by
  rw [scan, if_neg notEquals, other]

theorem scan_data {sextet : Nat} (own : value character = some sextet) :
    scan count pads (character :: rest) =
      (sextet :: (scan (count + 1) 0 rest).1, (scan (count + 1) 0 rest).2) := by
  rw [scan, if_neg (ne_equals_of_value own), own]

theorem length_scan (open' : (scan count pads text).2 = false) :
    (scan count pads text).1.length = dataCount text := by
  induction text generalizing count pads with
  | nil => rfl
  | cons character rest ih =>
    by_cases equals : character = '='
    · subst equals
      rw [dataCount_cons_none value_equals]
      rw [scan, if_pos rfl] at open' ⊢
      split_ifs at open' ⊢
      · exact ih open'
      · exact ih open'
    · cases own : value character with
      | none =>
        rw [scan_skip own equals] at open' ⊢
        rw [dataCount_cons_none own, ih open']
      | some sextet =>
        rw [scan_data own] at open' ⊢
        rw [dataCount_cons_some own, List.length_cons, ih open']

end Scan

/-- The padding read since the last data character does not complete the data characters. -/
structure Pending (count pads : Nat) : Prop where
  incomplete : 2 ≤ count % 4 → count % 4 + pads < 4
  unbegun : count % 4 < 2 → pads = 0

def PaddedFrom (count pads : Nat) (text : List Char) : Prop :=
  ∃ front padding rest, text = front ++ (padding ++ rest) ∧ dataCount padding = 0 ∧
    2 ≤ (count + dataCount front) % 4 ∧
    4 ≤ (count + dataCount front) % 4 + (if dataCount front = 0 then pads else 0) + padding.count '='

section Padding

variable {count pads : Nat} {character : Char} {rest : List Char}

theorem Pending.not_padded_nil (pending : Pending count pads) : ¬ PaddedFrom count pads [] := by
  rintro ⟨front, padding, rest, split, -, begun, enough⟩
  obtain ⟨rfl, tail⟩ := List.append_eq_nil_iff.mp split.symm
  obtain ⟨rfl, rfl⟩ := List.append_eq_nil_iff.mp tail
  have incomplete := pending.incomplete begun
  simp at enough
  omega

theorem Pending.paddedFrom_cons (pending : Pending count pads) :
    PaddedFrom count pads (character :: rest) ↔
      (∃ front padding later, rest = front ++ (padding ++ later) ∧ dataCount padding = 0 ∧
        2 ≤ (count + dataCount (character :: front)) % 4 ∧
        4 ≤ (count + dataCount (character :: front)) % 4 +
          (if dataCount (character :: front) = 0 then pads else 0) + padding.count '=') ∨
      (∃ padding later, rest = padding ++ later ∧ dataCount (character :: padding) = 0 ∧
        2 ≤ count % 4 ∧ 4 ≤ count % 4 + pads + (character :: padding).count '=') := by
  constructor
  · rintro ⟨front, padding, later, split, plain, begun, enough⟩
    cases front with
    | cons first front =>
      obtain ⟨rfl, tail⟩ := List.cons_eq_cons.mp split
      exact .inl ⟨front, padding, later, tail, plain, begun, enough⟩
    | nil =>
      cases padding with
      | nil =>
        have incomplete := pending.incomplete begun
        simp at enough
        omega
      | cons first padding =>
        obtain ⟨rfl, tail⟩ := List.cons_eq_cons.mp split
        exact .inr ⟨padding, later, tail, plain, by simpa using begun, by simpa using enough⟩
  · rintro (⟨front, padding, later, rfl, plain, begun, enough⟩ |
      ⟨padding, later, rfl, plain, begun, enough⟩)
    · exact ⟨character :: front, padding, later, rfl, plain, begun, enough⟩
    · exact ⟨[], character :: padding, later, rfl, plain, by simpa using begun, by simpa using enough⟩

theorem Pending.padded_skip (pending : Pending count pads) (other : value character = none)
    (notEquals : character ≠ '=') : PaddedFrom count pads (character :: rest) ↔
      PaddedFrom count pads rest := by
  rw [pending.paddedFrom_cons]
  simp only [dataCount_cons_none other, List.count_cons_of_ne notEquals]
  constructor
  · rintro (whole | ⟨padding, later, split, plain, begun, enough⟩)
    · exact whole
    · exact ⟨[], padding, later, split, plain, by simpa using begun, by simpa using enough⟩
  · exact .inl

theorem Pending.padded_data (pending : Pending count pads) {sextet : Nat}
    (own : value character = some sextet) : PaddedFrom count pads (character :: rest) ↔
      PaddedFrom (count + 1) 0 rest := by
  rw [pending.paddedFrom_cons]
  simp only [dataCount_cons_some own]
  have counts : ∀ front, count + (dataCount front + 1) = count + 1 + dataCount front := by omega
  simp [PaddedFrom, counts]

theorem Pending.padded_unbegun (pending : Pending count pads) (unbegun : count % 4 < 2) :
    PaddedFrom count pads ('=' :: rest) ↔ PaddedFrom count pads rest := by
  rw [pending.paddedFrom_cons]
  simp only [dataCount_cons_none value_equals]
  constructor
  · rintro (whole | ⟨-, -, -, -, begun, -⟩)
    · exact whole
    · omega
  · exact .inl

theorem Pending.padded_pad (pending : Pending count pads) (begun : 2 ≤ count % 4) :
    PaddedFrom count pads ('=' :: rest) ↔ PaddedFrom count (pads + 1) rest := by
  rw [pending.paddedFrom_cons]
  simp only [dataCount_cons_none value_equals, List.count_cons_self]
  constructor
  · rintro (⟨front, padding, later, split, plain, begun', enough⟩ |
      ⟨padding, later, split, plain, -, enough⟩)
    · refine ⟨front, padding, later, split, plain, begun', ?_⟩
      split_ifs at enough ⊢ <;> omega
    · refine ⟨[], padding, later, split, plain, by simpa using begun, ?_⟩
      simp only [dataCount_nil, Nat.add_zero, if_true]
      omega
  · rintro ⟨front, padding, later, split, plain, begun', enough⟩
    by_cases none : dataCount front = 0
    · refine .inr ⟨front ++ padding, later, by simp [split], by simp [none, plain], begun, ?_⟩
      rw [List.count_append]
      rw [if_pos none, none] at enough
      omega
    · refine .inl ⟨front, padding, later, split, plain, begun', ?_⟩
      rwa [if_neg none] at enough ⊢

theorem Pending.padded_complete (pending : Pending count pads) (begun : 2 ≤ count % 4)
    (complete : 4 ≤ count % 4 + (pads + 1)) : PaddedFrom count pads ('=' :: rest) := by
  rw [pending.paddedFrom_cons]
  refine .inr ⟨[], rest, rfl, by simp [dataCount_cons_none value_equals], begun, ?_⟩
  rw [List.count_cons_self, List.count_nil]
  omega

-- The reading ends at padding where there is some that completes the data characters.
theorem scan_ended_iff (pending : Pending count pads) (text : List Char) :
    (scan count pads text).2 = true ↔ PaddedFrom count pads text := by
  induction text generalizing count pads with
  | nil => simp [scan, pending.not_padded_nil]
  | cons character rest ih =>
    by_cases equals : character = '='
    · subst equals
      rw [scan, if_pos rfl]
      split_ifs with unbegun complete
      · rw [ih pending, pending.padded_unbegun unbegun]
      · simp [pending.padded_complete (by omega) complete]
      · rw [ih ⟨by omega, by omega⟩, pending.padded_pad (by omega)]
    · cases own : value character with
      | none => rw [scan_skip own equals, ih pending, pending.padded_skip own equals]
      | some sextet =>
        rw [scan_data own, pending.padded_data own]
        exact ih ⟨by omega, by omega⟩

end Padding

theorem decode_ok_iff {text : List Char} {bytes : List Nat} :
    decode text = .ok bytes ↔ Complete text ∧ bytesOf (dataOf text) = bytes := by
  have padded : (scan 0 0 text).2 = true ↔ Padded text := by
    rw [scan_ended_iff ⟨by omega, by omega⟩]
    simp [PaddedFrom, Padded]
  have complete : Complete text ↔
      ((scan 0 0 text).2 = true ∨ (scan 0 0 text).1.length % 4 = 0) := by
    rw [Complete, ← padded]
    cases open' : (scan 0 0 text).2 with
    | true => simp
    | false => rw [length_scan open']
  rw [complete, decode, dataOf]
  dsimp only
  split_ifs with whole one <;> simp [whole]

def letterOf (sextet : Nat) : Char :=
  if sextet < 26 then Char.ofNat (sextet + 65)
  else if sextet < 52 then Char.ofNat (sextet + 71)
  else if sextet < 62 then Char.ofNat (sextet - 4)
  else if sextet = 62 then '+'
  else '/'

def sextetsOf : List Nat → List Nat
  | first :: second :: third :: rest =>
      (first / 4) :: (first % 4 * 16 + second / 16) :: (second % 16 * 4 + third / 64) ::
        (third % 64) :: sextetsOf rest
  | [first, second] => [first / 4, first % 4 * 16 + second / 16, second % 16 * 4]
  | [first] => [first / 4, first % 4 * 16]
  | [] => []

def letters (bytes : List Nat) : List Char := (sextetsOf bytes).map letterOf

def encode (bytes : List Nat) : List Char :=
  letters bytes ++ List.replicate ((3 - bytes.length % 3) % 3) '='

example : encode [97, 98, 99, 255] = "YWJj/w==".toList := by decide

section Encoding

variable {bytes : List Nat}

theorem value_letterOf {sextet : Nat} (small : sextet < 64) : value (letterOf sextet) = some sextet := by
  have every : ∀ sextet < 64, value (letterOf sextet) = some sextet := by decide
  exact every sextet small

theorem sextetsOf_lt (inside : ∀ byte ∈ bytes, byte < 256) : ∀ sextet ∈ sextetsOf bytes, sextet < 64 := by
  induction bytes using sextetsOf.induct with
  | case1 first second third rest ih =>
    simp only [sextetsOf, List.forall_mem_cons] at inside ⊢
    obtain ⟨one, two, three, others⟩ := inside
    exact ⟨by omega, by omega, by omega, by omega, ih others⟩
  | case2 first second =>
    have own : first < 256 ∧ second < 256 := by
      refine ⟨inside _ ?_, inside _ ?_⟩ <;> simp
    simp only [sextetsOf, List.forall_mem_cons]
    exact ⟨by omega, by omega, by omega, by simp⟩
  | case3 first =>
    have own : first < 256 := inside _ (by simp)
    simp only [sextetsOf, List.forall_mem_cons]
    exact ⟨by omega, by omega, by simp⟩
  | case4 => simp [sextetsOf]

theorem bytesOf_sextetsOf (inside : ∀ byte ∈ bytes, byte < 256) : bytesOf (sextetsOf bytes) = bytes := by
  induction bytes using sextetsOf.induct with
  | case1 first second third rest ih =>
    simp only [List.forall_mem_cons] at inside
    obtain ⟨one, two, three, others⟩ := inside
    simp only [sextetsOf, bytesOf, ih others, List.cons.injEq, and_true]
    omega
  | case2 first second =>
    have own : first < 256 ∧ second < 256 := by
      refine ⟨inside _ ?_, inside _ ?_⟩ <;> simp
    simp only [sextetsOf, bytesOf, List.cons.injEq, and_true]
    omega
  | case3 first =>
    have own : first < 256 := inside _ (by simp)
    simp only [sextetsOf, bytesOf, List.cons.injEq, and_true]
    omega
  | case4 => rfl

theorem length_letters_mod (bytes : List Nat) :
    (letters bytes).length % 4 = bytes.length % 3 + (bytes.length % 3 + 1) / 2 := by
  rw [letters, List.length_map]
  induction bytes using sextetsOf.induct with
  | case1 first second third rest ih =>
    simp only [sextetsOf, List.length_cons]
    omega
  | case2 first second => simp [sextetsOf]
  | case3 first => simp [sextetsOf]
  | case4 => simp [sextetsOf]

theorem mem_letters (inside : ∀ byte ∈ bytes, byte < 256) {character : Char}
    (member : character ∈ letters bytes) : ∃ sextet < 64, letterOf sextet = character := by
  obtain ⟨sextet, own, rfl⟩ := List.mem_map.mp member
  exact ⟨sextet, sextetsOf_lt inside sextet own, rfl⟩

theorem scan_letters {sextets : List Nat} (small : ∀ sextet ∈ sextets, sextet < 64)
    (count : Nat) (rest : List Char) :
    scan count 0 (sextets.map letterOf ++ rest) =
      (sextets ++ (scan (count + sextets.length) 0 rest).1, (scan (count + sextets.length) 0 rest).2) := by
  induction sextets generalizing count with
  | nil => simp
  | cons sextet sextets ih =>
    have own := value_letterOf (small sextet (by simp))
    rw [List.map_cons, List.cons_append, scan_data own,
      ih fun other member => small other (by simp [member])]
    simp only [List.length_cons, List.cons_append, Nat.add_assoc, Nat.add_comm 1]

theorem scan_replicate (count pads more : Nat) :
    (scan count pads (List.replicate more '=')).1 = [] := by
  induction more generalizing pads with
  | zero => rfl
  | succ more ih =>
    rw [List.replicate_succ, scan, if_pos rfl]
    split_ifs
    · exact ih pads
    · rfl
    · exact ih (pads + 1)

theorem decode_encode (inside : ∀ byte ∈ bytes, byte < 256) : decode (encode bytes) = .ok bytes := by
  have small := sextetsOf_lt inside
  have data : dataOf (encode bytes) = sextetsOf bytes := by
    rw [dataOf, encode, letters, scan_letters small, scan_replicate, List.append_nil]
  have count : dataCount (letters bytes) = (letters bytes).length := by
    refine List.countP_eq_length.mpr fun character member => ?_
    obtain ⟨sextet, own, rfl⟩ := mem_letters inside member
    rw [value_letterOf own, Option.isSome_some]
  have pads : ∀ more, dataCount (List.replicate more '=') = 0 := fun more =>
    List.countP_eq_zero.mpr fun character member => by
      rw [List.eq_of_mem_replicate member, value_equals]
      simp
  have remainder := length_letters_mod bytes
  refine decode_ok_iff.mpr ⟨?_, by rw [data, bytesOf_sextetsOf inside]⟩
  by_cases whole : bytes.length % 3 = 0
  · refine .inr ?_
    rw [encode, dataCount_append, pads, count]
    omega
  · refine .inl ⟨letters bytes, List.replicate ((3 - bytes.length % 3) % 3) '=', [], ?_, pads _, ?_, ?_⟩
    · rw [encode, List.append_nil]
    · omega
    · rw [count, List.count_replicate_self]
      omega

end Encoding

end Base64
