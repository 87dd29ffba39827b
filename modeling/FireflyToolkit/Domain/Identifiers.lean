import FireflyToolkit.Domain.Values

set_option autoImplicit false

namespace FireflyToolkit

open PyBuiltins

def hexDigit (character : Char) : Option Nat :=
  let code := character.toNat
  if 48 ≤ code ∧ code ≤ 57 then some (code - 48)
  else if 97 ≤ code ∧ code ≤ 102 then some (code - 87)
  else if 65 ≤ code ∧ code ≤ 70 then some (code - 55)
  else none

def readHex : Nat → List Char → Option Nat
  | value, [] => some value
  | value, character :: rest => (hexDigit character).bind fun digit => readHex (16 * value + digit) rest

theorem hexDigit_digitChar {digit : Nat} (small : digit < 16) :
    hexDigit (Nat.digitChar digit) = some digit := by
  have each : ∀ digit : Fin 16, hexDigit (Nat.digitChar digit) = some digit.val := by decide
  exact each ⟨digit, small⟩

theorem readHex_append (value : Nat) (before after : List Char) :
    readHex value (before ++ after) = (readHex value before).bind fun middle => readHex middle after := by
  induction before generalizing value with
  | nil => rfl
  | cons character rest ih =>
    rw [List.cons_append, readHex, readHex]
    cases hexDigit character with
    | none => rfl
    | some digit => exact ih (16 * value + digit)

theorem readHex_zeros (count : Nat) : readHex 0 (List.replicate count '0') = some 0 := by
  induction count with
  | zero => rfl
  | succ count ih =>
    rw [List.replicate_succ]
    exact ih

theorem readHex_toDigits (value : Nat) : readHex 0 (Nat.toDigits 16 value) = some value := by
  induction value using Nat.strongRecOn with
  | ind value ih =>
    by_cases small : value < 16
    next =>
      rw [Nat.toDigits_of_lt_base small]
      simp [readHex, hexDigit_digitChar small]
    next =>
      have before := ih (value / 16) (by omega)
      rw [Nat.toDigits_of_base_le (by decide) (by omega), readHex_append, before]
      simp only [Option.bind_some, readHex, hexDigit_digitChar (Nat.mod_lt value (by decide)),
        Option.some.injEq]
      omega

theorem hexDigit_of_mem_toDigits {value : Nat} {character : Char}
    (member : character ∈ Nat.toDigits 16 value) : ∃ digit, hexDigit character = some digit := by
  induction value using Nat.strongRecOn with
  | ind value ih =>
    by_cases small : value < 16
    next =>
      rw [Nat.toDigits_of_lt_base small, List.mem_singleton] at member
      exact ⟨value, member ▸ hexDigit_digitChar small⟩
    next =>
      rw [Nat.toDigits_of_base_le (by decide) (by omega)] at member
      rcases List.mem_append.mp member with before | last
      · exact ih (value / 16) (by omega) before
      · rw [List.mem_singleton.mp last]
        exact ⟨value % 16, hexDigit_digitChar (Nat.mod_lt value (by decide))⟩

-- `str.replace(pattern, "")`, where `skip` characters of a match are still to be dropped.
def removeAll (pattern : List Char) : Nat → List Char → List Char
  | _, [] => []
  | skip + 1, _ :: rest => removeAll pattern skip rest
  | 0, character :: rest =>
      if pattern.isPrefixOf (character :: rest) then removeAll pattern (pattern.length - 1) rest
      else character :: removeAll pattern 0 rest

theorem removeAll_absent {first : Char} {pattern text : List Char} (absent : first ∉ text) :
    removeAll (first :: pattern) 0 text = text := by
  induction text with
  | nil => rfl
  | cons character rest ih =>
    obtain ⟨differs, later⟩ := not_or.mp (List.mem_cons.not.mp absent)
    have starts : (first :: pattern).isPrefixOf (character :: rest) = false := by
      simp [List.isPrefixOf, differs]
    rw [removeAll, starts, ih later]
    rfl

def isBrace (character : Char) : Bool :=
  let code := character.toNat
  decide (code = 123 ∨ code = 125)

def stripBraces (text : List Char) : List Char :=
  ((text.dropWhile isBrace).reverse.dropWhile isBrace).reverse

theorem stripBraces_absent {text : List Char} (absent : ∀ character ∈ text, isBrace character = false) :
    stripBraces text = text := by
  have leading : ∀ {text : List Char}, (∀ character ∈ text, isBrace character = false) →
      text.dropWhile isBrace = text := by
    intro text absent
    cases text with
    | nil => rfl
    | cons character rest => rw [List.dropWhile_cons_of_neg (by simp [absent character])]
  rw [stripBraces, leading absent, leading (fun character member => absent character (by simpa using member)),
    List.reverse_reverse]

-- `UUID(text)`, with `none` for its `ValueError`.
def UUID.parse (text : String) : Option UUID :=
  let plain := removeAll "uuid:".toList 0 (removeAll "urn:".toList 0 text.toList)
  let digits := (stripBraces plain).filter (· ≠ '-')
  if digits.length = 32 then (readHex 0 digits).map UUID.mk else none

def UUID.digits (id : UUID) : List Char := (Nat.toDigits 16 id.value).leftpad 32 '0'

theorem UUID.digits_length {id : UUID} (fits : id.value < 2 ^ 128) : id.digits.length = 32 := by
  have short : (Nat.toDigits 16 id.value).length ≤ 32 :=
    (Nat.length_toDigits_le_iff (by decide) (by decide)).mpr fits
  simp [UUID.digits, List.leftpad, short]

theorem UUID.readHex_digits (id : UUID) : readHex 0 id.digits = some id.value := by
  rw [UUID.digits, List.leftpad, readHex_append, readHex_zeros]
  exact readHex_toDigits id.value

theorem UUID.digits_hex {id : UUID} {character : Char} (member : character ∈ id.digits) :
    ∃ digit, hexDigit character = some digit := by
  rw [UUID.digits, List.leftpad] at member
  rcases List.mem_append.mp member with zero | digit
  · rw [List.eq_of_mem_replicate zero]
    exact ⟨0, rfl⟩
  · exact hexDigit_of_mem_toDigits digit

theorem UUID.str_toList (id : UUID) :
    ∃ first second third fourth fifth, id.digits.take 32 = first ++ second ++ third ++ fourth ++ fifth ∧
      id.str.toList = first ++ '-' :: (second ++ '-' :: (third ++ '-' :: (fourth ++ '-' :: fifth))) := by
  refine ⟨(id.digits.drop 0).take 8, (id.digits.drop 8).take 4, (id.digits.drop 12).take 4,
    (id.digits.drop 16).take 4, (id.digits.drop 20).take 12, ?_, ?_⟩
  · have split : ∀ start length, id.digits.take (start + length) =
        id.digits.take start ++ (id.digits.drop start).take length := fun start length => List.take_add
    rw [show (32 : Nat) = 20 + 12 from rfl, split 20 12, show (20 : Nat) = 16 + 4 from rfl, split 16 4,
      show (16 : Nat) = 12 + 4 from rfl, split 12 4, show (12 : Nat) = 8 + 4 from rfl, split 8 4]
    rfl
  · simp [UUID.str, join, UUID.digits, String.toList_append]

theorem UUID.str_filter {id : UUID} (fits : id.value < 2 ^ 128) :
    id.str.toList.filter (· ≠ '-') = id.digits := by
  obtain ⟨first, second, third, fourth, fifth, digits, text⟩ := id.str_toList
  rw [List.take_of_length_le (id.digits_length fits).le] at digits
  have together : id.str.toList.filter (· ≠ '-') = id.digits.filter (· ≠ '-') := by
    simp [text, digits, List.filter_append]
  rw [together, List.filter_eq_self]
  intro character member
  obtain ⟨digit, isDigit⟩ := UUID.digits_hex member
  have differs : character ≠ '-' := by
    rintro rfl
    cases isDigit
  simpa using differs

theorem UUID.mem_str {id : UUID} (fits : id.value < 2 ^ 128) {character : Char}
    (member : character ∈ id.str.toList) :
    character = '-' ∨ ∃ digit, hexDigit character = some digit := by
  by_cases hyphen : character = '-'
  next => exact .inl hyphen
  next =>
    have kept : character ∈ id.str.toList.filter (· ≠ '-') :=
      List.mem_filter.mpr ⟨member, by simpa using hyphen⟩
    rw [UUID.str_filter fits] at kept
    exact .inr (UUID.digits_hex kept)

theorem isBrace_of_hexDigit {character : Char} {digit : Nat}
    (isDigit : hexDigit character = some digit) : isBrace character = false := by
  unfold hexDigit at isDigit
  dsimp only at isDigit
  simp only [isBrace, decide_eq_false_iff_not]
  split_ifs at isDigit <;> omega

theorem UUID.parse_str {id : UUID} (fits : id.value < 2 ^ 128) : UUID.parse id.str = some id := by
  have noPrefix : 'u' ∉ id.str.toList := by
    intro member
    rcases UUID.mem_str fits member with hyphen | ⟨digit, isDigit⟩
    · cases hyphen
    · cases isDigit
  have noBraces : ∀ character ∈ id.str.toList, isBrace character = false := by
    intro character member
    rcases UUID.mem_str fits member with rfl | ⟨digit, isDigit⟩
    · rfl
    · exact isBrace_of_hexDigit isDigit
  have urn : removeAll "urn:".toList 0 id.str.toList = id.str.toList := removeAll_absent noPrefix
  have uuid : removeAll "uuid:".toList 0 id.str.toList = id.str.toList := removeAll_absent noPrefix
  rw [UUID.parse, urn, uuid, stripBraces_absent noBraces, UUID.str_filter fits,
    if_pos (UUID.digits_length fits), UUID.readHex_digits]
  rfl

end FireflyToolkit
