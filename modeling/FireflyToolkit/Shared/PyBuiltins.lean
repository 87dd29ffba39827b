import Mathlib.Algebra.Ring.Nat
import Mathlib.Data.List.Forall2
import Mathlib.Data.List.Infix

set_option autoImplicit false

namespace PyBuiltins

/-- Substring membership, `needle in text`. -/
def OccursIn (needle text : String) : Prop := needle.toList <:+: text.toList

instance (needle text : String) : Decidable (OccursIn needle text) :=
  inferInstanceAs (Decidable (needle.toList <:+: text.toList))

theorem occursIn_refl (text : String) : OccursIn text text := List.infix_rfl

theorem OccursIn.trans {first second third : String} (left : OccursIn first second)
    (right : OccursIn second third) : OccursIn first third := List.IsInfix.trans left right

theorem empty_occursIn (text : String) : OccursIn "" text := List.nil_infix

theorem occursIn_append_left (left right : String) : OccursIn left (left ++ right) := by
  simpa [OccursIn] using List.infix_append_left

theorem occursIn_append_right (left right : String) : OccursIn right (left ++ right) := by
  simpa [OccursIn] using List.infix_append_right

def join (separator : String) : List String → String
  | [] => ""
  | [item] => item
  | item :: rest => item ++ separator ++ join separator rest

theorem append_mark_inj {α : Type} {mark : α} {left left' right right' : List α}
    (clean : mark ∉ left) (clean' : mark ∉ left')
    (same : left ++ mark :: right = left' ++ mark :: right') : left = left' ∧ right = right' := by
  induction left generalizing left' with
  | nil =>
    cases left' with
    | nil => simpa using same
    | cons head rest =>
      have first : mark = head := (List.cons.inj same).1
      simp [first] at clean'
  | cons head rest ih =>
    cases left' with
    | nil =>
      have first : head = mark := (List.cons.inj same).1
      simp [first] at clean
    | cons head' rest' =>
      obtain ⟨sameHead, sameRest⟩ := List.cons.inj same
      obtain ⟨sameLeft, sameRight⟩ := ih (fun member => clean (.tail _ member))
        (fun member => clean' (.tail _ member)) sameRest
      exact ⟨by rw [sameHead, sameLeft], sameRight⟩

theorem join_cons_inj {separator text text' next next' : String} {mark : Char}
    {rest rest' : List String} (single : separator.toList = [mark]) (clean : mark ∉ text.toList)
    (clean' : mark ∉ text'.toList)
    (same : join separator (text :: next :: rest) = join separator (text' :: next' :: rest')) :
    text = text' ∧ join separator (next :: rest) = join separator (next' :: rest') := by
  have characters := congrArg String.toList same
  simp only [join, String.toList_append, single, List.append_assoc, List.singleton_append] at characters
  obtain ⟨first, later⟩ := append_mark_inj clean clean' characters
  exact ⟨String.toList_injective first, String.toList_injective later⟩

theorem join_injective {separator : String} {mark : Char} (single : separator.toList = [mark])
    {texts texts' : List String} (lengths : texts.length = texts'.length)
    (clean : ∀ text ∈ texts, mark ∉ text.toList) (clean' : ∀ text ∈ texts', mark ∉ text.toList)
    (same : join separator texts = join separator texts') : texts = texts' := by
  induction texts generalizing texts' with
  | nil => exact (List.length_eq_zero_iff.mp lengths.symm).symm
  | cons text rest ih =>
    obtain ⟨text', rest', rfl⟩ := List.exists_cons_of_length_eq_add_one lengths.symm
    cases rest with
    | nil =>
      obtain rfl : rest' = [] := by simpa using lengths.symm
      simpa [join] using same
    | cons next later =>
      obtain ⟨next', later', rfl⟩ := List.exists_cons_of_length_eq_add_one
        (show rest'.length = later.length + 1 by simpa using lengths.symm)
      obtain ⟨first, others⟩ := join_cons_inj single (clean text (by simp)) (clean' text' (by simp)) same
      have remaining := ih (by simpa using lengths) (fun other member => clean other (.tail _ member))
        (fun other member => clean' other (.tail _ member)) others
      rw [first, remaining]

/-- The characters that `str.strip` removes. -/
def isSpace (character : Char) : Bool :=
  let code := character.toNat
  decide ((9 ≤ code ∧ code ≤ 13) ∨ (28 ≤ code ∧ code ≤ 32) ∨ code = 0x85 ∨ code = 0xa0 ∨
    code = 0x1680 ∨ (0x2000 ≤ code ∧ code ≤ 0x200a) ∨ code = 0x2028 ∨ code = 0x2029 ∨
    code = 0x202f ∨ code = 0x205f ∨ code = 0x3000)

def isBlank (text : String) : Bool := text.toList.all isSpace

-- `str.lower` where the only upper case letters are those of ASCII.
def asciiLower (text : String) : String := String.ofList (text.toList.map Char.toLower)

/-- The slice `items[:limit]`; a negative limit counts from the end. -/
def sliceTo {α : Type} (limit : Int) (items : List α) : List α :=
  if 0 ≤ limit then items.take limit.toNat else items.take (items.length - (-limit).toNat)

theorem sliceTo_sublist {α : Type} (limit : Int) (items : List α) :
    (sliceTo limit items).Sublist items := by
  unfold sliceTo
  split_ifs <;> exact List.take_sublist _ _

theorem sliceTo_of_length_le {α : Type} {limit : Int} {items : List α}
    (fits : (items.length : Int) ≤ limit) : sliceTo limit items = items := by
  have nonnegative : 0 ≤ limit := by omega
  rw [sliceTo, if_pos nonnegative, List.take_of_length_le (by omega)]

theorem sliceTo_map {α β : Type} (function : α → β) (limit : Int) (items : List α) :
    sliceTo limit (items.map function) = (sliceTo limit items).map function := by
  unfold sliceTo
  split_ifs <;> simp [List.map_take]

/-- Digits padded with zeros on the left, as in the format `%04d`. -/
def padZeros (width value : Nat) : String :=
  let digits := toString value
  String.ofList (List.replicate (width - digits.length) '0') ++ digits

theorem padZeros_toList (width value : Nat) :
    (padZeros width value).toList =
      List.replicate (width - (Nat.toDigits 10 value).length) '0' ++ Nat.toDigits 10 value := by
  have digits : (toString value).length = (Nat.toDigits 10 value).length := by
    rw [Nat.toString_eq_repr, ← String.length_toList, Nat.toList_repr]
  rw [padZeros, String.toList_append, String.toList_ofList, digits, Nat.toString_eq_repr,
    Nat.toList_repr]

theorem padZeros_value (width value : Nat) :
    Nat.ofDigitChars 10 (padZeros width value).toList 0 = value := by
  rw [padZeros_toList, Nat.ofDigitChars_append, Nat.ofDigitChars_replicate_zero, Nat.mul_zero,
    Nat.ofDigitChars_ten_toDigits]

theorem padZeros_injective {width value other : Nat} (same : padZeros width value = padZeros width other) :
    value = other := by
  rw [← padZeros_value width value, same, padZeros_value]

theorem padZeros_length {width value : Nat} (positive : 0 < width) (fits : value < 10 ^ width) :
    (padZeros width value).toList.length = width := by
  have short := (Nat.length_toDigits_le_iff (by decide) positive).mpr fits
  rw [padZeros_toList, List.length_append, List.length_replicate]
  omega

theorem padZeros_digits (width value : Nat) :
    (padZeros width value).toList.all Char.isDigit = true := by
  rw [padZeros_toList, List.all_append, Bool.and_eq_true, List.all_eq_true, List.all_eq_true]
  constructor
  · intro character member
    rw [List.eq_of_mem_replicate member]
    decide
  · intro character member
    exact Nat.isDigit_of_mem_toDigits (by decide) (by decide) member

theorem exists_last {α : Type} {test : α → Prop} {items : List α}
    (present : ∃ item ∈ items, test item) :
    ∃ before item after, items = before ++ item :: after ∧ test item ∧ ∀ later ∈ after, ¬ test later := by
  induction items with
  | nil => simp at present
  | cons head rest ih =>
    by_cases later : ∃ item ∈ rest, test item
    · obtain ⟨before, item, after, rfl, passes, last⟩ := ih later
      exact ⟨head :: before, item, after, rfl, passes, last⟩
    · have passes : test head := by
        obtain ⟨item, member, passes⟩ := present
        rcases List.mem_cons.mp member with rfl | inRest
        · exact passes
        · exact absurd ⟨item, inRest, passes⟩ later
      exact ⟨[], head, rest, rfl, passes, fun item member holds => later ⟨item, member, holds⟩⟩

theorem getLast?_filterMap_eq_some {α β : Type} {function : α → Option β} {items : List α}
    {output : β} :
    (items.filterMap function).getLast? = some output ↔
      ∃ before item after, items = before ++ item :: after ∧ function item = some output ∧
        ∀ later ∈ after, function later = none := by
  rw [List.getLast?_eq_head?_reverse, ← List.filterMap_reverse, List.head?_filterMap,
    List.findSome?_eq_some_iff]
  constructor
  · rintro ⟨before, item, after, split, found, earlier⟩
    refine ⟨after.reverse, item, before.reverse, ?_, found, by simpa using earlier⟩
    simpa using congrArg List.reverse split
  · rintro ⟨before, item, after, rfl, found, later⟩
    exact ⟨after.reverse, item, before.reverse, by simp, found, by simpa using later⟩

theorem zipIdx_filter_fst {α : Type} (test : α → Bool) (items : List α) (start : Nat) :
    ((items.zipIdx start).filter fun item => test item.1).map Prod.fst = items.filter test := by
  induction items generalizing start with
  | nil => rfl
  | cons item rest ih =>
    cases passes : test item <;> simp [List.zipIdx_cons, passes, ih]

section Except

variable {ε α β γ : Type}

theorem map_eq_ok {function : α → β} {outcome : Except ε α} {value : β} :
    outcome.map function = .ok value ↔ ∃ result, outcome = .ok result ∧ function result = value := by
  cases outcome <;> simp [Except.map]

theorem bind_eq_ok {outcome : Except ε α} {next : α → Except ε β} {value : β} :
    outcome >>= next = .ok value ↔ ∃ result, outcome = .ok result ∧ next result = .ok value := by
  cases outcome <;> simp [bind, Except.bind]

theorem bind_eq_error {outcome : Except ε α} {next : α → Except ε β} {failure : ε} :
    outcome >>= next = .error failure ↔
      outcome = .error failure ∨ ∃ result, outcome = .ok result ∧ next result = .error failure := by
  cases outcome <;> simp [bind, Except.bind]

theorem mapM_eq_ok {function : α → Except ε β} {inputs : List α} {outputs : List β} :
    inputs.mapM function = .ok outputs ↔
      List.Forall₂ (fun input output => function input = .ok output) inputs outputs := by
  induction inputs generalizing outputs with
  | nil =>
    rw [List.mapM_nil, List.forall₂_nil_left_iff]
    exact ⟨fun none => (Except.ok.inj none).symm, fun none => by rw [none]; rfl⟩
  | cons input rest ih =>
    rw [List.mapM_cons, List.forall₂_cons_left_iff, bind_eq_ok]
    constructor
    · rintro ⟨output, first, later⟩
      obtain ⟨others, read, same⟩ := bind_eq_ok.mp later
      exact ⟨output, others, first, ih.mp read, (Except.ok.inj same).symm⟩
    · rintro ⟨output, others, first, later, rfl⟩
      exact ⟨output, first, bind_eq_ok.mpr ⟨others, ih.mpr later, rfl⟩⟩

theorem mapM_ok {function : α → Except ε β} {output : α → β} {inputs : List α}
    (each : ∀ input ∈ inputs, function input = .ok (output input)) :
    inputs.mapM function = .ok (inputs.map output) := by
  rw [mapM_eq_ok, List.forall₂_map_right_iff, List.forall₂_same]
  exact each

theorem mapM_eq_ok_iff_map {function : α → Except ε β} {inputs : List α} {outputs : List β} :
    inputs.mapM function = .ok outputs ↔ inputs.map function = outputs.map .ok := by
  rw [mapM_eq_ok, ← List.forall₂_eq_eq_eq, List.forall₂_map_left_iff, List.forall₂_map_right_iff]

theorem mapM_mem {function : α → Except ε β} {inputs : List α} {outputs : List β} {input : α}
    (mapped : inputs.mapM function = .ok outputs) (member : input ∈ inputs) :
    ∃ output ∈ outputs, function input = .ok output := by
  have listed : function input ∈ inputs.map function := List.mem_map_of_mem member
  rw [mapM_eq_ok_iff_map.mp mapped] at listed
  obtain ⟨output, inside, same⟩ := List.mem_map.mp listed
  exact ⟨output, inside, same.symm⟩

theorem mem_of_mapM {function : α → Except ε β} {inputs : List α} {outputs : List β} {output : β}
    (mapped : inputs.mapM function = .ok outputs) (member : output ∈ outputs) :
    ∃ input ∈ inputs, function input = .ok output := by
  have listed : (.ok output : Except ε β) ∈ outputs.map .ok := List.mem_map_of_mem member
  rw [← mapM_eq_ok_iff_map.mp mapped] at listed
  exact List.mem_map.mp listed

theorem exists_forall₂ {relation : α → β → Prop} {inputs : List α}
    (each : ∀ input ∈ inputs, ∃ output, relation input output) :
    ∃ outputs, List.Forall₂ relation inputs outputs := by
  induction inputs with
  | nil => exact ⟨[], .nil⟩
  | cons input rest ih =>
    obtain ⟨output, first⟩ := each input (by simp)
    obtain ⟨outputs, later⟩ := ih fun other member => each other (by simp [member])
    exact ⟨output :: outputs, .cons first later⟩

theorem mem_of_forall₂ {relation : α → β → Prop} {inputs : List α} {outputs : List β}
    (related : List.Forall₂ relation inputs outputs) {input : α} (member : input ∈ inputs) :
    ∃ output, relation input output := by
  induction related with
  | nil => simp at member
  | cons first _ ih =>
    rcases List.mem_cons.mp member with rfl | later
    · exact ⟨_, first⟩
    · exact ih later

theorem forall₂_getElem? {relation : α → β → Prop} {inputs : List α} {outputs : List β}
    (related : List.Forall₂ relation inputs outputs) {place : Nat} {input : α}
    (placed : inputs[place]? = some input) :
    ∃ output, outputs[place]? = some output ∧ relation input output := by
  induction related generalizing place with
  | nil => cases placed
  | cons first _ ih =>
    cases place with
    | zero =>
      obtain rfl := Option.some.inj placed
      exact ⟨_, rfl, first⟩
    | succ place => exact ih placed

theorem mapM_ok_each {function : α → Except ε β} {inputs : List α} {outputs : List β}
    (mapped : inputs.mapM function = .ok outputs) :
    ∀ input ∈ inputs, ∃ output, function input = .ok output :=
  fun _ member => mem_of_forall₂ (mapM_eq_ok.mp mapped) member

theorem mapM_ok_iff {function : α → Except ε β} {inputs : List α} :
    (∃ outputs, inputs.mapM function = .ok outputs) ↔
      ∀ input ∈ inputs, ∃ output, function input = .ok output := by
  constructor
  · rintro ⟨outputs, mapped⟩
    exact mapM_ok_each mapped
  · intro each
    obtain ⟨outputs, related⟩ := exists_forall₂ each
    exact ⟨outputs, mapM_eq_ok.mpr related⟩

theorem mapM_ok_map {function : α → Except ε β} {project : β → γ} {expected : α → γ}
    {inputs : List α} {outputs : List β} (correct : ∀ input ∈ inputs, ∀ output,
      function input = .ok output → project output = expected input)
    (mapped : inputs.mapM function = .ok outputs) : outputs.map project = inputs.map expected := by
  have related := mapM_eq_ok.mp mapped
  clear mapped
  induction related with
  | nil => rfl
  | cons first _ ih =>
    rw [List.map_cons, List.map_cons, correct _ List.mem_cons_self _ first,
      ih fun input member => correct input (List.mem_cons_of_mem _ member)]

end Except

end PyBuiltins
