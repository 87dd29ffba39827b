import Mathlib.Data.List.Nodup

set_option autoImplicit false

namespace OrderedDict

variable {K V : Type} [DecidableEq K]

/-- A dictionary that iterates in insertion order; no key occurs twice. -/
structure Dict (K V : Type) where
  entries : List (K × V)
  distinct : (entries.map Prod.fst).Nodup

def setEntry (key : K) (value : V) : List (K × V) → List (K × V)
  | [] => [(key, value)]
  | (other, old) :: rest =>
      if other = key then (key, value) :: rest else (other, old) :: setEntry key value rest

theorem setEntry_keys (key : K) (value : V) (entries : List (K × V)) :
    (setEntry key value entries).map Prod.fst =
      if key ∈ entries.map Prod.fst then entries.map Prod.fst
      else entries.map Prod.fst ++ [key] := by
  induction entries with
  | nil => simp [setEntry]
  | cons head rest ih =>
    obtain ⟨other, old⟩ := head
    by_cases same : other = key
    · simp [setEntry, same]
    · have different : ¬ key = other := fun equal => same equal.symm
      simp only [setEntry, same, if_false, List.map_cons, ih, List.mem_cons, different, false_or]
      split_ifs <;> simp

theorem setEntry_nodup (key : K) (value : V) (entries : List (K × V))
    (distinct : (entries.map Prod.fst).Nodup) :
    ((setEntry key value entries).map Prod.fst).Nodup := by
  rw [setEntry_keys]
  split_ifs with present
  · exact distinct
  · exact List.nodup_append.mpr ⟨distinct, by simp, by
      intro left leftMember right rightMember equal
      rw [List.mem_singleton.mp rightMember] at equal
      exact present (equal ▸ leftMember)⟩

theorem lookup_pair (key stored : K) (value : V) (rest : List (K × V)) :
    List.lookup key ((stored, value) :: rest) =
      if key = stored then some value else rest.lookup key := by
  by_cases same : key = stored
  · simp [same]
  · have differs : (key == stored) = false := beq_eq_false_iff_ne.mpr same
    simp only [List.lookup_cons, differs, same, if_false]

theorem lookup_setEntry (key other : K) (value : V) (entries : List (K × V)) :
    (setEntry key value entries).lookup other =
      if other = key then some value else entries.lookup other := by
  induction entries with
  | nil => by_cases same : other = key <;> simp [setEntry, same]
  | cons head rest ih =>
    obtain ⟨stored, old⟩ := head
    by_cases found : stored = key
    · by_cases same : other = key <;> simp [setEntry, lookup_pair, found, same]
    · by_cases same : other = stored
      · simp [setEntry, found, same]
      · simp [setEntry, lookup_pair, found, same, ih]

theorem setEntry_ne_nil (key : K) (value : V) (entries : List (K × V)) :
    setEntry key value entries ≠ [] := by
  cases entries with
  | nil => simp [setEntry]
  | cons head rest =>
    rw [setEntry]
    split_ifs <;> simp

theorem setEntry_setEntry (key : K) (old value : V) (entries : List (K × V)) :
    setEntry key value (setEntry key old entries) = setEntry key value entries := by
  induction entries with
  | nil => simp [setEntry]
  | cons head rest ih =>
    obtain ⟨stored, held⟩ := head
    by_cases same : stored = key <;> simp [setEntry, same, ih]

theorem setEntry_lookup {key : K} {value : V} {entries : List (K × V)}
    (found : entries.lookup key = some value) : setEntry key value entries = entries := by
  induction entries with
  | nil => cases found
  | cons head rest ih =>
    obtain ⟨stored, held⟩ := head
    rw [lookup_pair] at found
    by_cases same : stored = key
    · rw [if_pos same.symm] at found
      simp [setEntry, same, Option.some.inj found]
    · rw [if_neg (Ne.symm same)] at found
      simp [setEntry, same, ih found]

namespace Dict

def empty : Dict K V := ⟨[], List.nodup_nil⟩

def get? (dict : Dict K V) (key : K) : Option V := dict.entries.lookup key

def values (dict : Dict K V) : List V := dict.entries.map Prod.snd

/-- Assignment keeps the place of a key that is already there and appends a new one. -/
def set (dict : Dict K V) (key : K) (value : V) : Dict K V :=
  ⟨setEntry key value dict.entries, setEntry_nodup key value dict.entries dict.distinct⟩

def erase (dict : Dict K V) (key : K) : Dict K V :=
  ⟨dict.entries.filter (fun entry => entry.1 ≠ key),
    dict.distinct.sublist (List.filter_sublist.map Prod.fst)⟩

/-- A dict comprehension: later pairs overwrite earlier ones. -/
def ofPairs (pairs : List (K × V)) : Dict K V :=
  pairs.foldl (fun dict pair => dict.set pair.1 pair.2) empty

@[simp] theorem get?_empty (key : K) : (empty : Dict K V).get? key = none := rfl

@[simp] theorem get?_set (dict : Dict K V) (key other : K) (value : V) :
    (dict.set key value).get? other = if other = key then some value else dict.get? other :=
  lookup_setEntry key other value dict.entries

@[simp] theorem get?_erase (dict : Dict K V) (key other : K) :
    (dict.erase key).get? other = if other = key then none else dict.get? other := by
  obtain ⟨entries, distinct⟩ := dict
  simp only [erase, get?]
  clear distinct
  induction entries with
  | nil => simp
  | cons head rest ih =>
    obtain ⟨stored, value⟩ := head
    by_cases dropped : stored = key
    · rw [List.filter_cons_of_neg (by simp [dropped]), ih, lookup_pair, dropped]
      split_ifs <;> rfl
    · rw [List.filter_cons_of_pos (by simp [dropped]), lookup_pair, lookup_pair, ih]
      by_cases same : other = stored <;> simp [same, dropped]

omit [DecidableEq K] in
theorem eq_of_entries {left right : Dict K V} (same : left.entries = right.entries) :
    left = right := by
  cases left
  cases right
  simpa using same

theorem get?_set_self (dict : Dict K V) (key : K) (value : V) :
    (dict.set key value).get? key = some value := by
  simp

theorem set_set (dict : Dict K V) (key : K) (old value : V) :
    (dict.set key old).set key value = dict.set key value :=
  eq_of_entries (setEntry_setEntry key old value dict.entries)

theorem set_get? {dict : Dict K V} {key : K} {value : V} (found : dict.get? key = some value) :
    dict.set key value = dict :=
  eq_of_entries (setEntry_lookup found)

@[simp] theorem erase_empty (key : K) : (empty : Dict K V).erase key = empty :=
  eq_of_entries rfl

theorem erase_of_absent {dict : Dict K V} {key : K} (absent : dict.get? key = none) :
    dict.erase key = dict := by
  apply eq_of_entries
  apply List.filter_eq_self.mpr
  intro entry member
  have differs := List.lookup_eq_none_iff.mp absent entry member
  simpa using Ne.symm (by simpa using differs)

theorem mem_values_of_get? {dict : Dict K V} {key : K} {value : V}
    (found : dict.get? key = some value) : value ∈ dict.values := by
  obtain ⟨before, after, same, _⟩ := List.lookup_eq_some_iff.mp found
  simp [values, same]

theorem get?_of_mem {dict : Dict K V} {key : K} {value : V}
    (member : (key, value) ∈ dict.entries) : dict.get? key = some value := by
  obtain ⟨before, after, split⟩ := List.append_of_mem member
  have distinct := dict.distinct
  rw [split, List.map_append, List.nodup_append] at distinct
  refine List.lookup_eq_some_iff.mpr ⟨before, after, split, ?_⟩
  intro entry earlier
  have different := distinct.2.2 entry.1 (List.mem_map_of_mem earlier) key (by simp)
  simpa using different.symm

theorem mem_keys {dict : Dict K V} {key : K} :
    key ∈ dict.entries.map Prod.fst ↔ (dict.get? key).isSome = true := by
  constructor
  · intro member
    obtain ⟨entry, stored, rfl⟩ := List.mem_map.mp member
    rw [get?_of_mem (show (entry.1, entry.2) ∈ dict.entries from stored)]
    rfl
  · intro present
    obtain ⟨value, found⟩ := Option.isSome_iff_exists.mp present
    obtain ⟨before, after, split, -⟩ := List.lookup_eq_some_iff.mp found
    simp [split]

theorem exists_key_of_mem_values {dict : Dict K V} {value : V} (member : value ∈ dict.values) :
    ∃ key, dict.get? key = some value := by
  obtain ⟨⟨key, stored⟩, entry, rfl⟩ := List.mem_map.mp member
  exact ⟨key, get?_of_mem entry⟩

theorem mem_values_set {dict : Dict K V} {key : K} {value other : V}
    (member : other ∈ (dict.set key value).values) : other = value ∨ other ∈ dict.values := by
  obtain ⟨found, stored⟩ := exists_key_of_mem_values member
  rw [get?_set] at stored
  split_ifs at stored
  · exact .inl (Option.some.inj stored).symm
  · exact .inr (mem_values_of_get? stored)

theorem mem_values_erase {dict : Dict K V} {key : K} {other : V}
    (member : other ∈ (dict.erase key).values) : other ∈ dict.values := by
  obtain ⟨entry, kept, rfl⟩ := List.mem_map.mp member
  exact List.mem_map_of_mem (List.mem_filter.mp kept).1

private theorem get?_foldl_set (pairs : List (K × V)) (dict : Dict K V) (key : K) :
    (pairs.foldl (fun dict pair => dict.set pair.1 pair.2) dict).get? key =
      (pairs.reverse.lookup key).or (dict.get? key) := by
  induction pairs generalizing dict with
  | nil => simp
  | cons pair rest ih =>
    obtain ⟨stored, value⟩ := pair
    rw [List.foldl_cons, ih, get?_set, List.reverse_cons, List.lookup_append]
    by_cases same : key = stored <;>
      cases rest.reverse.lookup key <;> simp [lookup_pair, same]

theorem get?_ofPairs (pairs : List (K × V)) (key : K) :
    (ofPairs pairs).get? key = pairs.reverse.lookup key := by
  rw [ofPairs, get?_foldl_set, get?_empty, Option.or_none]

theorem get?_ofPairs_eq_some {pairs : List (K × V)} {key : K} {value : V} :
    (ofPairs pairs).get? key = some value ↔
      ∃ before after, pairs = before ++ (key, value) :: after ∧ ∀ pair ∈ after, pair.1 ≠ key := by
  rw [get?_ofPairs, List.lookup_eq_some_iff]
  constructor
  · rintro ⟨before, after, split, earlier⟩
    refine ⟨after.reverse, before.reverse, ?_, ?_⟩
    · simpa using congrArg List.reverse split
    · intro pair member
      simpa using Ne.symm (by simpa using earlier pair (List.mem_reverse.mp member))
  · rintro ⟨before, after, rfl, later⟩
    refine ⟨after.reverse, before.reverse, by simp, ?_⟩
    intro pair member
    simpa using (later pair (List.mem_reverse.mp member)).symm

theorem get?_ofPairs_map {N : Type} [DecidableEq N] {name : K → N} (injective : name.Injective)
    (pairs : List (K × V)) (key : K) :
    (ofPairs (pairs.map (Prod.map name id))).get? (name key) = (ofPairs pairs).get? key := by
  rw [get?_ofPairs, get?_ofPairs, ← List.map_reverse]
  induction pairs.reverse with
  | nil => rfl
  | cons pair rest ih =>
    obtain ⟨stored, value⟩ := pair
    rw [List.map_cons, Prod.map_apply, lookup_pair, lookup_pair, ih]
    simp only [injective.eq_iff, id_eq]

def indexBy (key : V → K) (items : List V) : Dict K V :=
  ofPairs (items.map fun item => (key item, item))

theorem get?_indexBy_eq_some {key : V → K} {items : List V} {name : K} {item : V} :
    (indexBy key items).get? name = some item ↔
      ∃ before after, items = before ++ item :: after ∧ key item = name ∧
        ∀ later ∈ after, key later ≠ name := by
  rw [indexBy, get?_ofPairs_eq_some]
  constructor
  · rintro ⟨before, after, split, later⟩
    obtain ⟨first, second, rfl, rfl, tail⟩ := List.map_eq_append_iff.mp split
    obtain ⟨found, rest, rfl, head, rfl⟩ := List.map_eq_cons_iff.mp tail
    obtain ⟨rfl, rfl⟩ := Prod.mk.inj head
    refine ⟨first, rest, rfl, rfl, ?_⟩
    intro other member
    exact later _ (List.mem_map_of_mem member)
  · rintro ⟨before, after, rfl, rfl, later⟩
    refine ⟨before.map fun item => (key item, item), after.map fun item => (key item, item),
      by simp, ?_⟩
    intro pair member
    obtain ⟨other, kept, rfl⟩ := List.mem_map.mp member
    exact later other kept

theorem exists_get?_indexBy {key : V → K} {items : List V} {item : V} (member : item ∈ items) :
    ∃ found ∈ items, (indexBy key items).get? (key item) = some found ∧ key found = key item := by
  cases lookup : (indexBy key items).get? (key item) with
  | none =>
    rw [indexBy, get?_ofPairs, List.lookup_eq_none_iff] at lookup
    have differs := lookup (key item, item) (by simpa using member)
    simp at differs
  | some found =>
    obtain ⟨before, after, split, same, -⟩ := get?_indexBy_eq_some.mp lookup
    exact ⟨found, by simp [split], rfl, same⟩

theorem get?_indexBy_of_nodup {key : V → K} {items : List V} {item : V}
    (distinct : (items.map key).Nodup) (member : item ∈ items) :
    (indexBy key items).get? (key item) = some item := by
  obtain ⟨found, foundMember, lookup, same⟩ := @exists_get?_indexBy _ _ _ key _ _ member
  rw [lookup, List.inj_on_of_nodup_map distinct foundMember member same]

theorem values_of_only {dict : Dict K V} {key : K} {value : V} (found : dict.get? key = some value)
    (only : ∀ other, other ≠ key → dict.get? other = none) : dict.values = [value] := by
  have keys : ∀ entry ∈ dict.entries, entry = (key, value) := by
    intro entry member
    have stored := get?_of_mem (show (entry.1, entry.2) ∈ dict.entries from member)
    by_cases same : entry.1 = key
    · rw [same, found] at stored
      exact Prod.ext same (Option.some.inj stored).symm
    · rw [only entry.1 same] at stored
      cases stored
  obtain ⟨before, after, split, -⟩ := List.lookup_eq_some_iff.mp found
  have distinct := dict.distinct
  have copies : dict.entries = List.replicate dict.entries.length (key, value) :=
    List.eq_replicate_of_mem keys
  have once : dict.entries.length = 1 := by
    have most : dict.entries.length ≤ 1 := by
      rw [copies, List.map_replicate, List.nodup_replicate] at distinct
      exact distinct
    have least : 1 ≤ dict.entries.length := by
      rw [split, List.length_append, List.length_cons]
      omega
    omega
  rw [values, copies, once]
  rfl

end Dict

end OrderedDict
