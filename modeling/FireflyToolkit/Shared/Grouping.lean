import FireflyToolkit.Shared.OrderedDict
import Mathlib.Data.List.Induction
import Mathlib.Data.List.Perm.Basic

set_option autoImplicit false

namespace Grouping

open OrderedDict

variable {K V : Type} [DecidableEq K]

-- `defaultdict(list)`: each value is appended to the list of its key.
def groupBy (key : V → K) (values : List V) : Dict K (List V) :=
  values.foldl (fun grouped value =>
    grouped.set (key value) ((grouped.get? (key value)).getD [] ++ [value])) Dict.empty

def keys {W : Type} (dict : Dict K W) : List K := dict.entries.map Prod.fst

def FirstOccurrences (found values : List K) : Prop :=
  (∀ value, value ∈ found ↔ value ∈ values) ∧
    found.Pairwise fun left right => values.idxOf left < values.idxOf right

theorem firstOccurrences_append {found values : List K} (ordered : FirstOccurrences found values) (value : K) :
    FirstOccurrences (if value ∈ found then found else found ++ [value]) (values ++ [value]) := by
  obtain ⟨same, increasing⟩ := ordered
  have kept : found.Pairwise fun left right =>
      (values ++ [value]).idxOf left < (values ++ [value]).idxOf right := by
    refine increasing.imp_of_mem fun {left right} leftFound rightFound below => ?_
    rwa [List.idxOf_append_of_mem ((same left).mp leftFound),
      List.idxOf_append_of_mem ((same right).mp rightFound)]
  split_ifs with old
  · refine ⟨fun other => ?_, kept⟩
    rw [same, List.mem_append, List.mem_singleton]
    exact ⟨.inl, fun member => member.elim id fun equal => equal ▸ (same value).mp old⟩
  · refine ⟨fun other => by simp [same], List.pairwise_append.mpr ⟨kept, List.pairwise_singleton _ _, ?_⟩⟩
    intro left leftFound right rightFound
    have inValues := (same left).mp leftFound
    have fresh : value ∉ values := fun member => old ((same value).mpr member)
    rw [List.mem_singleton.mp rightFound, List.idxOf_append_of_mem inValues,
      List.idxOf_append_of_notMem fresh]
    exact Nat.lt_of_lt_of_le (List.idxOf_lt_length_of_mem inValues) (Nat.le_add_right _ _)

theorem FirstOccurrences.nodup {found values : List K} (ordered : FirstOccurrences found values) :
    found.Nodup := by
  refine ordered.2.imp fun {left right} below same => ?_
  rw [same] at below
  exact Nat.lt_irrefl _ below

variable {key : V → K}

theorem groupBy_append (values : List V) (value : V) :
    groupBy key (values ++ [value]) = (groupBy key values).set (key value)
      (((groupBy key values).get? (key value)).getD [] ++ [value]) := by
  rw [groupBy, List.foldl_append]
  rfl

theorem keys_groupBy (values : List V) :
    FirstOccurrences (keys (groupBy key values)) (values.map key) := by
  induction values using List.reverseRecOn with
  | nil => exact ⟨fun _ => Iff.rfl, .nil⟩
  | append_singleton values value ih =>
    have next := firstOccurrences_append ih (key value)
    rw [groupBy_append, List.map_append]
    have stored : keys ((groupBy key values).set (key value)
        (((groupBy key values).get? (key value)).getD [] ++ [value])) =
          if key value ∈ keys (groupBy key values) then keys (groupBy key values)
          else keys (groupBy key values) ++ [key value] := setEntry_keys _ _ _
    rw [stored]
    exact next

theorem get?_groupBy (values : List V) (wanted : K) :
    ((groupBy key values).get? wanted).getD [] = values.filter fun value => key value = wanted := by
  induction values using List.reverseRecOn with
  | nil => rfl
  | append_singleton values value ih =>
    rw [groupBy_append, Dict.get?_set, List.filter_append]
    split_ifs with same
    · rw [← same, ih]
      simp [same]
    · rw [ih]
      simp [Ne.symm same]

theorem entries_groupBy {values : List V} {entry : K × List V}
    (member : entry ∈ (groupBy key values).entries) :
    entry.2 = values.filter fun value => key value = entry.1 := by
  have found : (groupBy key values).get? entry.1 = some entry.2 := Dict.get?_of_mem member
  rw [← get?_groupBy, found, Option.getD_some]

theorem flatMap_filter_perm {found : List K} {values : List V} (distinct : found.Nodup)
    (covered : ∀ value ∈ values, key value ∈ found) :
    (found.flatMap fun wanted => values.filter fun value => key value = wanted).Perm values := by
  induction found generalizing values with
  | nil =>
    have none : values = [] := List.eq_nil_iff_forall_not_mem.mpr fun value member => by
      simpa using covered value member
    rw [none]
    exact .nil
  | cons first rest ih =>
    obtain ⟨fresh, distinctRest⟩ := List.nodup_cons.mp distinct
    let others := values.filter fun value => ¬ key value = first
    have later := @ih others distinctRest fun value member => by
      obtain ⟨inValues, differs⟩ := List.mem_filter.mp member
      exact (List.mem_cons.mp (covered value inValues)).resolve_left (by simpa using differs)
    have same : (rest.flatMap fun wanted => others.filter fun value => key value = wanted) =
        rest.flatMap fun wanted => values.filter fun value => key value = wanted := by
      refine List.flatMap_congr fun wanted member => ?_
      rw [List.filter_filter]
      refine List.filter_congr fun value _ => ?_
      have apart : wanted ≠ first := fun equal => fresh (equal ▸ member)
      by_cases own : key value = wanted
      · simp [own, apart]
      · simp [own]
    rw [List.flatMap_cons, ← same]
    have halves := List.filter_append_perm (fun value => decide (key value = first)) values
    refine (later.append_left _).trans ?_
    simpa [others] using halves

theorem groupBy_perm (values : List V) :
    ((groupBy key values).entries.flatMap Prod.snd).Perm values := by
  have ordered : FirstOccurrences (keys (groupBy key values)) (values.map key) := keys_groupBy values
  have covered : ∀ value ∈ values, key value ∈ keys (groupBy key values) :=
    fun value member => (ordered.1 _).mpr (List.mem_map_of_mem member)
  have selected : (groupBy key values).entries.flatMap Prod.snd =
      (keys (groupBy key values)).flatMap fun wanted => values.filter fun value => key value = wanted := by
    rw [keys, List.flatMap_map]
    exact List.flatMap_congr fun entry member => entries_groupBy member
  rw [selected]
  exact flatMap_filter_perm ordered.nodup covered

end Grouping
