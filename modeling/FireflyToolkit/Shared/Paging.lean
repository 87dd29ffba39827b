import Mathlib.Data.List.Sort

set_option autoImplicit false

namespace Paging

variable {State α : Type}

def page (feed : List α) (offset limit : Nat) : List α := (feed.drop offset).take limit

/-- The pages from an offset on, each as it is when it is read, up to the first that is not full. -/
inductive Reads (onward : State → State → Prop) (read : State → Nat → Option (List α)) (limit : Nat) :
    State → Nat → List (List α) → State → Prop
  | last {state : State} {offset : Nat} {items : List α} (answered : read state offset = some items)
      (short : items.length < limit) : Reads onward read limit state offset [items] state
  | next {state later final : State} {offset : Nat} {items : List α} {pages : List (List α)}
      (answered : read state offset = some items) (full : items.length = limit)
      (between : onward state later) (rest : Reads onward read limit later (offset + limit) pages final) :
      Reads onward read limit state offset (items :: pages) final

/-- What may be inserted into the list never moves an item to the front. `intact` is known of the
state at the end and holds of those before it. -/
structure Growing (onward : State → State → Prop) (kept intact : State → Prop) (feed : State → List α) :
    Prop where
  forward : ∀ {state later}, onward state later → kept state → kept later
  backward : ∀ {state later}, onward state later → kept state → intact later → intact state
  grows : ∀ {state later}, onward state later → kept state → intact later →
    (feed state).Sublist (feed later)

theorem page_or_later {feed : List α} {offset limit : Nat} {item : α} (listed : item ∈ feed.drop offset) :
    item ∈ page feed offset limit ∨ item ∈ feed.drop (offset + limit) := by
  rw [← List.take_append_drop limit (feed.drop offset), List.mem_append, List.drop_drop] at listed
  exact listed

theorem page_short {feed : List α} {offset limit : Nat} (short : (page feed offset limit).length < limit) :
    page feed offset limit = feed.drop offset := by
  rw [page, List.length_take] at short
  exact List.take_of_length_le (by omega)

section Reading

variable {onward : State → State → Prop} {read : State → Nat → Option (List α)} {limit offset : Nat}
  {start final : State} {pages : List (List α)} {kept intact : State → Prop} {feed : State → List α}

theorem Reads.intact_before (growing : Growing onward kept intact feed)
    (reads : Reads onward read limit start offset pages final) (begun : kept start) (ended : intact final) :
    intact start := by
  induction reads with
  | last => exact ended
  | next answered full between rest ih =>
    exact growing.backward between begun (ih (growing.forward between begun) ended)

theorem Reads.sublist (growing : Growing onward kept intact feed)
    (reads : Reads onward read limit start offset pages final) (begun : kept start) (ended : intact final) :
    (feed start).Sublist (feed final) := by
  induction reads with
  | last => exact List.Sublist.refl _
  | next answered full between rest ih =>
    have later := growing.forward between begun
    exact (growing.grows between begun (rest.intact_before growing later ended)).trans (ih later ended)

variable (paged : ∀ state offset items, read state offset = some items →
  items = page (feed state) offset limit)

include paged

theorem Reads.covers (growing : Growing onward kept intact feed)
    (reads : Reads onward read limit start offset pages final) (begun : kept start) (ended : intact final) :
    (feed start).drop offset ⊆ pages.flatten := by
  induction reads with
  | last answered short =>
    obtain rfl := paged _ _ _ answered
    rw [page_short short]
    simp
  | next answered full between rest ih =>
    obtain rfl := paged _ _ _ answered
    intro item listed
    rw [List.flatten_cons, List.mem_append]
    have later := growing.forward between begun
    have grows := growing.grows between begun (rest.intact_before growing later ended)
    exact (page_or_later listed).imp_right fun after => ih later ended ((grows.drop _).subset after)

theorem Reads.sound (growing : Growing onward kept intact feed)
    (reads : Reads onward read limit start offset pages final) (begun : kept start) (ended : intact final) :
    pages.flatten ⊆ feed final := by
  induction reads with
  | last answered short =>
    obtain rfl := paged _ _ _ answered
    rw [List.flatten_singleton]
    exact List.Subset.trans (List.take_subset _ _) (List.drop_subset _ _)
  | next answered full between rest ih =>
    obtain rfl := paged _ _ _ answered
    intro item listed
    rw [List.flatten_cons, List.mem_append] at listed
    have later := growing.forward between begun
    have grows := growing.grows between begun (rest.intact_before growing later ended)
    rcases listed with first | others
    · have here := List.drop_subset _ _ (List.take_subset _ _ first)
      exact ((grows.trans (rest.sublist growing later ended)).subset here)
    · exact ih later ended others

theorem Reads.whole (growing : Growing onward kept intact feed)
    (reads : Reads onward read limit start offset pages final) (begun : kept start) (ended : intact final)
    (same : feed final = feed start) : pages.flatten = (feed start).drop offset := by
  induction reads with
  | last answered short =>
    obtain rfl := paged _ _ _ answered
    rw [page_short short, List.flatten_singleton]
  | next answered full between rest ih =>
    obtain rfl := paged _ _ _ answered
    have later := growing.forward between begun
    have grows := growing.grows between begun (rest.intact_before growing later ended)
    have onwards := rest.sublist growing later ended
    rw [same] at onwards
    have equal := grows.antisymm onwards
    rw [List.flatten_cons, ih later ended (same.trans equal), ← equal, page, ← List.drop_drop,
      List.take_append_drop]

end Reading

end Paging
