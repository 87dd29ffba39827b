import FireflyToolkit.Domain.Matcher

set_option autoImplicit false

namespace FireflyToolkit

open PyBuiltins

variable {α ι : Type} [Matchable α]

-- No candidate, as `identity` names it, is selected for two transactions.
def OneToOne (identity : α → ι) (selected : List (Transaction × α)) : Prop :=
  ∀ left ∈ selected, ∀ right ∈ selected, identity left.2 = identity right.2 → left.1.id = right.1.id

abbrev Listing (α : Type) := Transaction × List α

def FitsOne (listing : Listing α) : Bool :=
  (listing.2.filter fun item => accepts item listing.1).length = 1

def Apart (identity : α → ι) (listings : List (Listing α)) : Prop :=
  ∀ left ∈ listings, ∀ right ∈ listings, left.1.id ≠ right.1.id →
    ∀ item ∈ left.2, ∀ other ∈ right.2, identity item = identity other →
      accepts item left.1 = true → accepts other right.1 = false

def Listing.result (tagDone : TxTag) (listing : Listing α) : MatchResult α :=
  matchResult listing.2 tagDone listing.1

theorem singleMatches_results (tagDone : TxTag) (listings : List (Listing α)) :
    singleMatches (listings.map (Listing.result tagDone)) =
      (listings.filter FitsOne).map (Listing.result tagDone) := by
  rw [singleMatches, List.filter_map]
  rfl

theorem mem_selections_results {tagDone : TxTag} {listings : List (Listing α)}
    (single : ∀ listing ∈ listings, FitsOne listing = true) {selected : Transaction × α} :
    selected ∈ selections (listings.map (Listing.result tagDone)) ↔
      ∃ listing ∈ listings, listing.1 = selected.1 ∧
        listing.2.filter (fun item => accepts item listing.1) = [selected.2] := by
  rw [mem_selections]
  constructor
  · rintro ⟨result, member, sameTx, head⟩
    obtain ⟨listing, listed, rfl⟩ := List.mem_map.mp member
    obtain ⟨only, candidates⟩ := List.length_eq_one_iff.mp (of_decide_eq_true (single listing listed))
    have same : only = selected.2 := by simpa [Listing.result, matchResult, candidates] using head
    exact ⟨listing, listed, sameTx, same ▸ candidates⟩
  · rintro ⟨listing, listed, sameTx, candidates⟩
    exact ⟨_, List.mem_map_of_mem listed, sameTx, by simp [Listing.result, matchResult, candidates]⟩

-- A candidate selected twice is one that fits both transactions, since nothing else fits them.
theorem oneToOne_iff_apart {identity : α → ι} {tagDone : TxTag} {listings : List (Listing α)}
    (single : ∀ listing ∈ listings, FitsOne listing = true) :
    OneToOne identity (selections (listings.map (Listing.result tagDone))) ↔
      Apart identity listings := by
  constructor
  · intro oneToOne left leftMember right rightMember different item itemMember other otherMember
      same accepted
    cases otherAccepted : accepts other right.1 with
    | false => rfl
    | true =>
      have selects : ∀ listing ∈ listings, ∀ item ∈ listing.2, accepts item listing.1 = true →
          (listing.1, item) ∈ selections (listings.map (Listing.result tagDone)) := by
        intro listing listed item member fits
        obtain ⟨only, candidates⟩ :=
          List.length_eq_one_iff.mp (of_decide_eq_true (single listing listed))
        have kept : item ∈ listing.2.filter fun item => accepts item listing.1 :=
          List.mem_filter.mpr ⟨member, fits⟩
        rw [candidates, List.mem_singleton] at kept
        exact (mem_selections_results single).mpr ⟨listing, listed, rfl, kept ▸ candidates⟩
      have first := selects left leftMember item itemMember accepted
      have second := selects right rightMember other otherMember otherAccepted
      exact absurd (oneToOne _ first _ second same) different
  · intro apart left leftMember right rightMember same
    obtain ⟨first, firstMember, sameLeft, leftFits⟩ := (mem_selections_results single).mp leftMember
    obtain ⟨second, secondMember, sameRight, rightFits⟩ :=
      (mem_selections_results single).mp rightMember
    obtain ⟨inLeft, leftAccepts⟩ := List.mem_filter.mp (leftFits ▸ List.mem_singleton_self left.2)
    obtain ⟨inRight, rightAccepts⟩ :=
      List.mem_filter.mp (rightFits ▸ List.mem_singleton_self right.2)
    by_contra different
    have refused := apart first firstMember second secondMember (by rwa [sameLeft, sameRight])
      left.2 inLeft right.2 inRight same leftAccepts
    rw [rightAccepts] at refused
    cases refused

theorem compareAmountsAbs_ok {amount other : Decimal} {equal : Bool} :
    compareAmountsAbs amount other = .ok equal ↔ ∃ absolute otherAbsolute,
      amount.abs = .ok absolute ∧ other.abs = .ok otherAbsolute ∧
        absolute.numEq otherAbsolute = equal := by
  unfold compareAmountsAbs
  cases amount.abs with
  | error failure => simp [bind, Except.bind]
  | ok absolute => cases other.abs <;> simp [bind, Except.bind]

theorem compareAmountsAbs_comm {left right : Decimal}
    (equal : compareAmountsAbs left right = .ok true) : compareAmountsAbs right left = .ok true := by
  obtain ⟨absolute, otherAbsolute, first, second, same⟩ := compareAmountsAbs_ok.mp equal
  exact compareAmountsAbs_ok.mpr ⟨_, _, second, first, Decimal.numEq_symm same⟩

theorem compareAmountsAbs_trans {first second third : Decimal}
    (left : compareAmountsAbs first second = .ok true)
    (right : compareAmountsAbs second third = .ok true) : compareAmountsAbs first third = .ok true := by
  obtain ⟨absolute, middle, one, two, same⟩ := compareAmountsAbs_ok.mp left
  obtain ⟨middle', absolute', two', three, same'⟩ := compareAmountsAbs_ok.mp right
  obtain rfl := Except.ok.inj (two.symm.trans two')
  exact compareAmountsAbs_ok.mpr ⟨_, _, one, three, Decimal.numEq_trans same same'⟩

theorem accepts_record {record : BankRecord} {tx : Transaction} :
    accepts record tx = true ↔
      compareAmountsAbs record.amount tx.amount = .ok true ∧ record.date = tx.date := by
  cases compared : compareAmountsAbs record.amount tx.amount <;>
    simp [accepts, Matchable.compare, compared, bind, Except.bind]

def SameDayAndAmount (left right : Transaction) : Prop :=
  left.date = right.date ∧ compareAmountsAbs left.amount right.amount = .ok true

theorem apart_records_iff {records : List BankRecord} {txs : List Transaction}
    (single : ∀ tx ∈ txs, FitsOne (tx, records) = true) :
    Apart id (txs.map fun tx => (tx, records)) ↔
      ∀ left ∈ txs, ∀ right ∈ txs, left.id ≠ right.id → ¬ SameDayAndAmount left right := by
  constructor
  · intro apart left leftMember right rightMember different ⟨sameDay, sameAmount⟩
    obtain ⟨record, fits⟩ :=
      List.length_eq_one_iff.mp (of_decide_eq_true (single left leftMember))
    obtain ⟨member, accepted⟩ := List.mem_filter.mp (fits ▸ List.mem_singleton_self record)
    obtain ⟨amount, day⟩ := accepts_record.mp accepted
    have both : accepts record right = true :=
      accepts_record.mpr ⟨compareAmountsAbs_trans amount sameAmount, day.trans sameDay⟩
    have refused := apart _ (List.mem_map_of_mem leftMember) _ (List.mem_map_of_mem rightMember)
      different record member record member rfl accepted
    rw [both] at refused
    cases refused
  · intro distinct left leftMember right rightMember different item _ other _ same accepted
    obtain ⟨tx, member, rfl⟩ := List.mem_map.mp leftMember
    obtain ⟨tx', member', rfl⟩ := List.mem_map.mp rightMember
    cases otherAccepted : accepts other tx' with
    | false => rfl
    | true =>
      obtain ⟨amount, day⟩ := accepts_record.mp accepted
      obtain ⟨amount', day'⟩ := accepts_record.mp otherAccepted
      have sameRow : item = other := same
      subst sameRow
      exact absurd ⟨day.symm.trans day', compareAmountsAbs_trans (compareAmountsAbs_comm amount) amount'⟩
        (distinct tx member tx' member' different)

end FireflyToolkit
