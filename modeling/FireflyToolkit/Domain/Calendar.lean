import FireflyToolkit.Domain.Values
import Mathlib.Algebra.Order.Ring.Int

set_option autoImplicit false

namespace FireflyToolkit.Date

-- No month has more than 31 days and no year more than 12 months, so this number is larger for a
-- later date.
def rank (date : Date) : Nat := (date.year * 13 + date.month) * 32 + date.day

theorem daysInMonth_le (year month : Nat) : daysInMonth year month ≤ 31 := by
  unfold daysInMonth
  split_ifs <;> omega

theorem day_le (date : Date) : date.day ≤ 31 :=
  date.valid.2.2.2.2.2.trans (daysInMonth_le _ _)

theorem le_iff {left right : Date} : left.le right = true ↔ left.rank ≤ right.rank := by
  have months := left.valid.2.2.2.1
  have otherMonths := right.valid.2.2.2.1
  have days := left.day_le
  have otherDays := right.day_le
  simp only [le, rank, decide_eq_true_eq]
  omega

theorem le_refl (date : Date) : date.le date = true := le_iff.mpr (Nat.le_refl _)

theorem le_trans {first second third : Date} (left : first.le second = true)
    (right : second.le third = true) : first.le third = true :=
  le_iff.mpr ((le_iff.mp left).trans (le_iff.mp right))

theorem le_total {left right : Date} (later : left.le right = false) : right.le left = true := by
  have above : ¬ left.rank ≤ right.rank := by rw [← le_iff, later]; simp
  exact le_iff.mpr (by omega)

theorem ofFields?_eq_some {year month day : Nat} {date : Date} :
    ofFields? year month day = some date ↔ date.year = year ∧ date.month = month ∧ date.day = day := by
  unfold ofFields?
  obtain ⟨year', month', day', valid'⟩ := date
  split_ifs with valid
  · simp [eq_comm]
  · simp only [false_iff]
    rintro ⟨rfl, rfl, rfl⟩
    exact valid valid'

theorem daysInMonth_pos (year month : Nat) : 1 ≤ daysInMonth year month := by
  unfold daysInMonth
  split_ifs <;> omega

theorem later_month {date later : Date} (lastDay : ¬ date.day < daysInMonth date.year date.month)
    (above : date.rank < later.rank) :
    date.year < later.year ∨ (date.year = later.year ∧ date.month < later.month) := by
  have months := date.valid.2.2.2.1
  have laterMonths := later.valid.2.2.2.1
  have laterDays := later.day_le
  have laterFits := later.valid.2.2.2.2.2
  simp only [rank] at above
  by_cases sameMonth : date.year = later.year ∧ date.month = later.month
  · rw [← sameMonth.1, ← sameMonth.2] at laterFits
    omega
  · have days := date.day_le
    omega

theorem nextDay_spec {date next : Date} (stepped : date.nextDay = some next) :
    date.rank < next.rank ∧ ∀ later : Date, date.rank < later.rank → next.rank ≤ later.rank := by
  have months := date.valid.2.2.2.1
  have days := date.day_le
  unfold nextDay at stepped
  split_ifs at stepped with inMonth inYear <;>
    obtain ⟨sameYear, sameMonth, sameDay⟩ := ofFields?_eq_some.mp stepped <;>
    refine ⟨by simp only [rank]; omega, fun later above => ?_⟩ <;>
    have laterDay := later.valid.2.2.2.2.1 <;>
    have laterMonth := later.valid.2.2.1
  · simp only [rank] at above ⊢
    omega
  · have onward := later_month inMonth above
    simp only [rank]
    omega
  · have onward := later_month inMonth above
    simp only [rank]
    have laterMonths := later.valid.2.2.2.1
    omega

theorem nextDay_exists {date later : Date} (above : date.rank < later.rank) :
    ∃ next, date.nextDay = some next := by
  obtain ⟨years, yearsUp, months, monthsUp, -, fits⟩ := date.valid
  have created : ∀ {year month day : Nat}, ValidDate year month day →
      ∃ next, ofFields? year month day = some next := by
    intro year month day valid
    exact ⟨⟨year, month, day, valid⟩, by simp [ofFields?, valid]⟩
  unfold nextDay
  split_ifs with inMonth inYear
  · exact created ⟨years, yearsUp, months, monthsUp, by omega, by omega⟩
  · exact created ⟨years, yearsUp, by omega, by omega, Nat.le_refl 1, daysInMonth_pos _ _⟩
  · have onward := later_month inMonth above
    have laterYear := later.valid.2.1
    have laterMonths := later.valid.2.2.2.1
    exact created ⟨by omega, by omega, by omega, by omega, Nat.le_refl 1, daysInMonth_pos _ _⟩

theorem iterateDay_rank {count : Nat} {date last : Date}
    (counted : iterateDay nextDay count date = some last) : date.rank + count ≤ last.rank := by
  induction count generalizing date with
  | zero =>
    have same : date = last := by simpa [iterateDay] using counted
    rw [same, Nat.add_zero]
  | succ count ih =>
    obtain ⟨next, stepped, onward⟩ := Option.bind_eq_some_iff.mp counted
    have strictly := (nextDay_spec stepped).1
    have later := ih onward
    omega

theorem iterateDay_mono {count more : Nat} {early date last : Date} (fewer : count ≤ more)
    (before : early.rank ≤ date.rank) (counted : iterateDay nextDay more date = some last) :
    ∃ sooner, iterateDay nextDay count early = some sooner ∧ sooner.rank ≤ last.rank := by
  induction count generalizing more early date with
  | zero =>
    have reaches := iterateDay_rank counted
    exact ⟨early, rfl, by omega⟩
  | succ count ih =>
    obtain ⟨rest, rfl⟩ : ∃ rest, more = rest + 1 := ⟨more - 1, by omega⟩
    obtain ⟨next, stepped, onward⟩ := Option.bind_eq_some_iff.mp counted
    obtain ⟨forward, least⟩ := nextDay_spec stepped
    obtain ⟨soon, earlyStepped⟩ : ∃ soon, early.nextDay = some soon :=
      nextDay_exists (lt_of_le_of_lt before forward)
    have ordered : soon.rank ≤ next.rank := (nextDay_spec earlyStepped).2 next (by omega)
    obtain ⟨sooner, reached, ends⟩ := ih (by omega) ordered onward
    exact ⟨sooner, by simp [iterateDay, earlyStepped, reached], ends⟩

theorem addDays_mono {count more : Int} {early date last : Date} (nonnegative : 0 ≤ count)
    (fewer : count ≤ more) (before : early.le date = true)
    (counted : date.addDays more = some last) :
    ∃ sooner, early.addDays count = some sooner ∧ sooner.le last = true := by
  obtain ⟨few, rfl⟩ := Int.eq_ofNat_of_zero_le nonnegative
  obtain ⟨many, rfl⟩ := Int.eq_ofNat_of_zero_le (nonnegative.trans fewer)
  obtain ⟨sooner, reached, ends⟩ :=
    iterateDay_mono (Int.ofNat_le.mp fewer) (le_iff.mp before) counted
  exact ⟨sooner, reached, le_iff.mpr ends⟩

end FireflyToolkit.Date
