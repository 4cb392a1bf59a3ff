import ApiScreens.Clock
import Mathlib.Algebra.Divisibility.Basic
import Mathlib.Algebra.Ring.Nat
import Mathlib.Order.Monotone.Basic

/-! The calendar keeps the order of time. Years are counted here from March, so that a leap day is the last of its
year, and months from the first March on; the days of a month lie between its start and that of the next. -/
namespace ApiScreens.Day

def yearStart (y : Nat) : Nat := 365 * y + y / 4 - y / 100 + y / 400

def monthStart (m : Nat) : Nat := yearStart (m / 12) + (153 * (m % 12) + 2) / 5

theorem yearStartMonotone : Monotone yearStart :=
  monotone_nat_of_le_succ fun y => by unfold yearStart; omega

theorem monthLength (m : Nat) : monthStart m ≤ monthStart (m + 1) ∧ monthStart (m + 1) ≤ monthStart m + 31 := by
  unfold monthStart
  obtain inYear | last : m % 12 < 11 ∨ m % 12 = 11 := by omega
  · have year : (m + 1) / 12 = m / 12 := by omega
    rw [year]
    omega
  · have year : (m + 1) / 12 = m / 12 + 1 := by omega
    have month : (m + 1) % 12 = 0 := by omega
    rw [year, month, last, yearStart, yearStart]
    omega

theorem monthStartMonotone : Monotone monthStart :=
  monotone_nat_of_le_succ fun m => (monthLength m).1

section
variable {c p u : Nat} (century : c ≤ 3) (cycle : 1461 * p + u < 36524) (day : u < 1461)
include century cycle day

theorem yearOfCycle {r : Nat} (count : r = 36524 * c + 1461 * p + u) :
    (r - r / 1460 + r / 36524 - r / 146096) / 365 = 100 * c + 4 * p + min (u / 365) 3 := by
  have days : r / 1460 = 25 * c + p + (24 * c + p + u) / 1460 := by omega
  have centuries : r / 36524 = c := by omega
  have eras : r / 146096 = 0 := by omega
  have carry : (24 * c + p + u) / 1460 ≤ 1 ∧ (u < 1364 → (24 * c + p + u) / 1460 = 0) ∧
    (u = 1460 → (24 * c + p + u) / 1460 = 1) := by omega
  rw [days, centuries, eras]
  generalize (24 * c + p + u) / 1460 = e at carry
  clear days centuries eras
  omega

theorem cycleBounds :
    yearStart (100 * c + 4 * p + min (u / 365) 3) ≤ 36524 * c + 1461 * p + u ∧
      36524 * c + 1461 * p + u < yearStart (100 * c + 4 * p + min (u / 365) 3 + 1) := by
  unfold yearStart
  generalize year : min (u / 365) 3 = z
  obtain ⟨low, high, small⟩ : 365 * z ≤ u ∧ (z < 3 → u < 365 * (z + 1)) ∧ z ≤ 3 := by omega
  clear year
  have fours : (100 * c + 4 * p + z) / 4 = 25 * c + p := by omega
  have hundreds : (100 * c + 4 * p + z) / 100 = c := by omega
  have eras : (100 * c + 4 * p + z) / 400 = 0 := by omega
  rw [fours, hundreds, eras]
  refine ⟨by omega, ?_⟩
  obtain inCycle | rfl : z < 3 ∨ z = 3 := by omega
  · have fours : (100 * c + 4 * p + z + 1) / 4 = 25 * c + p := by omega
    have hundreds : (100 * c + 4 * p + z + 1) / 100 = c := by omega
    rw [fours, hundreds]
    omega
  · have fours : (100 * c + 4 * p + 3 + 1) / 4 = 25 * c + p + 1 := by omega
    rw [fours]
    obtain inCentury | rfl : p < 24 ∨ p = 24 := by omega
    · have hundreds : (100 * c + 4 * p + 3 + 1) / 100 = c := by omega
      rw [hundreds]
      omega
    · have hundreds : (100 * c + 4 * 24 + 3 + 1) / 100 = c + 1 := by omega
      rw [hundreds]
      omega

end

theorem yearOfEra {r : Nat} (inEra : r < 146097) :
    let y := (r - r / 1460 + r / 36524 - r / 146096) / 365
    yearStart y ≤ r ∧ r < yearStart (y + 1) := by
  obtain rfl | inside : r = 146096 ∨ r < 146096 := by omega
  · decide
  · have cycle : 1461 * (r % 36524 / 1461) + r % 36524 % 1461 < 36524 := by omega
    have count : r = 36524 * (r / 36524) + 1461 * (r % 36524 / 1461) + r % 36524 % 1461 := by omega
    have year := yearOfCycle (by omega) cycle (Nat.mod_lt _ (by decide)) count
    have bounds := cycleBounds (c := r / 36524) (by omega) cycle (Nat.mod_lt _ (by decide))
    rw [← count, ← year] at bounds
    exact bounds

theorem yearStartEra (y e : Nat) : yearStart (y + 400 * e) = yearStart y + 146097 * e := by
  unfold yearStart
  omega

theorem dayOfEra {r : Nat} (inEra : r < 146097) :
    let y := (r - r / 1460 + r / 36524 - r / 146096) / 365
    r - (365 * y + y / 4 - y / 100) = r - yearStart y ∧ yearStart y + (r - yearStart y) = r ∧ r < yearStart (y + 1) := by
  obtain ⟨low, high⟩ := yearOfEra inEra
  simp only
  generalize (r - r / 1460 + r / 36524 - r / 146096) / 365 = y at low high ⊢
  have small : y < 400 := by
    by_contra large
    have start := yearStartMonotone (Nat.not_lt.mp large)
    have whole : yearStart 400 = 146097 := by decide
    omega
  refine ⟨?_, by omega, high⟩
  unfold yearStart
  omega

theorem monthOfYear {y d : Nat} (e : Nat) (inYear : yearStart y + d < yearStart (y + 1)) :
    let k := (5 * d + 2) / 153
    k ≤ 11 ∧ (153 * k + 2) / 5 ≤ d ∧
      monthStart (12 * (y + 400 * e) + k) = yearStart y + 146097 * e + (153 * k + 2) / 5 ∧
      yearStart y + 146097 * e + d < monthStart (12 * (y + 400 * e) + k + 1) := by
  have length : yearStart (y + 1) ≤ yearStart y + 366 := by
    unfold yearStart
    omega
  have bounded : d ≤ 365 := by omega
  simp only
  generalize fromMarch : (5 * d + 2) / 153 = k
  obtain ⟨first, next, months⟩ : (153 * k + 2) / 5 ≤ d ∧ d < (153 * (k + 1) + 2) / 5 ∧ k ≤ 11 := by omega
  have year : (12 * (y + 400 * e) + k) / 12 = y + 400 * e := by omega
  have month : (12 * (y + 400 * e) + k) % 12 = k := by omega
  refine ⟨months, first, by rw [monthStart, year, month, yearStartEra], ?_⟩
  obtain inside | rfl : k < 11 ∨ k = 11 := by omega
  · have year : (12 * (y + 400 * e) + k + 1) / 12 = y + 400 * e := by omega
    have month : (12 * (y + 400 * e) + k + 1) % 12 = k + 1 := by omega
    rw [monthStart, year, month, yearStartEra]
    omega
  · have year : (12 * (y + 400 * e) + 11 + 1) / 12 = y + 1 + 400 * e := by omega
    have month : (12 * (y + 400 * e) + 11 + 1) % 12 = 0 := by omega
    rw [monthStart, year, month, yearStartEra]
    omega

theorem afterMonth (n : Nat) :
    ∃ m, monthStart m ≤ n + 719468 ∧ n + 719468 < monthStart (m + 1) ∧
      12 * (after n).year + (after n).month = m + 3 ∧ 1 ≤ (after n).month ∧ (after n).month ≤ 12 ∧
      (after n).day = n + 719468 - monthStart m + 1 := by
  obtain ⟨start, whole, high⟩ := dayOfEra (r := (n + 719468) % 146097) (Nat.mod_lt _ (by decide))
  have count : n + 719468 = (n + 719468) % 146097 + 146097 * ((n + 719468) / 146097) := by omega
  simp only [after]
  rw [start]
  generalize (n + 719468) / 146097 = e at count ⊢
  generalize (n + 719468) % 146097 = r at start whole high count ⊢
  generalize (r - r / 1460 + r / 36524 - r / 146096) / 365 = y at start whole high ⊢
  generalize r - yearStart y = d at whole ⊢
  obtain ⟨months, first, here, next⟩ := monthOfYear e (by omega : yearStart y + d < yearStart (y + 1))
  generalize (5 * d + 2) / 153 = k at months first here next ⊢
  refine ⟨12 * (y + 400 * e) + k, by omega, by omega, ?_, ?_, ?_, by omega⟩
  · split <;> split <;> omega
  · split <;> omega
  · split <;> omega

def Before (a b : Day) : Prop :=
  a.year < b.year ∨ a.year = b.year ∧ (a.month < b.month ∨ a.month = b.month ∧ a.day < b.day)

theorem afterBefore {m n : Nat} (earlier : m < n) : (after m).Before (after n) := by
  obtain ⟨j, startM, endM, monthM, lowM, highM, dayM⟩ := afterMonth m
  obtain ⟨k, startN, endN, monthN, lowN, highN, dayN⟩ := afterMonth n
  have order : j ≤ k := by
    by_contra later
    have starts := monthStartMonotone (Nat.succ_le_of_lt (Nat.not_le.mp later))
    simp only [Nat.succ_eq_add_one] at starts
    omega
  unfold Before
  obtain rfl | below := Nat.eq_or_lt_of_le order
  · right
    omega
  · omega

theorem afterSmall (n : Nat) : (after n).month < 100 ∧ (after n).day < 100 := by
  obtain ⟨m, first, next, _, _, high, day⟩ := afterMonth n
  have length := (monthLength m).2
  omega

example : after 19782 = ⟨2024, 2, 29⟩ := by decide

end ApiScreens.Day
