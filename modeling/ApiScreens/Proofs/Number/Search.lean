import ApiScreens.Proofs.Number.Rounding
import Mathlib.Data.Nat.Cast.Order.Field

/-! The digits of a binary number are found: 18 of them always suffice, and the number that they spell lies in the
interval in which all numbers are rounded to the binary one. -/
namespace ApiScreens.Number
open Binary64 (twoPositive powerUp powerDown shifted ratioPositive ratioValue twoToPower tenToPower intervalHigh intervalQuarter)

theorem tenPositive (k : Int) : 0 < (10 : ℚ) ^ k := by positivity

theorem powerParts (b : Nat) (positive : 0 < b) (e : Int) :
    ((if 0 ≤ e then b ^ e.toNat else 1 : Nat) : ℚ) = (b : ℚ) ^ e * ((if 0 ≤ e then 1 else b ^ (-e).toNat : Nat) : ℚ) := by
  split
  · rename_i up
    rw [powerUp b up, Nat.cast_one, mul_one]
  · rename_i down
    have unit : (0 : ℚ) < b := by exact_mod_cast positive
    rw [powerDown b down, Nat.cast_one, mul_inv_cancel₀ (zpow_pos unit e).ne']

namespace Shortest
variable {i : Interval} {q k : Int} {a b m : Nat}

theorem sidesScaled (a : Nat) (k : Int) (b : Nat) (q : Int) : ∃ c : ℚ, 0 < c ∧
    ((sides a k b q).1 : ℚ) = a * 10 ^ k * c ∧ ((sides a k b q).2 : ℚ) = b / 4 * 2 ^ q * c := by
  have ten := powerParts 10 (by decide) k
  have two := powerParts 2 (by decide) q
  have shape : sides a k b q =
      (4 * a * (if 0 ≤ k then 10 ^ k.toNat else 1) * (if 0 ≤ q then 1 else 2 ^ (-q).toNat),
       b * (if 0 ≤ q then 2 ^ q.toNat else 1) * (if 0 ≤ k then 1 else 10 ^ (-k).toNat)) := rfl
  have tens : 0 < if 0 ≤ k then 1 else 10 ^ (-k).toNat := by split <;> positivity
  have twos : 0 < if 0 ≤ q then 1 else 2 ^ (-q).toNat := by split <;> positivity
  rw [shape]
  generalize (if 0 ≤ k then 1 else 10 ^ (-k).toNat) = d at ten tens ⊢
  generalize (if 0 ≤ q then 1 else 2 ^ (-q).toNat) = e at two twos ⊢
  refine ⟨4 * d * e, by positivity, ?_, ?_⟩
  · rw [Nat.cast_mul, Nat.cast_mul, ten]
    push_cast
    ring
  · rw [Nat.cast_mul, Nat.cast_mul, two]
    push_cast
    ring

theorem withinExactly : within i q a k = true ↔ Between i q (a * 10 ^ k) := by
  obtain ⟨c, lows, first, low⟩ := sidesScaled a k i.low q
  obtain ⟨d, highs, second, high⟩ := sidesScaled a k i.high q
  have above : (sides a k i.low q).2 ≤ (sides a k i.low q).1 ↔ (i.low : ℚ) / 4 * 2 ^ q ≤ a * 10 ^ k := by
    rw [← Nat.cast_le (α := ℚ), first, low, mul_le_mul_iff_left₀ lows]
  have below : (sides a k i.high q).1 ≤ (sides a k i.high q).2 ↔ a * 10 ^ k ≤ (i.high : ℚ) / 4 * 2 ^ q := by
    rw [← Nat.cast_le (α := ℚ), second, high, mul_le_mul_iff_left₀ highs]
  have beyond : (sides a k i.low q).2 < (sides a k i.low q).1 ↔ (i.low : ℚ) / 4 * 2 ^ q < a * 10 ^ k := by
    rw [← Nat.cast_lt (α := ℚ), first, low, mul_lt_mul_iff_left₀ lows]
  have inside : (sides a k i.high q).1 < (sides a k i.high q).2 ↔ a * 10 ^ k < (i.high : ℚ) / 4 * 2 ^ q := by
    rw [← Nat.cast_lt (α := ℚ), second, high, mul_lt_mul_iff_left₀ highs]
  unfold within
  dsimp only
  cases shut : i.closed with
  | true =>
    simp only [if_true, Bool.and_eq_true, decide_eq_true_eq, above, below]
    exact ⟨fun ⟨low, high⟩ => ⟨low, high, .inl shut⟩, fun between => ⟨between.low, between.high⟩⟩
  | false =>
    simp only [Bool.false_eq_true, if_false, Bool.and_eq_true, decide_eq_true_eq, beyond, inside]
    refine ⟨fun ⟨low, high⟩ => ⟨low.le, high.le, .inr ⟨low, high⟩⟩, fun between => ?_⟩
    exact between.ends.resolve_left (by simp [shut])

theorem valueAppend (front back : List Nat) : valueOf (front ++ back) = valueOf front * 10 ^ back.length + valueOf back := by
  induction back using List.reverseRecOn with
  | nil => simp [valueOf]
  | append_singleton rest d ih =>
    have last (ds : List Nat) : valueOf (ds ++ [d]) = valueOf ds * 10 + d := by simp [valueOf]
    rw [← List.append_assoc, last, last, ih, List.length_append, List.length_singleton, pow_succ]
    ring

theorem valueBelow {digits : List Nat} (small : ∀ d ∈ digits, d < 10) : valueOf digits < 10 ^ digits.length := by
  induction digits using List.reverseRecOn with
  | nil => decide
  | append_singleton rest d ih =>
    have here := small d (List.mem_append_right _ (List.mem_singleton.mpr rfl))
    have before := ih fun e inside => small e (List.mem_append_left _ inside)
    have last : valueOf (rest ++ [d]) = valueOf rest * 10 + d := by simp [valueOf]
    rw [last, List.length_append, List.length_singleton, pow_succ]
    omega

theorem decimalBetween {n : Nat} (positive : 0 < n) :
    10 ^ ((decimalDigits n).length - 1) ≤ n ∧ n < 10 ^ (decimalDigits n).length := by
  obtain ⟨d, rest, shape, zero⟩ := decimalLead n
  have value := decimalValue n
  have high := valueBelow (decimalSmall n)
  rw [value] at high
  refine ⟨?_, high⟩
  rw [shape] at value ⊢
  have lead : d ≠ 0 := fun same => by have := (zero same).1; omega
  have parts := valueAppend [d] rest
  have first : valueOf [d] = d := by simp [valueOf]
  rw [List.singleton_append, value, first] at parts
  have scaled : 1 * 10 ^ rest.length ≤ d * 10 ^ rest.length := Nat.mul_le_mul_right _ (by omega)
  simp only [List.length_cons, Nat.add_sub_cancel]
  omega

theorem negativeBelow {num den gap : Nat} (positive : 0 < den) (enough : den ≤ num * tenTo gap) :
    (10 : ℚ) ^ (-(gap : Int)) ≤ (num : ℚ) / den := by
  have wide : (0 : ℚ) < den := by exact_mod_cast positive
  have cast : (den : ℚ) ≤ num * 10 ^ gap := by exact_mod_cast enough
  rw [zpow_neg, zpow_natCast, le_div_iff₀ wide, inv_mul_le_iff₀ (by positivity), mul_comm]
  exact cast

theorem leadingBelow {num den : Nat} (top : 0 < num) (positive : 0 < den) :
    (10 : ℚ) ^ leadingExponent num den ≤ (num : ℚ) / den := by
  unfold leadingExponent
  dsimp only
  split
  · rename_i more
    have some : 0 < num / den := Nat.div_pos more positive
    have low := (decimalBetween some).1
    have digits := List.length_pos_iff.mpr (decimalInside (num / den))
    have exponent : ((decimalDigits (num / den)).length : Int) - 1 = (((decimalDigits (num / den)).length - 1 : Nat) : Int) := by
      omega
    rw [exponent, zpow_natCast]
    calc (10 : ℚ) ^ ((decimalDigits (num / den)).length - 1) ≤ ((num / den : Nat) : ℚ) := by exact_mod_cast low
      _ ≤ (num : ℚ) / den := Nat.cast_div_le
  · split
    · rename_i enough
      exact negativeBelow positive enough
    · refine negativeBelow positive ?_
      have low := (decimalBetween top).1
      have high := (decimalBetween positive).2
      have digits : (decimalDigits den).length ≤ ((decimalDigits num).length - 1) +
          ((decimalDigits den).length - (decimalDigits num).length + 1) := by omega
      rw [tenToPower]
      calc den ≤ 10 ^ (decimalDigits den).length := high.le
        _ ≤ 10 ^ (((decimalDigits num).length - 1) + ((decimalDigits den).length - (decimalDigits num).length + 1)) :=
          Nat.pow_le_pow_right (by decide) digits
        _ ≤ num * 10 ^ ((decimalDigits den).length - (decimalDigits num).length + 1) := by
          rw [pow_add]
          exact Nat.mul_le_mul_right _ low

theorem gridHit (positive : 0 < m) (fine : (10 : ℚ) ^ k ≤ 1 / 4 * 2 ^ q) :
    ∃ a, onGrid (interval m q) m q k = some a := by
  have unit := twoPositive q
  have step := tenPositive k
  obtain ⟨⟨num, den⟩, value⟩ : ∃ pair, Binary64.ratio m q = pair := ⟨_, rfl⟩
  obtain ⟨⟨n, d⟩, place⟩ : ∃ pair,
      (if 0 ≤ k then (num, den * 10 ^ k.toNat) else (num * 10 ^ (-k).toNat, den)) = pair := ⟨_, rfl⟩
  have quotient := ratioValue m q
  have den_ := ratioPositive m q
  rw [value] at quotient den_
  obtain ⟨above, scaled⟩ := shifted (by decide) den_ place
  have floor : ((n / d : Nat) : ℚ) ≤ (n : ℚ) / d := Nat.cast_div_le
  have next : (n : ℚ) / d < ((n / d : Nat) : ℚ) + 1 := by
    have wide : (0 : ℚ) < d := by exact_mod_cast above
    have parts := Nat.div_add_mod n d
    have small := Nat.mod_lt n above
    have less : n < (n / d + 1) * d := by
      rw [Nat.add_mul, Nat.one_mul, Nat.mul_comm]
      omega
    rw [div_lt_iff₀ wide]
    exact_mod_cast less
  rw [scaled, quotient, Nat.cast_ofNat] at floor next
  rw [le_div_iff₀ step] at floor
  rw [div_lt_iff₀ step] at next
  have low := mul_le_mul_of_nonneg_right (intervalQuarter positive q) unit.le
  have hit : within (interval m q) q (n / d) k = true := by
    have less : ((interval m q).low : ℚ) / 4 * 2 ^ q < ((n / d : Nat) : ℚ) * 10 ^ k := by linarith
    have more : ((n / d : Nat) : ℚ) * 10 ^ k < ((interval m q).high : ℚ) / 4 * 2 ^ q := by
      rw [intervalHigh]
      linarith
    exact withinExactly.mpr ⟨less.le, more.le, .inr ⟨less, more⟩⟩
  have same : (if 0 ≤ k then (num, den * tenTo k.toNat) else (num * tenTo (-k).toNat, den)) = (n, d) := place
  unfold onGrid
  rw [value]
  dsimp only
  rw [same]
  dsimp only
  simp only [List.filter_cons, hit, if_true]
  cases within (interval m q) q (n / d + 1) k <;> simp

theorem searchFound {lead : Int} {fuel count : Nat} (later : Nat) (from_ : count ≤ later) (until_ : later < count + fuel)
    (hit : ∃ a, onGrid i m q (lead - later) = some a) :
    ∃ a k, search i m q lead fuel count = (a, k) ∧ onGrid i m q k = some a := by
  induction fuel generalizing count with
  | zero => omega
  | succ fuel ih =>
    unfold search
    dsimp only
    cases found : onGrid i m q (lead - count) with
    | some a => exact ⟨a, _, rfl, found⟩
    | none =>
      have other : count ≠ later := by
        rintro rfl
        obtain ⟨a, there⟩ := hit
        rw [found] at there
        contradiction
      exact ih (by omega) (by omega)

theorem searchBetween (positive : 0 < m) (short : m < 2 ^ 53) :
    ∃ a k, search (interval m q) m q (leadingExponent (Binary64.ratio m q).1 (Binary64.ratio m q).2) 18 0 = (a, k) ∧
      Between (interval m q) q (a * 10 ^ k) := by
  have quotient := ratioValue m q
  have den := ratioPositive m q
  have low := leadingBelow (Binary64.ratioTop positive q) den
  rw [quotient] at low
  have fine : (10 : ℚ) ^ (leadingExponent (Binary64.ratio m q).1 (Binary64.ratio m q).2 - ((17 : Nat) : Int)) ≤ 1 / 4 * 2 ^ q := by
    have unit := twoPositive q
    have bound : (m : ℚ) ≤ 2 ^ 53 := by exact_mod_cast short.le
    rw [zpow_sub₀ (by norm_num), zpow_natCast, div_le_iff₀ (by positivity)]
    nlinarith
  have found : ∃ a k, search (interval m q) m q (leadingExponent (Binary64.ratio m q).1 (Binary64.ratio m q).2) 18 0 =
      (a, k) ∧ onGrid (interval m q) m q k = some a :=
    searchFound 17 (by omega) (by omega) (gridHit positive fine)
  obtain ⟨a, k, found, hit⟩ := found
  exact ⟨a, k, found, withinExactly.mp (gridWithin hit)⟩

end Shortest
end ApiScreens.Number
