import ApiScreens.Proofs.Number.Digits
import Mathlib.Algebra.Order.Field.Power
import Mathlib.Data.Rat.Lemmas
import Mathlib.Tactic.FieldSimp
import Mathlib.Tactic.Linarith
import Mathlib.Tactic.Positivity
import Mathlib.Tactic.Ring

/-! Rounding to binary numbers. A quotient in the interval of a number, which is half of a last place to both sides or,
below a power of two, a quarter, has that number as its nearest. -/
namespace ApiScreens.Number

structure Near (w : ℚ) (m : Nat) : Prop where
  low : (m : ℚ) - 1 / 2 ≤ w
  high : w ≤ m + 1 / 2
  tie : m % 2 = 0 ∨ (m : ℚ) - 1 / 2 < w ∧ w < m + 1 / 2

namespace Binary64
variable {num den m : Nat} {q : Int}

theorem roundDivNear (positive : 0 < den) (near : Near ((num : ℚ) / den) m) : roundDiv num den = m := by
  have above : (0 : ℚ) < den := by exact_mod_cast positive
  obtain ⟨low, high, tie⟩ := near
  have whole := Nat.div_add_mod num den
  have small := Nat.mod_lt num positive
  rw [le_div_iff₀ above] at low
  rw [div_le_iff₀ above] at high
  rw [lt_div_iff₀ above, div_lt_iff₀ above] at tie
  have low' : 2 * (m * den) ≤ 2 * num + den := by
    have : (2 * (m * den) : ℚ) ≤ 2 * num + den := by linarith
    exact_mod_cast this
  have high' : 2 * num ≤ 2 * (m * den) + den := by
    have : (2 * num : ℚ) ≤ 2 * (m * den) + den := by linarith
    exact_mod_cast this
  have tie' : m % 2 = 0 ∨ 2 * (m * den) < 2 * num + den ∧ 2 * num < 2 * (m * den) + den := by
    refine tie.imp_right fun ⟨less, more⟩ => ⟨?_, ?_⟩
    · have : (2 * (m * den) : ℚ) < 2 * num + den := by linarith
      exact_mod_cast this
    · have : (2 * num : ℚ) < 2 * (m * den) + den := by linarith
      exact_mod_cast this
  have choice : num / den = m ∨ num / den + 1 = m := by
    have upper : num / den < m + 1 := by
      rw [Nat.div_lt_iff_lt_mul positive]
      nlinarith
    have lower : m < num / den + 2 := by
      by_contra far
      have : (num / den + 2) * den ≤ m * den := Nat.mul_le_mul_right _ (by omega)
      nlinarith
    omega
  unfold roundDiv
  dsimp only
  rcases choice with here | below
  · have product : den * (num / den) = m * den := by rw [here, Nat.mul_comm]
    rw [product] at whole
    split
    · exact here
    · split
      · omega
      · rw [if_pos (by omega)]
        exact here
  · have product : den * (num / den) + den = m * den := by rw [← below]; ring
    split
    · omega
    · split
      · exact below
      · rw [if_neg (by omega)]
        exact below

theorem twoPositive (q : Int) : 0 < (2 : ℚ) ^ q := by positivity

theorem twoToPower (n : Nat) : twoTo n = 2 ^ n := rfl

theorem tenToPower (n : Nat) : tenTo n = 10 ^ n := rfl

theorem powerUp (b : Nat) (up : 0 ≤ q) : ((b ^ q.toNat : Nat) : ℚ) = (b : ℚ) ^ q := by
  rw [Nat.cast_pow, ← zpow_natCast, Int.toNat_of_nonneg up]

theorem powerDown (b : Nat) (down : ¬0 ≤ q) : ((b ^ (-q).toNat : Nat) : ℚ) = ((b : ℚ) ^ q)⁻¹ := by
  rw [Nat.cast_pow, ← zpow_natCast, Int.toNat_of_nonneg (by omega), zpow_neg]

theorem ratioPositive (m : Nat) (q : Int) : 0 < (ratio m q).2 := by
  unfold ratio
  split
  · exact Nat.one_pos
  · exact twoToPositive _

theorem ratioTop (positive : 0 < m) (q : Int) : 0 < (ratio m q).1 := by
  unfold ratio
  split
  · exact Nat.mul_pos positive (twoToPositive _)
  · exact positive

theorem ratioValue (m : Nat) (q : Int) : ((ratio m q).1 : ℚ) / (ratio m q).2 = m * 2 ^ q := by
  unfold ratio
  split
  · rename_i up
    have two := powerUp 2 up
    rw [twoToPower, Nat.cast_mul, two, Nat.cast_one, div_one, Nat.cast_ofNat]
  · rename_i down
    have two := powerDown 2 down
    rw [twoToPower, two, div_inv_eq_mul, Nat.cast_ofNat]

theorem shifted {b : Nat} (some : 0 < b) (positive : 0 < den) {n d : Nat}
    (shape : (if 0 ≤ q then (num, den * b ^ q.toNat) else (num * b ^ (-q).toNat, den)) = (n, d)) :
    0 < d ∧ (n : ℚ) / d = (num : ℚ) / den / (b : ℚ) ^ q := by
  split at shape
  · rename_i up
    cases shape
    refine ⟨Nat.mul_pos positive (Nat.pow_pos some), ?_⟩
    rw [Nat.cast_mul, powerUp b up, div_div]
  · rename_i down
    cases shape
    refine ⟨positive, ?_⟩
    rw [Nat.cast_mul, powerDown b down]
    field_simp

theorem scaledNear (positive : 0 < den) (near : Near ((num : ℚ) / den / 2 ^ q) m) : scaled num den q = m := by
  obtain ⟨⟨n, d⟩, shape⟩ : ∃ pair, (if 0 ≤ q then (num, den * 2 ^ q.toNat) else (num * 2 ^ (-q).toNat, den)) = pair :=
    ⟨_, rfl⟩
  obtain ⟨above, value⟩ := shifted (by decide) positive shape
  have same : scaled num den q = roundDiv n d := by
    unfold scaled
    split at shape
    · rename_i up
      cases shape
      rw [if_pos up, twoToPower]
    · rename_i down
      cases shape
      rw [if_neg down, twoToPower]
  rw [same]
  exact roundDivNear above (value ▸ near)

theorem log2Between {n : Nat} (positive : 0 < n) :
    (2 : ℚ) ^ (n.log2 : Int) ≤ n ∧ (n : ℚ) < 2 ^ ((n.log2 : Int) + 1) := by
  have low := Nat.log2_self_le (Nat.ne_of_gt positive)
  have high : n < 2 ^ (n.log2 + 1) := Nat.lt_log2_self
  constructor
  · rw [zpow_natCast]
    exact_mod_cast low
  · rw [← Nat.cast_succ, zpow_natCast]
    exact_mod_cast high

theorem leadBetween (top : 0 < num) (positive : 0 < den) :
    ∃ g : Int, placeOf num den = max leastExponent g ∧
      (2 : ℚ) ^ (52 + g) ≤ (num : ℚ) / den ∧ (num : ℚ) / den < 2 ^ (53 + g) := by
  obtain ⟨numLow, numHigh⟩ := log2Between top
  obtain ⟨denLow, denHigh⟩ := log2Between positive
  obtain ⟨guess, guessed⟩ : ∃ guess : Int, guess = (Nat.log2 num : Int) - (Nat.log2 den : Int) - 52 := ⟨_, rfl⟩
  obtain ⟨⟨n, d⟩, shape⟩ : ∃ pair,
      (if 0 ≤ guess then (num, den * 2 ^ guess.toNat) else (num * 2 ^ (-guess).toNat, den)) = pair := ⟨_, rfl⟩
  obtain ⟨above, value⟩ := shifted (by decide) positive shape
  have place : placeOf num den = max leastExponent (if n < d * twoTo 52 then guess - 1 else guess) := by
    have here : (if 0 ≤ guess then (num, den * twoTo guess.toNat) else (num * twoTo (-guess).toNat, den)) = (n, d) := shape
    unfold placeOf
    dsimp only
    rw [← guessed, here]
  have below : (2 : ℚ) ^ (51 + guess) ≤ (num : ℚ) / den := by
    have exponent : 51 + guess = (Nat.log2 num : Int) - ((Nat.log2 den : Int) + 1) := by omega
    rw [exponent, zpow_sub₀ (by norm_num)]
    gcongr
  have beyond : (num : ℚ) / den < 2 ^ (53 + guess) := by
    have exponent : 53 + guess = ((Nat.log2 num : Int) + 1) - (Nat.log2 den : Int) := by omega
    rw [exponent, zpow_sub₀ (by norm_num)]
    gcongr
  have test : n < d * twoTo 52 ↔ (num : ℚ) / den < 2 ^ (52 + guess) := by
    have wide : (0 : ℚ) < d := by exact_mod_cast above
    have quotient : (n : ℚ) / d < 2 ^ 52 ↔ n < d * twoTo 52 := by
      rw [div_lt_iff₀ wide, mul_comm, twoToPower]
      exact_mod_cast Iff.rfl
    rw [← quotient, value, Nat.cast_ofNat, div_lt_iff₀ (twoPositive guess), zpow_add₀ (by norm_num)]
    rfl
  refine ⟨_, place, ?_⟩
  split
  · rename_i less
    have up : (52 : Int) + (guess - 1) = 51 + guess := by omega
    have down : (53 : Int) + (guess - 1) = 52 + guess := by omega
    rw [up, down]
    exact ⟨below, test.mp less⟩
  · rename_i more
    exact ⟨not_lt.mp fun less => more (test.mpr less), beyond⟩

theorem placeFound (top : 0 < num) (positive : 0 < den) (above : leastExponent ≤ q)
    (high : (num : ℚ) / den < 2 ^ (53 + q)) (low : q = leastExponent ∨ (2 : ℚ) ^ (52 + q) ≤ (num : ℚ) / den) :
    placeOf num den = q := by
  obtain ⟨g, place, least, most⟩ := leadBetween top positive
  have up : 52 + g < 53 + q := (zpow_lt_zpow_iff_right₀ (by norm_num : (1 : ℚ) < 2)).mp (least.trans_lt high)
  rw [place]
  rcases low with bottom | low
  · omega
  · have down : 52 + q < 53 + g := (zpow_lt_zpow_iff_right₀ (by norm_num : (1 : ℚ) < 2)).mp (low.trans_lt most)
    omega

structure Parts (x : Binary64) (m : Nat) (q : Int) : Prop where
  positive : 0 < m
  short : m < 2 ^ 53
  above : leastExponent ≤ q
  full : q = leastExponent ∨ 2 ^ 52 ≤ m
  magnitude : x.magnitude = if m < twoTo 52 then m else (q + 1075).toNat * twoTo 52 + (m - twoTo 52)

theorem partsOf {x : Binary64} (some : x.magnitude ≠ 0) : Parts x x.parts.1 x.parts.2 := by
  have whole := Nat.div_add_mod x.magnitude (2 ^ 52)
  have small := Nat.mod_lt x.magnitude (Nat.pow_pos (n := 52) (by decide : 0 < 2))
  have shape : x.parts = if x.magnitude / 2 ^ 52 = 0 then (x.magnitude % 2 ^ 52, leastExponent)
    else (x.magnitude % 2 ^ 52 + 2 ^ 52, ((x.magnitude / 2 ^ 52 : Nat) : Int) - 1075) := rfl
  rw [shape]
  generalize x.magnitude / 2 ^ 52 = field at whole ⊢
  generalize x.magnitude % 2 ^ 52 = fraction at whole small ⊢
  split
  · rename_i zero
    refine ⟨by dsimp only; omega, by dsimp only; omega, Int.le_refl _, .inl rfl, ?_⟩
    rw [twoToPower, if_pos small]
    dsimp only
    omega
  · refine ⟨by dsimp only; omega, by dsimp only; omega, by unfold leastExponent; omega, .inr (by dsimp only; omega), ?_⟩
    have normal : ¬fraction + 2 ^ 52 < 2 ^ 52 := by omega
    have exponent : ((field : Int) - 1075 + 1075).toNat = field := by omega
    rw [twoToPower, if_neg normal, exponent]
    omega

end Binary64

structure Shortest.Between (i : Interval) (q : Int) (v : ℚ) : Prop where
  low : (i.low : ℚ) / 4 * 2 ^ q ≤ v
  high : v ≤ (i.high : ℚ) / 4 * 2 ^ q
  ends : i.closed = true ∨ (i.low : ℚ) / 4 * 2 ^ q < v ∧ v < (i.high : ℚ) / 4 * 2 ^ q

namespace Binary64
variable {num den m : Nat} {q : Int}

theorem nearestPlaced {x : Binary64} (finite : x.magnitude < infinity) (top : 0 < num) {place : Int} {significand : Nat}
    (placed : placeOf num den = place) (rounded : scaled num den place = significand)
    (magnitude : x.magnitude =
      if significand < twoTo 52 then significand else (place + 1075).toNat * twoTo 52 + (significand - twoTo 52)) :
    nearest x.negative num den = some x := by
  unfold nearest
  rw [if_neg (Nat.ne_of_gt top), placed]
  dsimp only
  rw [rounded, ← magnitude, if_pos finite]

theorem intervalHigh (m : Nat) (q : Int) : ((Shortest.interval m q).high : ℚ) / 4 = m + 1 / 2 := by
  simp only [Shortest.interval]
  push_cast
  ring

theorem intervalLow (some : 0 < m) (q : Int) : ((Shortest.interval m q).low : ℚ) / 4 =
    if m = 2 ^ 52 ∧ leastExponent < q then (m : ℚ) - 1 / 4 else m - 1 / 2 := by
  have cast (k : Nat) (small : k ≤ 4 * m) : ((4 * m - k : Nat) : ℚ) / 4 = m - k / 4 := by
    rw [Nat.cast_sub small]
    push_cast
    ring
  have test : (decide (m = twoTo 52) && decide (leastExponent < q)) = true ↔ m = 2 ^ 52 ∧ leastExponent < q := by
    rw [Bool.and_eq_true, decide_eq_true_eq, decide_eq_true_eq, twoToPower]
  by_cases narrow : m = 2 ^ 52 ∧ leastExponent < q
  · have low : (Shortest.interval m q).low = 4 * m - 1 := if_pos (test.mpr narrow)
    rw [if_pos narrow, low, cast 1 (by omega), Nat.cast_one]
  · have low : (Shortest.interval m q).low = 4 * m - 2 := if_neg (narrow ∘ test.mp)
    rw [if_neg narrow, low, cast 2 (by omega)]
    norm_num

theorem intervalHalf (some : 0 < m) (q : Int) : (m : ℚ) - 1 / 2 ≤ ((Shortest.interval m q).low : ℚ) / 4 := by
  rw [intervalLow some]
  split <;> linarith

theorem intervalQuarter (some : 0 < m) (q : Int) : ((Shortest.interval m q).low : ℚ) / 4 ≤ m - 1 / 4 := by
  rw [intervalLow some]
  split <;> linarith

theorem nearestBetween {x : Binary64} (finite : x.magnitude < infinity) (parts : Parts x m q) (positive : 0 < den)
    (between : Shortest.Between (Shortest.interval m q) q ((num : ℚ) / den)) : nearest x.negative num den = some x := by
  have unit := twoPositive q
  have half := intervalHalf parts.positive q
  have least : (1 : ℚ) ≤ m := by exact_mod_cast parts.positive
  have most : (m : ℚ) + 1 ≤ 2 ^ 53 := by exact_mod_cast parts.short
  obtain ⟨low, high, ends⟩ := between
  rw [intervalHigh] at high ends
  have top : 0 < num := by
    refine Nat.pos_of_ne_zero fun zero => ?_
    rw [zero, Nat.cast_zero, zero_div] at low
    nlinarith
  have below : (num : ℚ) / den < 2 ^ (53 + q) := by
    rw [zpow_add₀ (by norm_num)]
    calc (num : ℚ) / den ≤ (m + 1 / 2) * 2 ^ q := high
      _ < 2 ^ (53 : Int) * 2 ^ q := by
        have less : (m : ℚ) + 1 / 2 < 2 ^ (53 : Int) := by
          norm_num at most ⊢
          linarith
        exact mul_lt_mul_of_pos_right less unit
  by_cases beside : q ≠ leastExponent ∧ (num : ℚ) / den < 2 ^ (52 + q)
  · -- below a power of two, where the quotient has one more place
    obtain ⟨inner, less⟩ := beside
    rw [zpow_add₀ (by norm_num)] at less
    have full := parts.full.resolve_left inner
    have lead : m = 2 ^ 52 := by
      by_contra other
      have more : ((2 ^ 52 + 1 : Nat) : ℚ) ≤ m := by exact_mod_cast (by omega : 2 ^ 52 + 1 ≤ m)
      push_cast at more
      norm_num at less
      nlinarith
    subst lead
    rw [intervalLow (by decide), if_pos ⟨rfl, by have := parts.above; omega⟩] at low
    have halved : (2 : ℚ) ^ (q - 1) = 2 ^ q / 2 := by rw [zpow_sub₀ (by norm_num), zpow_one]
    norm_num at low less
    have placed : placeOf num den = q - 1 := by
      refine placeFound top positive (by have := parts.above; omega) ?_ (.inr ?_)
      · rw [zpow_add₀ (by norm_num), halved]
        norm_num
        linarith
      · rw [zpow_add₀ (by norm_num), halved]
        norm_num
        linarith
    have rounded : scaled num den (q - 1) = 2 ^ 53 := by
      refine scaledNear positive ⟨?_, ?_, .inl (by decide)⟩
      · rw [halved, le_div_iff₀ (by linarith)]
        norm_num
        linarith
      · rw [halved, div_le_iff₀ (by linarith)]
        norm_num
        linarith
    refine nearestPlaced finite top placed rounded ?_
    have above := parts.above
    have magnitude := parts.magnitude
    unfold leastExponent at *
    rw [twoToPower, if_neg (Nat.lt_irrefl _)] at magnitude
    rw [twoToPower, if_neg (by norm_num), magnitude]
    omega
  · have placed : placeOf num den = q := by
      refine placeFound top positive parts.above below ?_
      by_cases bottom : q = leastExponent
      · exact .inl bottom
      · exact .inr (not_lt.mp fun less => beside ⟨bottom, less⟩)
    have rounded : scaled num den q = m := by
      refine scaledNear positive ⟨?_, ?_, ends.imp (fun closed => ?_) fun ⟨less, more⟩ => ⟨?_, ?_⟩⟩
      · rw [le_div_iff₀ unit]
        exact (mul_le_mul_of_nonneg_right half unit.le).trans low
      · rwa [div_le_iff₀ unit]
      · simpa [Shortest.interval] using closed
      · rw [lt_div_iff₀ unit]
        exact (mul_le_mul_of_nonneg_right half unit.le).trans_lt less
      · rwa [div_lt_iff₀ unit]
    exact nearestPlaced finite top placed rounded parts.magnitude

end Binary64
end ApiScreens.Number
