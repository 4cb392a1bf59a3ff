import ApiScreens.Number.Decimal
import ApiScreens.Proofs.Json.Number
import ApiScreens.Proofs.Number.Search
import Mathlib.Data.List.DropRight

/-! Printed numbers read back. The text of a binary number, positional or with an exponent, spells a decimal that is
rounded to that number, and the text of an integer spells the integer. -/
namespace ApiScreens.Number
open Shortest (Between interval)

namespace Binary64
variable {m : Nat} {q : Int} {x : Binary64}

theorem exponentBelow (finite : x.magnitude < infinity) (parts : Parts x m q) : q ≤ 971 := by
  have magnitude := parts.magnitude
  have full := parts.full
  unfold infinity at finite
  unfold leastExponent at full
  rw [twoToPower] at *
  split at magnitude
  · omega
  · omega

theorem tenAbove {e : Int} (positive : 0 ≤ e) : (2 : ℚ) ^ (3 * e) ≤ 10 ^ e := by
  rw [zpow_mul]
  exact zpow_le_zpow_left₀ positive (by norm_num) (by norm_num)

theorem tenBelow {e : Int} (negative : e ≤ 0) : (10 : ℚ) ^ e ≤ 2 ^ e := by
  have inverse : ((10 : ℚ) ^ (-e))⁻¹ ≤ (2 ^ (-e))⁻¹ :=
    inv_anti₀ (twoPositive _) (zpow_le_zpow_left₀ (by omega) (by norm_num) (by norm_num))
  simpa using inverse

theorem ofDecimalBetween (finite : x.magnitude < infinity) (parts : Parts x m q) {n : Nat} {e : Int}
    (between : Between (interval m q) q (n * 10 ^ e)) : ofDecimal x.negative n e = some x := by
  have unit := twoPositive q
  have step := tenPositive e
  have below := exponentBelow finite parts
  have above := parts.above
  have least : (1 : ℚ) ≤ m := by exact_mod_cast parts.positive
  have most : (m : ℚ) + 1 ≤ 2 ^ 53 := by exact_mod_cast parts.short
  have low : (1 / 2 : ℚ) * 2 ^ q ≤ n * 10 ^ e := by
    have half := mul_le_mul_of_nonneg_right (intervalHalf parts.positive q) unit.le
    nlinarith [between.low]
  have high : (n : ℚ) * 10 ^ e ≤ 2 ^ 53 * 2 ^ q := by
    have upper := between.high
    rw [intervalHigh] at upper
    nlinarith
  have some : 0 < n := by
    refine Nat.pos_of_ne_zero fun zero => ?_
    rw [zero, Nat.cast_zero, zero_mul] at low
    linarith
  have one : (1 : ℚ) ≤ n := by exact_mod_cast some
  have small : ¬e > 400 := by
    intro large
    have less : (2 : ℚ) ^ (3 * e) ≤ 2 ^ (53 + q) := by
      calc (2 : ℚ) ^ (3 * e) ≤ 10 ^ e := tenAbove (by omega)
        _ ≤ n * 10 ^ e := by nlinarith
        _ ≤ 2 ^ (53 + q) := by
          rw [zpow_add₀ (by norm_num)]
          exact high
    have exponents := (zpow_le_zpow_iff_right₀ (by norm_num : (1 : ℚ) < 2)).mp less
    omega
  have large : ¬e + ((Nat.log2 n : Int) + 1) < -1200 := by
    intro tiny
    have wide := (log2Between some).2
    have more : (2 : ℚ) ^ (q - 1) < 2 ^ (e + ((Nat.log2 n : Int) + 1)) := by
      calc (2 : ℚ) ^ (q - 1) = 1 / 2 * 2 ^ q := by
            rw [zpow_sub₀ (by norm_num), zpow_one]
            ring
        _ ≤ n * 10 ^ e := low
        _ ≤ n * 2 ^ e := by
          have tens := tenBelow (by omega : e ≤ 0)
          gcongr
        _ < 2 ^ (e + ((Nat.log2 n : Int) + 1)) := by
          rw [zpow_add₀ (by norm_num), mul_comm]
          exact mul_lt_mul_of_pos_left wide (twoPositive e)
    have exponents := (zpow_lt_zpow_iff_right₀ (by norm_num : (1 : ℚ) < 2)).mp more
    unfold leastExponent at above
    omega
  unfold ofDecimal
  rw [if_neg (Nat.ne_of_gt some), if_neg small, if_neg large]
  split
  · rename_i up
    refine nearestBetween finite parts Nat.one_pos ?_
    rw [Nat.cast_mul, tenToPower, powerUp 10 up, Nat.cast_one, div_one]
    exact between
  · rename_i down
    refine nearestBetween finite parts (tenToPositive _) ?_
    rw [tenToPower, powerDown 10 down, div_inv_eq_mul]
    exact between

end Binary64

def Reads (text : List Char) (n : Nat) (e : Int) : Prop :=
  ∀ negative : Bool, Binary64.ofText ((if negative then ['-'] else []) ++ text) = Binary64.ofDecimal negative n e

def Spells (text : List Char) (v : ℚ) : Prop := ∃ n : Nat, ∃ e : Int, n * 10 ^ e = v ∧ Reads text n e

theorem powerMark {power_ : List Char} {e : Int} (read : power power_ = some e) :
    ∀ c more, power_ = c :: more → isDigit c = false ∧ c ≠ '.' := by
  rintro c more rfl
  rw [power] at read
  split at read
  · rename_i mark
    rcases mark with rfl | rfl <;> decide
  · contradiction

theorem signCut {digits : List Nat} (inside : digits ≠ []) (small : ∀ d ∈ digits, d < 10) (rest : List Char)
    (negative : Bool) :
    sign ((if negative then ['-'] else []) ++ (digitText digits ++ rest)) = (negative, digitText digits ++ rest) := by
  cases negative with
  | true => rfl
  | false =>
    obtain ⟨d, more, rfl⟩ := List.exists_cons_of_ne_nil inside
    obtain ⟨notMinus, notPlus⟩ := Json.digitNoSign (digitChar d (small d List.mem_cons_self)).1
    simp [sign, digitText, notMinus, notPlus]

section
variable {whole fraction : List Nat} {power_ : List Char} {e : Int}

theorem plainReads (inside : whole ≠ []) (small : ∀ d ∈ whole, d < 10) (read : power power_ = some e) :
    Reads (digitText whole ++ power_) (valueOf whole) e := by
  intro negative
  have mark := powerMark read
  obtain ⟨taken, dropped⟩ := Text.runCut (digitTextDigits small) fun c more shape => (mark c more shape).1
  have value := digitsSpell inside small
  unfold Binary64.ofText
  rw [signCut inside small]
  dsimp only
  rw [taken, dropped]
  cases power_ with
  | nil => simp [value, read]
  | cons c more =>
    have noPoint := (mark c more rfl).2
    simp [noPoint, value, read]

theorem pointReads (inside : whole ≠ []) (small : ∀ d ∈ whole ++ fraction, d < 10) (read : power power_ = some e) :
    Reads (digitText whole ++ '.' :: (digitText fraction ++ power_)) (valueOf (whole ++ fraction))
      (e - fraction.length) := by
  intro negative
  have mark := powerMark read
  have wholes : ∀ d ∈ whole, d < 10 := fun d there => small d (List.mem_append_left _ there)
  have fractions : ∀ d ∈ fraction, d < 10 := fun d there => small d (List.mem_append_right _ there)
  obtain ⟨taken, dropped⟩ := Text.markCut (digitTextDigits wholes) (by decide : isDigit '.' = false)
    (digitText fraction ++ power_)
  obtain ⟨behind, left⟩ := Text.runCut (digitTextDigits fractions) fun c more shape => (mark c more shape).1
  have value := digitsSpell (List.append_ne_nil_of_left_ne_nil inside fraction) small
  have together : digitText whole ++ digitText fraction = digitText (whole ++ fraction) := List.map_append.symm
  have count : (digitText fraction).length = fraction.length := List.length_map _
  unfold Binary64.ofText
  rw [signCut inside wholes]
  dsimp only
  rw [taken, dropped]
  simp only [behind, left, together, value, read, count]
  rfl

theorem zerosValue (n : Nat) : valueOf (List.replicate n 0) = 0 := by
  induction n with
  | zero => rfl
  | succ n ih =>
    rw [List.replicate_succ', Shortest.valueAppend, ih]
    rfl

theorem paddedSpells (whole fraction : List Nat) (front back : Nat) {digits : List Nat} (inside : whole ≠ [])
    (small : ∀ d ∈ digits, d < 10) (padded : whole ++ fraction = List.replicate front 0 ++ digits ++ List.replicate back 0)
    (read : power power_ = some e) :
    Spells (digitText whole ++ '.' :: (digitText fraction ++ power_))
      (valueOf digits * 10 ^ (e + back - fraction.length)) := by
  have all : ∀ d ∈ whole ++ fraction, d < 10 := by
    intro d there
    rw [padded] at there
    rcases List.mem_append.mp there with early | late
    · rcases List.mem_append.mp early with zero | digit
      · rw [List.eq_of_mem_replicate zero]
        decide
      · exact small d digit
    · rw [List.eq_of_mem_replicate late]
      decide
  have value : valueOf (whole ++ fraction) = valueOf digits * 10 ^ back := by
    rw [padded, Shortest.valueAppend, Shortest.valueAppend, zerosValue, zerosValue, List.length_replicate, Nat.zero_mul,
      Nat.zero_add, Nat.add_zero]
  have moved : ((valueOf (whole ++ fraction) : Nat) : ℚ) * 10 ^ (e - fraction.length) =
      valueOf digits * 10 ^ (e + back - fraction.length) := by
    rw [value, add_sub_right_comm, zpow_add₀ (by norm_num), zpow_natCast]
    push_cast
    ring
  exact ⟨_, _, moved, pointReads inside all read⟩

end

def Decimal.value (d : Decimal) : ℚ := valueOf d.digits * 10 ^ (d.exponent + 1 - d.digits.length)

section
variable {d : Decimal}

theorem positionalSpells (inside : d.digits ≠ []) (small : ∀ n ∈ d.digits, n < 10) : Spells (positional d) d.value := by
  obtain ⟨digits, exponent⟩ := d
  have count : 0 < digits.length := List.length_pos_iff.mpr inside
  have size : (digitText digits).length = digits.length := List.length_map _
  have none : power [] = some 0 := rfl
  unfold positional Decimal.value
  dsimp only
  split
  · rename_i below
    have text := paddedSpells [0] (List.replicate (-exponent - 1).toNat 0 ++ digits) ((-exponent - 1).toNat + 1) 0
      (by decide) small (by simp [List.replicate_succ]) none
    have place : (0 : Int) + (0 : Nat) - (List.replicate (-exponent - 1).toNat 0 ++ digits).length =
        exponent + 1 - digits.length := by
      simp only [List.length_append, List.length_replicate]
      omega
    rw [place] at text
    simpa [digitText] using text
  · split
    · rename_i short
      have text := paddedSpells (digits ++ List.replicate (exponent.toNat + 1 - digits.length) 0) [0] 0
        (exponent.toNat + 1 - digits.length + 1) (by simp [inside]) small (by simp [List.replicate_succ']) none
      have place : (0 : Int) + (exponent.toNat + 1 - digits.length + 1 : Nat) - ([0] : List Nat).length =
          exponent + 1 - digits.length := by
        simp only [List.length_singleton]
        omega
      rw [place] at text
      simpa [digitText] using text
    · rename_i long
      have text := paddedSpells (digits.take (exponent.toNat + 1)) (digits.drop (exponent.toNat + 1)) 0 0
        (by simp [inside]) small (by simp) none
      have place : (0 : Int) + (0 : Nat) - (digits.drop (exponent.toNat + 1)).length = exponent + 1 - digits.length := by
        simp only [List.length_drop]
        omega
      rw [place] at text
      simpa [digitText] using text

theorem powerReads (signed : Bool) (exponent : Int) :
    power ('e' :: ((if exponent < 0 then ['-'] else if signed then ['+'] else []) ++
      digitText (decimalDigits exponent.natAbs))) = some exponent := by
  have small := decimalSmall exponent.natAbs
  have inside := decimalInside exponent.natAbs
  have value := digitsSpell inside small
  rw [decimalValue] at value
  have cut : sign ((if exponent < 0 then ['-'] else if signed then ['+'] else []) ++
      digitText (decimalDigits exponent.natAbs)) = (decide (exponent < 0), digitText (decimalDigits exponent.natAbs)) := by
    split
    · simp [sign, *]
    · cases signed with
      | true => simp [sign, *]
      | false =>
        have unsigned := signCut inside small [] false
        simpa [*] using unsigned
  rw [power, if_pos (.inl rfl), cut]
  simp only [value, decide_eq_true_eq]
  change some (if exponent < 0 then -(exponent.natAbs : Int) else exponent.natAbs) = some exponent
  congr 1
  split <;> omega

theorem scientificSpells (signed : Bool) (inside : d.digits ≠ []) (small : ∀ n ∈ d.digits, n < 10) :
    Spells (scientific signed d) d.value := by
  obtain ⟨digits, exponent⟩ := d
  obtain ⟨n, rest, rfl⟩ := List.exists_cons_of_ne_nil inside
  have read := powerReads signed exponent
  unfold scientific Decimal.value
  cases rest with
  | nil =>
    have text := plainReads (List.cons_ne_nil n []) small read
    exact ⟨valueOf [n], exponent, by simp, by simpa [digitText] using text⟩
  | cons m more =>
    have text := paddedSpells [n] (m :: more) 0 0 (List.cons_ne_nil n []) small (by simp) read
    have place : exponent + (0 : Nat) - (m :: more).length = exponent + 1 - (n :: m :: more).length := by
      simp only [List.length_cons]
      omega
    rw [place] at text
    simpa [digitText] using text

end

theorem droppedValue (digits : List Nat) : (valueOf (dropTrailingZeros digits) : ℚ) *
    10 ^ ((digits.length : Int) - (dropTrailingZeros digits).length) = valueOf digits := by
  have zeros : digits.rtakeWhile (· == 0) = List.replicate (digits.rtakeWhile (· == 0)).length 0 :=
    List.eq_replicate_of_mem fun d inside => by simpa using List.mem_rtakeWhile_imp inside
  have parts : dropTrailingZeros digits ++ digits.rtakeWhile (· == 0) = digits :=
    List.rdropWhile_append_rtakeWhile
  rw [zeros] at parts
  generalize (digits.rtakeWhile (· == 0)).length = count at parts
  have value := Shortest.valueAppend (dropTrailingZeros digits) (List.replicate count 0)
  rw [parts, zerosValue, List.length_replicate, Nat.add_zero] at value
  have length := congrArg List.length parts
  rw [List.length_append, List.length_replicate] at length
  have moved : (digits.length : Int) - (dropTrailingZeros digits).length = count := by omega
  rw [moved, zpow_natCast, value]
  push_cast
  rfl

namespace Binary64
variable {x : Binary64}

theorem shortestBetween (some : x.magnitude ≠ 0) :
    Between (interval x.parts.1 x.parts.2) x.parts.2 (shortest x).value := by
  have parts := partsOf some
  obtain ⟨a, k, found, between⟩ := Shortest.searchBetween parts.positive parts.short
  have value : (shortest x).value = a * 10 ^ k := by
    unfold shortest Decimal.value
    rw [if_neg some]
    dsimp only
    rw [found]
    dsimp only
    have digits := droppedValue (decimalDigits a)
    rw [decimalValue] at digits
    rw [← digits, mul_assoc, ← zpow_add₀ (by norm_num)]
    congr 2
    ring
  exact value ▸ between

theorem shortestInside (x : Binary64) : (shortest x).digits ≠ [] := by
  by_cases zero : x.magnitude = 0
  · simp [shortest, zero]
  · intro none
    have between := shortestBetween zero
    have low := Shortest.intervalPositive (partsPositive zero) x.parts.2
    have positive : (0 : ℚ) < (interval x.parts.1 x.parts.2).low := by exact_mod_cast low
    have nothing : (shortest x).value = 0 := by simp [Decimal.value, none, valueOf]
    have unit := twoPositive x.parts.2
    have below : (0 : ℚ) < ((interval x.parts.1 x.parts.2).low : ℚ) / 4 * 2 ^ x.parts.2 := by positivity
    have above := between.low
    rw [nothing] at above
    linarith

theorem renderReads (finite : x.magnitude < infinity) (layout : Layout) : ofText (layout.render x) = some x := by
  have digits := shortestInside x
  have small := shortestSmall x
  have spells : ∃ text, layout.render x = (if x.negative then ['-'] else []) ++ text ∧ Spells text (shortest x).value := by
    unfold Layout.render
    dsimp only
    split
    · exact ⟨_, rfl, positionalSpells digits small⟩
    · exact ⟨_, rfl, scientificSpells _ digits small⟩
  obtain ⟨text, shape, n, e, value, read⟩ := spells
  rw [shape, read]
  by_cases zero : x.magnitude = 0
  · have nothing : (shortest x).value = 0 := by simp [shortest, zero, Decimal.value, valueOf]
    have none : n = 0 := by
      have ten := (tenPositive e).ne'
      rw [nothing] at value
      simpa [ten] using value
    rw [ofDecimal, if_pos none, ← zero]
  · exact ofDecimalBetween finite (partsOf zero) (value ▸ shortestBetween zero)

theorem integerReads (n : Int) : ofText (Json.integerText n) = nearest (n < 0) n.natAbs 1 := by
  have small := decimalSmall n.natAbs
  have none : power [] = some 0 := rfl
  have read := plainReads (decimalInside n.natAbs) small none (decide (n < 0))
  rw [decimalValue, List.append_nil] at read
  have text : Json.integerText n = (if decide (n < 0) = true then ['-'] else []) ++ digitText (decimalDigits n.natAbs) := by
    simp only [decide_eq_true_eq]
    rfl
  have fits : ¬((0 : Int) + ((Nat.log2 n.natAbs : Int) + 1) < -1200) := by omega
  rw [text, read, ofDecimal, if_neg (by decide : ¬(0 : Int) > 400), if_neg fits, if_pos (Int.le_refl 0)]
  by_cases zero : n.natAbs = 0
  · rw [if_pos zero, nearest, if_pos zero]
  · rw [if_neg zero, Int.toNat_zero, tenTo, Nat.pow_eq, Nat.pow_zero, Nat.mul_one]

end Binary64
end ApiScreens.Number
