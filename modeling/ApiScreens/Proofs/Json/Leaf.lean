import ApiScreens.Json.Printer
import ApiScreens.Json.Written
import ApiScreens.Proofs.Number.Digits
import Mathlib.Data.List.TakeWhile

/-! Strings, integers and words read back. What a leaf is printed as denotes the leaf again. -/
namespace ApiScreens.Json
open Number

def unitOf (c : Char) : Unit16 :=
  if c = '\n' ∨ c = '\r' ∨ c = '\t' ∨ c.toNat = 8 ∨ c.toNat = 12 ∨ 32 ≤ c.toNat then .char c
  else .unit c.toNat

theorem hexSpelled : ∀ n < 32,
    hexUnit '0' '0' (hexDigit (n / 16)) (hexDigit (n % 16)) = some n := by
  decide

theorem charOfNat {c d : Char} (same : c.toNat = d.toNat) : c = d := Char.toNat_inj.mp same

theorem unitsEscape (c : Char) (rest : List Char) :
    units (escapeChar c ++ rest) = (units rest).map (unitOf c :: ·) := by
  unfold escapeChar
  split
  · subst_vars; simp [units, shortEscape, unitOf]
  split
  · subst_vars; simp [units, shortEscape, unitOf]
  split
  · subst_vars; simp [units, shortEscape, unitOf]
  split
  · subst_vars; simp [units, shortEscape, unitOf]
  split
  · subst_vars; simp [units, shortEscape, unitOf]
  split
  · rename_i code
    have same : c = Char.ofNat 8 := charOfNat code
    subst same
    simp [units, shortEscape, unitOf]
  split
  · rename_i code
    have same : c = Char.ofNat 12 := charOfNat code
    subst same
    simp [units, shortEscape, unitOf]
  split
  · rename_i newline return_ tab back feed control
    have other : ¬32 ≤ c.toNat := by omega
    have unit : unitOf c = .unit c.toNat := by
      simp [unitOf, newline, return_, tab, back, feed, other]
    simp [units, hexSpelled _ control, unit]
  · rename_i backslash _ _ _ _ _ control
    have unit : unitOf c = .char c := by
      have large : 32 ≤ c.toNat := by omega
      simp [unitOf, large]
    rw [unit, List.singleton_append, units.eq_def]
    split <;> simp_all

theorem unitsQuoted (cs : List Char) : units (cs.flatMap escapeChar) = some (cs.map unitOf) := by
  induction cs with
  | nil => simp [units]
  | cons c rest ih => simp [unitsEscape, ih]

theorem joinUnitOf (cs : List Char) : joinUnits (cs.map unitOf) = some cs := by
  induction cs with
  | nil => simp [joinUnits]
  | cons c rest ih =>
    rw [List.map_cons, unitOf]
    split
    · rw [joinUnits, ih]
      rfl
    · rename_i control
      have small : c.toNat < 32 := by omega
      have high : ¬(0xd800 ≤ c.toNat ∧ c.toNat < 0xdc00) := by omega
      have low : ¬(0xdc00 ≤ c.toNat ∧ c.toNat < 0xe000) := by omega
      rw [joinUnits.eq_def]
      simp only [if_neg high, if_neg low, ih, Char.ofNat_toNat, Option.map_some]

theorem ofTextQuoted (s : String) :
    Written.ofText (s.toList.flatMap escapeChar) = some (.string (some s)) := by
  simp [Written.ofText, unitsQuoted, joinUnitOf]

theorem keyOfQuoted (s : String) : keyOf (s.toList.flatMap escapeChar) = some (some s) := by
  simp [keyOf, unitsQuoted, joinUnitOf]

def Fits64 (n : Int) : Prop := -(twoTo 63 : Int) ≤ n ∧ n < twoTo 64

theorem literalDigits (negative : Bool) {digits : List Char} (inside : digits ≠ [])
    (all : ∀ c ∈ digits, isDigit c = true) (lead : digits.head? = some '0' → digits.length = 1) :
    literal? ((if negative then ['-'] else []) ++ digits) = some ⟨negative, digits, none, none⟩ := by
  obtain ⟨c, rest, rfl⟩ := List.exists_cons_of_ne_nil inside
  have notSign : c ≠ '-' := by
    rintro rfl
    have digit := all '-' List.mem_cons_self
    revert digit
    decide
  have whole : (c :: rest).takeWhile isDigit = c :: rest := List.takeWhile_eq_self_iff.mpr all
  have behind : (c :: rest).dropWhile isDigit = [] := List.dropWhile_eq_nil_iff.mpr all
  have short : ¬(c :: rest = [] ∨ ((c :: rest).head? = some '0' ∧ 1 < (c :: rest).length)) := by
    rintro (empty | ⟨zero, long⟩)
    · exact inside empty
    · have := lead zero
      omega
  cases negative with
  | true =>
    simp only [if_true, List.cons_append, List.nil_append, literal?, whole, behind, if_neg short,
      literalExponent]
  | false =>
    simp only [Bool.false_eq_true, if_false, List.nil_append]
    unfold literal?
    split
    rename_i sign body cut
    have unsigned : (sign, body) = (false, c :: rest) := by
      rw [← cut]
      split
      · rename_i shape
        exact absurd (List.cons.inj shape).1 notSign
      · rfl
    cases unsigned
    simp only [whole, behind, if_neg short, literalExponent]

theorem integerSpelled {n : Int} (fits : Fits64 n) :
    Written.ofNumber (integerText n) = some (.number (some (.integer n))) := by
  obtain ⟨below, above⟩ := fits
  obtain ⟨d, rest, shape, lead⟩ := decimalLead n.natAbs
  have small := decimalSmall n.natAbs
  have zeroAlone : (digitText (decimalDigits n.natAbs)).head? = some '0' →
      (digitText (decimalDigits n.natAbs)).length = 1 := by
    intro zero
    rw [shape] at zero small ⊢
    have first := (digitChar d (small d List.mem_cons_self)).2.2 (by simpa [digitText] using zero)
    simp [digitText, (lead first).2]
  have read := literalDigits (decide (n < 0)) (by simp [shape, digitText])
    (digitTextDigits small) zeroAlone
  simp only [decide_eq_true_eq] at read
  unfold Written.ofNumber integerText
  rw [read, Option.map_some]
  by_cases negative : n < 0
  · have bounds : 0 < n.natAbs ∧ n.natAbs ≤ twoTo 63 := by omega
    have signed : -(n.natAbs : Int) = n := by omega
    simp only [Literal.numeral, decimalText, negative, bounds, signed, Option.isNone_none, and_self,
      decide_true, if_true]
  · have bounds : n.natAbs < twoTo 64 := by omega
    have unsigned : (n.natAbs : Int) = n := by omega
    simp only [Literal.numeral, decimalText, negative, bounds, unsigned, Option.isNone_none, and_self,
      decide_false, Bool.false_eq_true, if_true, if_false]

end ApiScreens.Json
