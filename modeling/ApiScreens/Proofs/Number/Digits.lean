import ApiScreens.Number.Digits
import ApiScreens.Number.Shortest
import Mathlib.Algebra.Group.Nat.Defs
import Mathlib.Data.List.TakeWhile

/-! Decimal digits read back. The fuel of a number is enough for all of its digits, and the first digit is
zero for zero alone. So it is with the shortest digits of a binary number: one above zero is never read back from zero,
whatever grid it is looked for on. -/
namespace ApiScreens.Number

def valueOf (digits : List Nat) : Nat := digits.foldl (fun n d => n * 10 + d) 0

theorem digitsOfSmall (fuel n : Nat) : ∀ d ∈ digitsOf fuel n, d < 10 := by
  induction fuel generalizing n with
  | zero => simp [digitsOf]
  | succ fuel ih =>
    intro d inside
    unfold digitsOf at inside
    split at inside
    · rw [List.mem_singleton.mp inside]
      assumption
    · rcases List.mem_append.mp inside with early | last
      · exact ih _ d early
      · rw [List.mem_singleton.mp last]
        omega

theorem fuelLeft {fuel n : Nat} (large : ¬n < 10) (enough : n < 10 ^ (fuel + 1)) :
    0 < fuel ∧ n / 10 < 10 ^ fuel := by
  rw [Nat.pow_succ] at enough
  refine ⟨Nat.pos_of_ne_zero ?_, by omega⟩
  rintro rfl
  omega

theorem digitsOfValue {fuel n : Nat} (positive : 0 < fuel) (enough : n < 10 ^ fuel) :
    valueOf (digitsOf fuel n) = n := by
  induction fuel generalizing n with
  | zero => omega
  | succ fuel ih =>
    unfold digitsOf
    split
    · simp [valueOf]
    · rename_i large
      obtain ⟨fueled, more⟩ := fuelLeft large enough
      have early : (digitsOf fuel (n / 10)).foldl (fun n d => n * 10 + d) 0 = n / 10 := ih fueled more
      unfold valueOf
      rw [List.foldl_append, early]
      simp only [List.foldl_cons, List.foldl_nil]
      omega

theorem digitsOfLead {fuel n : Nat} (positive : 0 < fuel) (enough : n < 10 ^ fuel) :
    ∃ d rest, digitsOf fuel n = d :: rest ∧ (d = 0 → n = 0 ∧ rest = []) := by
  induction fuel generalizing n with
  | zero => omega
  | succ fuel ih =>
    unfold digitsOf
    split
    · exact ⟨n, [], rfl, fun zero => ⟨zero, rfl⟩⟩
    · rename_i large
      obtain ⟨fueled, more⟩ := fuelLeft large enough
      obtain ⟨d, rest, shape, lead⟩ := ih fueled more
      refine ⟨d, rest ++ [n % 10], by rw [shape]; rfl, fun zero => ?_⟩
      have := (lead zero).1
      omega

theorem fuelEnough (n : Nat) : n < 10 ^ (n + 1).log2.succ := by
  have bits : n + 1 < 2 ^ ((n + 1).log2 + 1) := Nat.lt_log2_self
  have wider : 2 ^ ((n + 1).log2 + 1) ≤ 10 ^ ((n + 1).log2 + 1) := Nat.pow_le_pow_left (by omega) _
  omega

theorem decimalValue (n : Nat) : valueOf (decimalDigits n) = n :=
  digitsOfValue (by omega) (fuelEnough n)

theorem decimalLead (n : Nat) : ∃ d rest, decimalDigits n = d :: rest ∧ (d = 0 → n = 0 ∧ rest = []) :=
  digitsOfLead (by omega) (fuelEnough n)

theorem decimalInside (n : Nat) : decimalDigits n ≠ [] := by
  obtain ⟨d, rest, shape, _⟩ := decimalLead n
  simp [shape]

theorem decimalSmall (n : Nat) : ∀ d ∈ decimalDigits n, d < 10 := digitsOfSmall _ _

theorem digitChar : ∀ d < 10, isDigit (Char.ofNat (48 + d)) = true ∧
    digitValue (Char.ofNat (48 + d)) = d ∧ (Char.ofNat (48 + d) = '0' → d = 0) := by
  decide

theorem digitTextDigits {digits : List Nat} (small : ∀ d ∈ digits, d < 10) :
    ∀ c ∈ digitText digits, isDigit c = true := by
  intro c inside
  obtain ⟨d, listed, rfl⟩ := List.mem_map.mp inside
  exact (digitChar d (small d listed)).1

theorem natOfDigitText {digits : List Nat} (small : ∀ d ∈ digits, d < 10) :
    natOfDigits 10 (digitText digits) = valueOf digits := by
  unfold natOfDigits digitText valueOf
  rw [List.foldl_map]
  generalize 0 = start
  induction digits generalizing start with
  | nil => rfl
  | cons d rest ih =>
    have value := (digitChar d (small d List.mem_cons_self)).2.1
    simp only [List.foldl_cons, value]
    exact ih (fun d inside => small d (List.mem_cons_of_mem _ inside)) _

theorem decimalText (n : Nat) : natOfDigits 10 (digitText (decimalDigits n)) = n := by
  rw [natOfDigitText (decimalSmall n), decimalValue]

theorem digitsSpell {digits : List Nat} (inside : digits ≠ []) (small : ∀ d ∈ digits, d < 10) :
    ofDigits 10 (digitText digits) = some (valueOf digits) := by
  have all : (digitText digits).all (digitValue · < 10) = true := by
    refine List.all_eq_true.mpr fun c there => ?_
    obtain ⟨d, listed, rfl⟩ := List.mem_map.mp there
    rw [(digitChar d (small d listed)).2.1]
    exact decide_eq_true (small d listed)
  rw [ofDigits, if_pos ⟨by simpa [digitText] using inside, all⟩, natOfDigitText small]

inductive Decimal.Leads : Decimal → Prop where
  | zero {digits : List Nat} (zeros : digits = [] ∨ digits = [0]) : Leads ⟨digits, 0⟩
  | digit {d : Nat} {rest : List Nat} {exponent : Int} (positive : d ≠ 0) : Leads ⟨d :: rest, exponent⟩

theorem twoToPositive (n : Nat) : 0 < twoTo n := Nat.pow_pos (by decide)

theorem tenToPositive (n : Nat) : 0 < tenTo n := Nat.pow_pos (by decide)

theorem partsPositive {x : Binary64} (positive : x.magnitude ≠ 0) : 0 < x.parts.1 := by
  have whole := Nat.div_add_mod x.magnitude (twoTo 52)
  have wide := twoToPositive 52
  unfold Binary64.parts
  dsimp only
  split
  · rename_i small
    rw [small] at whole
    dsimp only
    omega
  · dsimp only
    omega

namespace Shortest

theorem intervalPositive {m : Nat} (positive : 0 < m) (q : Int) : 0 < (interval m q).low := by
  unfold interval
  dsimp only
  split <;> omega

theorem withinPositive {i : Interval} (positive : 0 < i.low) {q k : Int} {a : Nat}
    (hit : within i q a k = true) : a ≠ 0 := by
  rintro rfl
  have low : 0 < (sides 0 k i.low q).2 := by
    have two := twoToPositive q.toNat
    have ten := tenToPositive (-k).toNat
    unfold sides
    split <;> split <;> simp [positive, two, ten]
  have none : (sides 0 k i.low q).1 = 0 := by simp [sides]
  unfold within at hit
  dsimp only at hit
  split at hit
  · simp only [Bool.and_eq_true, decide_eq_true_eq] at hit
    omega
  · simp only [Bool.and_eq_true, decide_eq_true_eq] at hit
    omega

theorem gridWithin {i : Interval} {m a : Nat} {q k : Int} (hit : onGrid i m q k = some a) : within i q a k = true := by
  have within_ {b : Nat} {hits grid : List Nat} (found : grid.filter (fun a => within i q a k) = hits)
      (inside : b ∈ hits) : within i q b k = true := by
    rw [← found] at inside
    exact (List.mem_filter.mp inside).2
  unfold onGrid at hit
  generalize Binary64.ratio m q = value at hit
  obtain ⟨num, den⟩ := value
  dsimp only at hit
  generalize (if 0 ≤ k then (num, den * tenTo k.toNat) else (num * tenTo (-k).toNat, den)) = place at hit
  split at hit
  · rename_i b c found
    cases hit
    split
    · exact within_ found (by simp)
    · exact within_ found (by simp)
  · rename_i b found
    cases hit
    exact within_ found (by simp)
  · contradiction

theorem onGridPositive {i : Interval} (positive : 0 < i.low) {m a : Nat} {q k : Int}
    (hit : onGrid i m q k = some a) : a ≠ 0 :=
  withinPositive positive (gridWithin hit)

theorem searchPositive {i : Interval} (positive : 0 < i.low) (m : Nat) (q lead : Int) (fuel count : Nat) :
    search i m q lead fuel count = (0, 0) ∨ (search i m q lead fuel count).1 ≠ 0 := by
  induction fuel generalizing count with
  | zero => exact .inl rfl
  | succ fuel ih =>
    unfold search
    dsimp only
    split
    · rename_i a hit
      exact .inr (onGridPositive positive hit)
    · exact ih (count + 1)

end Shortest

theorem dropZerosPrefix (digits : List Nat) : dropTrailingZeros digits <+: digits := by
  have suffix := List.dropWhile_suffix (l := digits.reverse) (· == 0)
  simpa [dropTrailingZeros] using List.reverse_prefix.mpr suffix

theorem dropZerosLead {d : Nat} (rest : List Nat) (positive : d ≠ 0) :
    ∃ more, dropTrailingZeros (d :: rest) = d :: more := by
  cases shape : dropTrailingZeros (d :: rest) with
  | nil =>
    have dropped := List.reverse_eq_nil_iff.mp shape
    have zero := List.dropWhile_eq_nil_iff.mp dropped d (by simp)
    exact absurd (beq_iff_eq.mp zero) positive
  | cons c more =>
    have front := dropZerosPrefix (d :: rest)
    rw [shape, List.cons_prefix_cons] at front
    exact ⟨more, by rw [front.1]⟩

theorem shortestLeads (x : Binary64) : (shortest x).Leads := by
  unfold shortest
  split
  · exact .zero (.inr rfl)
  · rename_i positive
    have low := Shortest.intervalPositive (partsPositive positive) x.parts.2
    dsimp only
    generalize Shortest.leadingExponent _ _ = lead
    generalize found : Shortest.search _ _ _ lead 18 0 = hit
    obtain ⟨a, k⟩ := hit
    rcases Shortest.searchPositive low x.parts.1 x.parts.2 lead 18 0 with none | some
    · rw [none] at found
      cases found
      exact .zero (.inl rfl)
    · rw [found] at some
      obtain ⟨d, rest, shape, zero⟩ := decimalLead a
      have leads : d ≠ 0 := fun same => some (zero same).1
      obtain ⟨more, dropped⟩ := dropZerosLead rest leads
      dsimp only
      rw [shape, dropped]
      exact .digit leads

theorem shortestSmall (x : Binary64) : ∀ d ∈ (shortest x).digits, d < 10 := by
  unfold shortest
  split
  · simp
  · intro d inside
    exact digitsOfSmall _ _ d ((dropZerosPrefix _).subset inside)

end ApiScreens.Number
