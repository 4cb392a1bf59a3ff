import ApiScreens.Proofs.Calendar
import ApiScreens.Proofs.Naming.Free

/-! Stamps keep the order of time but for their fractions. All numbers in front of the fraction have a fixed width,
while its zeros at the end are left out, and the mark behind it stands above every digit. -/
namespace ApiScreens
open Text

def IsStampChar (c : Char) : Prop := c.isDigit ∨ c = '-' ∨ c = 'T' ∨ c = 'Z'

instance (c : Char) : Decidable (IsStampChar c) := by unfold IsStampChar; infer_instance

def IsStampText (s : String) : Prop := ∀ c ∈ s.toList, IsStampChar c

instance (s : String) : Decidable (IsStampText s) := List.decidableBAll IsStampChar s.toList

theorem IsStampText.append {a b : String} (left : IsStampText a) (right : IsStampText b) :
    IsStampText (a ++ b) := by
  intro c inside
  rcases List.mem_append.mp (String.toList_append ▸ inside) with first | second
  · exact left c first
  · exact right c second

theorem IsStampText.digits {s : String} (all : ∀ c ∈ s.toList, c.isDigit) : IsStampText s :=
  fun c inside => .inl (all c inside)

theorem paddedDigits (width n : Nat) : ∀ c ∈ (padded width n).toList, c.isDigit := by
  intro c inside
  simp only [padded, String.toList_append, String.toList_ofList, List.mem_append] at inside
  rcases inside with zero | digit
  · rw [List.eq_of_mem_replicate zero]
    decide
  · exact Naming.toStringDigits n c digit

theorem fractionDigits (t : Instant) : ∀ c ∈ t.fraction.toList, c.isDigit := by
  intro c inside
  simp only [Instant.fraction, Text.withoutTrailing, Text.dropEndWhile, String.toList_ofList,
    List.mem_reverse] at inside
  have kept := (List.dropWhile_sublist _).subset inside
  exact paddedDigits 9 _ c (by simpa using kept)

theorem stampText (t : Instant) : IsStampText t.stamp := by
  have number (width n : Nat) : IsStampText (padded width n) := .digits (paddedDigits width n)
  have hyphen : IsStampText "-" := by decide
  have between : IsStampText "T" := by decide
  have last : IsStampText "Z" := by decide
  have fraction : IsStampText (if t.fraction = "" then "" else "-" ++ t.fraction) := by
    split
    · decide
    · exact hyphen.append (.digits (fractionDigits t))
  unfold Instant.stamp
  simp only
  split
  · exact .digits (Naming.toStringDigits _)
  · have date := ((((number 4 (Day.after (t.second / 86400)).year).append hyphen).append
      (number 2 (Day.after (t.second / 86400)).month)).append hyphen).append
      (number 2 (Day.after (t.second / 86400)).day)
    have time := ((((date.append between).append (number 2 (t.second % 86400 / 3600))).append
      hyphen).append (number 2 (t.second % 86400 / 60 % 60))).append hyphen
    exact ((time.append (number 2 (t.second % 86400 % 60))).append fraction).append last

theorem stampWhole (t : Instant) : '/' ∉ t.stamp.toList :=
  fun slash => absurd (stampText t _ slash) (by decide)

def fixed : Nat → Nat → List Char
  | 0, _ => []
  | w + 1, n => fixed w (n / 10) ++ [Nat.digitChar (n % 10)]

theorem fixedZero (w : Nat) : fixed w 0 = List.replicate w '0' := by
  induction w with
  | zero => rfl
  | succ w ih =>
    rw [fixed, Nat.zero_div, ih, List.replicate_succ']
    rfl

theorem paddedFixed {w n : Nat} (wide : 0 < w) (inside : n < 10 ^ w) : (padded w n).toList = fixed w n := by
  suffices digits : List.replicate (w - (Nat.toDigits 10 n).length) '0' ++ Nat.toDigits 10 n = fixed w n by
    have shown : (toString n).length = (Nat.toDigits 10 n).length := by
      rw [Nat.toString_eq_ofList_toDigits, String.length_ofList]
    rw [padded, String.toList_append, String.toList_ofList, shown, Nat.toString_eq_ofList_toDigits,
      String.toList_ofList, digits]
  induction w generalizing n with
  | zero => omega
  | succ w ih =>
    by_cases small : n < 10
    · have rest : n / 10 = 0 := by omega
      rw [Nat.toDigits_of_lt_base small, fixed, rest, fixedZero, Nat.mod_eq_of_lt small]
      rfl
    · have shorter : n / 10 < 10 ^ w := by
        rw [Nat.pow_succ] at inside
        omega
      have more : 0 < w := by
        refine Nat.pos_of_ne_zero ?_
        rintro rfl
        omega
      rw [Nat.toDigits_of_base_le (by decide) (by omega), fixed, ← ih more shorter, List.length_append,
        List.length_singleton, Nat.add_sub_add_right, List.append_assoc]

theorem digitCharOrder : ∀ c < 10, ∀ d < 10, Nat.digitChar c < Nat.digitChar d ↔ c < d := by
  decide

theorem digitCharSame : ∀ c < 10, ∀ d < 10, Nat.digitChar c = Nat.digitChar d ↔ c = d := by
  decide

theorem fixedOrder {w a b : Nat} (left : a < 10 ^ w) (right : b < 10 ^ w) (x y : List Char) :
    fixed w a ++ x < fixed w b ++ y ↔ a < b ∨ a = b ∧ x < y := by
  induction w generalizing a b x y with
  | zero =>
    obtain ⟨rfl, rfl⟩ : a = 0 ∧ b = 0 := by omega
    simp [fixed]
  | succ w ih =>
    rw [Nat.pow_succ] at left right
    have first := digitCharOrder (a % 10) (Nat.mod_lt _ (by decide)) (b % 10) (Nat.mod_lt _ (by decide))
    have same := digitCharSame (a % 10) (Nat.mod_lt _ (by decide)) (b % 10) (Nat.mod_lt _ (by decide))
    rw [fixed, fixed, List.append_assoc, List.append_assoc, ih (by omega) (by omega), List.singleton_append,
      List.singleton_append, List.cons_lt_cons_iff, first, same]
    by_cases tail : x < y
    · simp only [tail, and_true]
      omega
    · simp only [tail, and_false, or_false]
      omega

theorem fixedSplit (m v n : Nat) : fixed (m + v) n = fixed m (n / 10 ^ v) ++ fixed v n := by
  induction v generalizing n with
  | zero => simp [fixed]
  | succ v ih => rw [← Nat.add_assoc, fixed, ih, fixed, Nat.div_div_eq_div_mul, ← Nat.pow_succ', List.append_assoc]

theorem digitCharZero : ∀ d < 10, (Nat.digitChar d == '0') = decide (d = 0) := by
  decide

theorem fixedTrimmed (w n : Nat) :
    ∃ k ≤ w, 10 ^ k ∣ n ∧ (∀ j ≤ w, 10 ^ j ∣ n → j ≤ k) ∧
      dropEndWhile (· == '0') (fixed w n) = fixed (w - k) (n / 10 ^ k) := by
  induction w generalizing n with
  | zero => exact ⟨0, le_refl 0, one_dvd n, fun j small _ => small, by simp [fixed, dropEndWhile]⟩
  | succ w ih =>
    have digit := digitCharZero (n % 10) (Nat.mod_lt _ (by decide))
    by_cases zero : n % 10 = 0
    · obtain ⟨k, small, divides, most, trimmed⟩ := ih (n / 10)
      obtain ⟨m, rfl⟩ := Nat.dvd_of_mod_eq_zero zero
      rw [Nat.mul_div_cancel_left m (by decide)] at divides most trimmed
      refine ⟨k + 1, by omega, ?_, fun j bounded whole => ?_, ?_⟩
      · rw [Nat.pow_succ']
        exact Nat.mul_dvd_mul_left 10 divides
      · cases j with
        | zero => omega
        | succ j =>
          rw [Nat.pow_succ'] at whole
          exact Nat.succ_le_succ (most j (by omega) (Nat.dvd_of_mul_dvd_mul_left (by decide) whole))
      · rw [fixed, Nat.mul_div_cancel_left m (by decide), Nat.add_sub_add_right, Nat.pow_succ',
          Nat.mul_div_mul_left _ _ (by decide), ← trimmed, dropEndWhile, dropEndWhile]
        simp
    · refine ⟨0, by omega, one_dvd n, fun j bounded whole => ?_, ?_⟩
      · by_contra some_
        have ten : 10 ∣ n := (dvd_pow_self 10 (by omega)).trans whole
        omega
      · simp [dropEndWhile, fixed, digit, zero]

theorem fixedLength (w n : Nat) : (fixed w n).length = w := by
  induction w generalizing n with
  | zero => rfl
  | succ w ih => rw [fixed, List.length_append, ih, List.length_singleton]

namespace Instant

def tail (t : Instant) : List Char :=
  (if t.fraction = "" then "" else "-" ++ t.fraction).toList ++ ['Z']

theorem tailSpelled (t : Instant) :
    ∃ k ≤ 9, 10 ^ k ∣ t.nanoseconds ∧ (∀ j ≤ 9, 10 ^ j ∣ t.nanoseconds → j ≤ k) ∧
      t.tail = if k = 9 then ['Z'] else '-' :: (fixed (9 - k) (t.nanoseconds % 10 ^ 9 / 10 ^ k) ++ ['Z']) := by
  obtain ⟨k, small, divides, most, trimmed⟩ := fixedTrimmed 9 (t.nanoseconds % 10 ^ 9)
  have rest {j : Nat} (bounded : j ≤ 9) : 10 ^ j ∣ t.nanoseconds % 10 ^ 9 ↔ 10 ^ j ∣ t.nanoseconds :=
    Nat.dvd_mod_iff (Nat.pow_dvd_pow 10 bounded)
  have spelled : t.fraction.toList = fixed (9 - k) (t.nanoseconds % 10 ^ 9 / 10 ^ k) := by
    have inside : t.nanoseconds % 10 ^ 9 < 10 ^ 9 := Nat.mod_lt _ (by decide)
    rw [← trimmed, ← paddedFixed (by decide) inside, fraction, withoutTrailing, String.toList_ofList]
    rfl
  have absent : t.fraction = "" ↔ k = 9 := by
    rw [← String.toList_eq_nil_iff, spelled, ← List.length_eq_zero_iff, fixedLength]
    omega
  refine ⟨k, small, (rest small).mp divides, fun j bounded whole => most j bounded ((rest bounded).mpr whole), ?_⟩
  unfold tail
  simp only [absent]
  split
  · rfl
  · rw [String.toList_append, spelled]
    rfl

/-- In the last decimal place that the one moment is spelled with, the other one is later. -/
def Ticked (a b : Instant) : Prop :=
  ∀ k ≤ 9, 10 ^ k ∣ a.nanoseconds → a.nanoseconds + 10 ^ k ≤ b.nanoseconds

instance (a b : Instant) : Decidable (a.Ticked b) :=
  inferInstanceAs (Decidable (∀ k ≤ 9, 10 ^ k ∣ a.nanoseconds → a.nanoseconds + 10 ^ k ≤ b.nanoseconds))

theorem nextMultiple {d m n : Nat} (positive : 0 < d) (first : d ∣ m) : m + d ≤ n ↔ m / d < n / d := by
  obtain ⟨q, rfl⟩ := first
  rw [Nat.mul_div_cancel_left q positive, ← Nat.succ_le_iff, Nat.le_div_iff_mul_le positive, Nat.succ_eq_add_one,
    Nat.add_one_mul, Nat.mul_comm q]

theorem tickedMost {a b : Instant} {k : Nat} (small : k ≤ 9) (whole : 10 ^ k ∣ a.nanoseconds)
    (most : ∀ j ≤ 9, 10 ^ j ∣ a.nanoseconds → j ≤ k) : a.Ticked b ↔ a.nanoseconds + 10 ^ k ≤ b.nanoseconds := by
  refine ⟨fun all => all k small whole, fun last j bounded divides => ?_⟩
  have shorter : 10 ^ j ≤ 10 ^ k := Nat.pow_le_pow_right (by decide) (most j bounded divides)
  omega

theorem tickedSecond {a b : Instant} (sooner : a.second < b.second) : a.Ticked b := by
  intro k bounded whole
  have start : 10 ^ k ∣ 10 ^ 9 * b.second := (Nat.pow_dvd_pow 10 bounded).trans (Nat.dvd_mul_right _ _)
  have reached : 10 ^ 9 * b.second ≤ b.nanoseconds := Nat.mul_div_le _ _
  have below : a.nanoseconds < 10 ^ 9 * b.second := by
    have parts : a.nanoseconds / 10 ^ 9 < b.second := sooner
    omega
  refine ((nextMultiple (Nat.pow_pos (by decide)) whole).mpr ?_).trans reached
  exact Nat.div_lt_div_of_lt_of_dvd start below

theorem markAbove (w n : Nat) (x y : List Char) (some_ : 0 < w) : ¬ 'Z' :: x < fixed w n ++ y := by
  obtain ⟨v, rfl⟩ := Nat.exists_eq_add_of_le some_
  rw [fixedSplit, fixed, fixed, List.nil_append, List.singleton_append, List.cons_append, List.cons_lt_cons_iff]
  have digit : ∀ d < 10, ¬ 'Z' < Nat.digitChar d ∧ 'Z' ≠ Nat.digitChar d := by decide
  obtain ⟨above, other⟩ := digit (n / 10 ^ v % 10) (Nat.mod_lt _ (by decide))
  simp [above, other]

theorem fractionOrder {r s k l : Nat} (small : k < 9) (other : l < 9) (inside : s < 10 ^ 9)
    (left : 10 ^ k ∣ r) (right : 10 ^ l ∣ s) (earlier : r < s) (x y : List Char) :
    fixed (9 - k) (r / 10 ^ k) ++ 'Z' :: x < fixed (9 - l) (s / 10 ^ l) ++ 'Z' :: y ↔ r + 10 ^ k ≤ s := by
  have room {j n : Nat} (bounded : j ≤ 9) (below : n < 10 ^ 9) : n / 10 ^ j < 10 ^ (9 - j) := by
    rw [Nat.div_lt_iff_lt_mul (Nat.pow_pos (by decide)), ← Nat.pow_add, Nat.sub_add_cancel bounded]
    exact below
  rw [nextMultiple (Nat.pow_pos (by decide)) left]
  obtain shorter | longer : k ≤ l ∨ l < k := Nat.lt_or_ge l k |>.symm
  · -- the later moment is spelled with fewer digits, and is later in the last of them
    have cut : fixed (9 - k) (r / 10 ^ k) = fixed (9 - l) (r / 10 ^ l) ++ fixed (l - k) (r / 10 ^ k) := by
      have digits : 9 - k = 9 - l + (l - k) := by omega
      rw [digits, fixedSplit, Nat.div_div_eq_div_mul, ← Nat.pow_add, Nat.add_sub_cancel' shorter]
    have here : r / 10 ^ k < s / 10 ^ k :=
      Nat.div_lt_div_of_lt_of_dvd ((Nat.pow_dvd_pow 10 shorter).trans right) earlier
    have there : r / 10 ^ l < s / 10 ^ l := Nat.div_lt_div_of_lt_of_dvd right earlier
    rw [cut, List.append_assoc, fixedOrder (room other.le (earlier.trans inside)) (room other.le inside)]
    simp only [here, there, true_or]
  · have cut : fixed (9 - l) (s / 10 ^ l) = fixed (9 - k) (s / 10 ^ k) ++ fixed (k - l) (s / 10 ^ l) := by
      have digits : 9 - l = 9 - k + (k - l) := by omega
      rw [digits, fixedSplit, Nat.div_div_eq_div_mul, ← Nat.pow_add, Nat.add_sub_cancel' longer.le]
    have above := markAbove (k - l) (s / 10 ^ l) x ('Z' :: y) (by omega)
    rw [cut, List.append_assoc, fixedOrder (room small.le (earlier.trans inside)) (room small.le inside)]
    simp only [above, and_false, or_false]

theorem tailOrder {a b : Instant} (second : a.second = b.second) (earlier : a.nanoseconds < b.nanoseconds)
    (x y : List Char) : a.tail ++ x < b.tail ++ y ↔ a.Ticked b := by
  obtain ⟨k, small, whole, most, left⟩ := a.tailSpelled
  obtain ⟨l, other, wholeLater, _, right⟩ := b.tailSpelled
  rw [tickedMost small whole most]
  have start : a.nanoseconds / 10 ^ 9 = b.nanoseconds / 10 ^ 9 := second
  have inside : b.nanoseconds % 10 ^ 9 < 10 ^ 9 := Nat.mod_lt _ (by decide)
  have behind : a.nanoseconds % 10 ^ 9 < b.nanoseconds % 10 ^ 9 := by omega
  have later : l ≠ 9 := by
    rintro rfl
    omega
  rw [right, if_neg later]
  obtain rfl | fraction := Nat.eq_or_lt_of_le small
  · -- without a fraction the mark stands where the later stamp has a hyphen
    rw [left, if_pos rfl]
    have above : ¬ 'Z' < '-' := by decide
    have never : ¬a.nanoseconds + 10 ^ 9 ≤ b.nanoseconds := by omega
    rw [List.singleton_append, List.cons_append, List.cons_lt_cons_iff, iff_false_right never]
    simp [above]
  · have parts := fractionOrder fraction (by omega) inside
      ((Nat.dvd_mod_iff (Nat.pow_dvd_pow 10 small)).mpr whole)
      ((Nat.dvd_mod_iff (Nat.pow_dvd_pow 10 other)).mpr wholeLater) behind x y
    rw [left, if_neg fraction.ne, List.cons_append, List.cons_append, List.cons_lt_cons_self, List.append_assoc,
      List.append_assoc, List.singleton_append, List.singleton_append, parts]
    generalize 10 ^ k = place
    omega

def Dated (t : Instant) : Prop := (Day.after (t.second / 86400)).year ≤ 9999

instance (t : Instant) : Decidable t.Dated := Nat.decLe _ _

theorem stampSpelled {t : Instant} (dated : t.Dated) :
    t.stamp.toList = fixed 4 (Day.after (t.second / 86400)).year ++ '-' ::
      (fixed 2 (Day.after (t.second / 86400)).month ++ '-' ::
        (fixed 2 (Day.after (t.second / 86400)).day ++ 'T' ::
          (fixed 2 (t.second % 86400 / 3600) ++ '-' ::
            (fixed 2 (t.second % 86400 / 60 % 60) ++ '-' ::
              (fixed 2 (t.second % 86400 % 60) ++ t.tail))))) := by
  obtain ⟨month, day⟩ := Day.afterSmall (t.second / 86400)
  unfold Dated at dated
  unfold stamp
  simp only [if_neg (Nat.not_lt.mpr dated), String.toList_append]
  rw [paddedFixed (by decide) (by omega : (Day.after (t.second / 86400)).year < 10 ^ 4),
    paddedFixed (by decide) month, paddedFixed (by decide) day,
    paddedFixed (by decide) (by omega : t.second % 86400 / 3600 < 10 ^ 2),
    paddedFixed (by decide) (by omega : t.second % 86400 / 60 % 60 < 10 ^ 2),
    paddedFixed (by decide) (by omega : t.second % 86400 % 60 < 10 ^ 2)]
  simp [tail]

theorem stampOrder {a b : Instant} (dated : b.Dated)
    (earlier : a.nanoseconds < b.nanoseconds) (x y : String) : a.stamp ++ x < b.stamp ++ y ↔ a.Ticked b := by
  have seconds : a.second ≤ b.second := Nat.div_le_div_right earlier.le
  have days : a.second / 86400 ≤ b.second / 86400 := Nat.div_le_div_right seconds
  have before (sooner : a.second / 86400 < b.second / 86400) := Day.afterBefore sooner
  have datedFirst : a.Dated := by
    obtain same | sooner := Nat.eq_or_lt_of_le days
    · rwa [Dated, same]
    · exact (Or.elim (before sooner) Nat.le_of_lt fun same => same.1.le).trans dated
  obtain ⟨monthA, dayA⟩ := Day.afterSmall (a.second / 86400)
  obtain ⟨monthB, dayB⟩ := Day.afterSmall (b.second / 86400)
  rw [String.lt_iff, String.toList_append, String.toList_append, stampSpelled datedFirst, stampSpelled dated]
  unfold Dated at dated datedFirst
  simp only [List.append_assoc, List.cons_append]
  rw [fixedOrder (by omega) (by omega), List.cons_lt_cons_self, fixedOrder monthA monthB, List.cons_lt_cons_self,
    fixedOrder dayA dayB, List.cons_lt_cons_self, fixedOrder (by omega) (by omega), List.cons_lt_cons_self,
    fixedOrder (by omega) (by omega), List.cons_lt_cons_self, fixedOrder (by omega) (by omega)]
  obtain same | sooner := Nat.eq_or_lt_of_le seconds
  · have tails := tailOrder same earlier x.toList y.toList
    simp only [same, tails, lt_irrefl, false_or, true_and]
  · refine iff_of_true ?_ (tickedSecond sooner)
    obtain same | sooner := Nat.eq_or_lt_of_le days
    · rw [same]
      omega
    · rcases before sooner with year | ⟨year, month | ⟨month, day⟩⟩
      · exact .inl year
      · exact .inr ⟨year, .inl month⟩
      · exact .inr ⟨year, .inr ⟨month, .inl day⟩⟩

end Instant
end ApiScreens
