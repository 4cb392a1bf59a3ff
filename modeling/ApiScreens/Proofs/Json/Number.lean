import ApiScreens.Json.Printer
import ApiScreens.Json.Written
import ApiScreens.Proofs.Number.Digits
import ApiScreens.Proofs.Text.Pieces

/-! Number texts. Whatever number is printed, its text is one of JSON's, so it is read as one token and not
refused for its form. -/
namespace ApiScreens.Json
open Number

structure Whole (cs : List Char) : Prop where
  digits : ∀ c ∈ cs, isDigit c = true
  inside : cs ≠ []
  lead : cs.head? = some '0' → cs.length = 1

inductive Fraction : List Char → Prop where
  | none : Fraction []
  | digits {cs : List Char} (digits : ∀ c ∈ cs, isDigit c = true) (inside : cs ≠ []) : Fraction ('.' :: cs)

inductive Power : List Char → Prop where
  | none : Power []
  | signed {sign cs : List Char} (sign_ : sign = [] ∨ sign = ['-'] ∨ sign = ['+'])
      (digits : ∀ c ∈ cs, isDigit c = true) (inside : cs ≠ []) : Power ('e' :: (sign ++ cs))

inductive NumberText : List Char → Prop where
  | parts {sign whole fraction power : List Char} (sign_ : sign = [] ∨ sign = ['-']) (whole_ : Whole whole)
      (fraction_ : Fraction fraction) (power_ : Power power) :
      NumberText (sign ++ (whole ++ (fraction ++ power)))

theorem digitNumberChar {c : Char} (digit : isDigit c = true) : isNumberChar c = true := by
  simp [isNumberChar, digit]

theorem NumberText.chars {cs : List Char} (number : NumberText cs) : ∀ c ∈ cs, isNumberChar c = true := by
  obtain ⟨sign, whole, fraction, power⟩ := number
  intro c inside
  simp only [List.mem_append] at inside
  rcases inside with here | here | here | here
  · rcases sign with rfl | rfl
    · contradiction
    · rw [List.mem_singleton.mp here]
      decide
  · exact digitNumberChar (whole.digits c here)
  · cases fraction with
    | none => contradiction
    | digits digits _ =>
      rcases List.mem_cons.mp here with rfl | there
      · decide
      · exact digitNumberChar (digits c there)
  · cases power with
    | none => contradiction
    | signed sign digits _ =>
      rcases List.mem_cons.mp here with rfl | there
      · decide
      · rcases List.mem_append.mp there with early | late
        · rcases sign with rfl | rfl | rfl
          · contradiction
          · rw [List.mem_singleton.mp early]
            decide
          · rw [List.mem_singleton.mp early]
            decide
        · exact digitNumberChar (digits c late)

theorem NumberText.first {cs : List Char} (number : NumberText cs) :
    ∃ c rest, cs = c :: rest ∧ startsNumber c = true := by
  obtain ⟨sign, whole, fraction, power⟩ := number
  rcases sign with rfl | rfl
  · obtain ⟨c, rest, rfl⟩ := List.exists_cons_of_ne_nil whole.inside
    exact ⟨c, _, rfl, by simp [startsNumber, whole.digits c List.mem_cons_self]⟩
  · exact ⟨'-', _, rfl, by decide⟩

theorem digitNoSign {c : Char} (digit : isDigit c = true) : c ≠ '-' ∧ c ≠ '+' := by
  constructor <;>
  · rintro rfl
    revert digit
    decide

theorem Power.behind {power : List Char} (power_ : Power power) :
    ∀ c more, power = c :: more → isDigit c = false := by
  intro c more shape
  cases power_ with
  | none => contradiction
  | signed _ _ _ =>
    rw [← (List.cons.inj shape).1]
    decide

theorem Fraction.behind {fraction power : List Char} (fraction_ : Fraction fraction) (power_ : Power power) :
    ∀ c more, fraction ++ power = c :: more → isDigit c = false := by
  cases fraction_ with
  | none => exact power_.behind
  | digits _ _ =>
    intro c more shape
    rw [← (List.cons.inj shape).1]
    decide

theorem Power.reads {power : List Char} (power_ : Power power) (negative : Bool) (whole : List Char)
    (fraction : Option (List Char)) : (literalExponent negative whole fraction power).isSome = true := by
  cases power_ with
  | none => rfl
  | @signed sign cs sign_ digits inside =>
    have all : cs ≠ [] ∧ cs.all isDigit = true := ⟨inside, List.all_eq_true.mpr digits⟩
    obtain ⟨c, rest, rfl⟩ := List.exists_cons_of_ne_nil inside
    obtain ⟨notMinus, notPlus⟩ := digitNoSign (digits c List.mem_cons_self)
    rcases sign_ with rfl | rfl | rfl
    · simp only [literalExponent, List.nil_append]
      split <;> simp_all
    · simp [literalExponent, all]
    · simp [literalExponent, all]

theorem NumberText.reads {cs : List Char} (number : NumberText cs) : (literal? cs).isSome = true := by
  obtain ⟨sign_, whole_, fraction_, power_⟩ := number
  rename_i sign whole fraction power
  obtain ⟨taken, dropped⟩ := Text.runCut whole_.digits (fraction_.behind power_)
  have short : ¬(whole = [] ∨ (whole.head? = some '0' ∧ 1 < whole.length)) := by
    rintro (empty | ⟨zero, long⟩)
    · exact whole_.inside empty
    · have := whole_.lead zero
      omega
  unfold literal?
  split
  rename_i negative body signed
  have same : body = whole ++ (fraction ++ power) := by
    rcases sign_ with rfl | rfl
    · obtain ⟨c, rest, rfl⟩ := List.exists_cons_of_ne_nil whole_.inside
      have notMinus := (digitNoSign (whole_.digits c List.mem_cons_self)).1
      simp [notMinus] at signed
      exact signed.2.symm
    · exact (congrArg Prod.snd signed).symm
  subst same
  rw [taken, dropped, if_neg short]
  cases fraction_ with
  | none =>
    rw [List.nil_append]
    cases power_ with
    | none => rfl
    | signed sign_ digits inside => exact (Power.signed sign_ digits inside).reads negative whole none
  | @digits cs digits inside =>
    obtain ⟨taken, dropped⟩ := Text.runCut digits power_.behind
    simp only [List.cons_append, taken, dropped, if_neg inside]
    exact power_.reads negative whole (some cs)

theorem Whole.ofLead {cs : List Char} (digits : ∀ d ∈ cs, isDigit d = true) {c : Char}
    (first : cs.head? = some c) (lead : c ≠ '0') : Whole cs where
  digits := digits
  inside := by
    rintro rfl
    simp at first
  lead := fun zero => absurd (Option.some.inj (first.symm.trans zero)) lead

theorem decimalWhole (n : Nat) : Whole (digitText (decimalDigits n)) := by
  obtain ⟨d, rest, shape, zero⟩ := decimalLead n
  have small := decimalSmall n
  refine ⟨digitTextDigits small, by simp [shape, digitText], fun lead => ?_⟩
  rw [shape] at small lead ⊢
  have first := (digitChar d (small d List.mem_cons_self)).2.2 (by simpa [digitText] using lead)
  simp [digitText, (zero first).2]

theorem zerosDigits (n : Nat) : ∀ c ∈ List.replicate n '0', isDigit c = true := by
  intro c inside
  rw [List.eq_of_mem_replicate inside]
  decide

theorem zeroWhole : Whole ['0'] := ⟨zerosDigits 1, by decide, fun _ => rfl⟩

theorem positionalText {d : Decimal} (leads : d.Leads) (small : ∀ n ∈ d.digits, n < 10) :
    ∃ whole fraction, positional d = whole ++ fraction ∧ Whole whole ∧ Fraction fraction := by
  cases leads with
  | @zero digits zeros =>
    have text : positional ⟨digits, 0⟩ = ['0'] ++ ['.', '0'] := by
      rcases zeros with rfl | rfl <;> decide
    exact ⟨_, _, text, zeroWhole, .digits (zerosDigits 1) (by decide)⟩
  | @digit n rest exponent positive =>
    have digits := digitTextDigits small
    have lead : Char.ofNat (48 + n) ≠ '0' := fun zero =>
      positive ((digitChar n (small n List.mem_cons_self)).2.2 zero)
    unfold positional
    dsimp only
    split
    · refine ⟨['0'], '.' :: (List.replicate (-exponent - 1).toNat '0' ++ digitText (n :: rest)), by simp,
        zeroWhole, .digits (fun c inside => ?_) (by simp [digitText])⟩
      rcases List.mem_append.mp inside with early | late
      · exact zerosDigits _ c early
      · exact digits c late
    · split
      · refine ⟨digitText (n :: rest) ++ List.replicate (exponent.toNat + 1 - (digitText (n :: rest)).length) '0',
          ['.', '0'], by simp, .ofLead (fun c inside => ?_) rfl lead, .digits (zerosDigits 1) (by decide)⟩
        rcases List.mem_append.mp inside with early | late
        · exact digits c early
        · exact zerosDigits _ c late
      · rename_i long
        refine ⟨(digitText (n :: rest)).take (exponent.toNat + 1),
          '.' :: (digitText (n :: rest)).drop (exponent.toNat + 1), by simp,
          .ofLead (fun c inside => digits c (List.mem_of_mem_take inside)) rfl lead,
          .digits (fun c inside => digits c (List.mem_of_mem_drop inside)) ?_⟩
        rw [ne_eq, List.drop_eq_nil_iff]
        omega

theorem scientificText (signed : Bool) {n : Nat} {rest : List Nat} {exponent : Int} (positive : n ≠ 0)
    (small : ∀ d ∈ n :: rest, d < 10) :
    ∃ whole fraction power, scientific signed ⟨n :: rest, exponent⟩ = whole ++ (fraction ++ power) ∧
      Whole whole ∧ Fraction fraction ∧ Power power := by
  have digits := digitTextDigits small
  have lead : Char.ofNat (48 + n) ≠ '0' := fun zero =>
    positive ((digitChar n (small n List.mem_cons_self)).2.2 zero)
  have size := decimalWhole exponent.natAbs
  have power : Power ('e' :: ((if exponent < 0 then ['-'] else if signed then ['+'] else []) ++
      digitText (decimalDigits exponent.natAbs))) := by
    refine .signed ?_ size.digits size.inside
    split
    · exact .inr (.inl rfl)
    · cases signed
      · exact .inl rfl
      · exact .inr (.inr rfl)
  have first : Whole [Char.ofNat (48 + n)] :=
    .ofLead (fun c inside => digits c (List.mem_cons.mpr (.inl (List.mem_singleton.mp inside)))) rfl lead
  cases rest with
  | nil => exact ⟨_, [], _, by simp [scientific, digitText], first, .none, power⟩
  | cons m more =>
    refine ⟨_, '.' :: digitText (m :: more), _, by simp [scientific, digitText], first,
      .digits (fun c inside => digits c (List.mem_cons_of_mem _ inside)) (by simp [digitText]), power⟩

theorem numeralText (n : Numeral) : NumberText n.text := by
  cases n with
  | integer n =>
    have sign_ : (if n < 0 then ['-'] else []) = [] ∨ (if n < 0 then ['-'] else []) = ['-'] := by
      split <;> simp
    have text := NumberText.parts sign_ (decimalWhole n.natAbs) .none .none
    simpa [Numeral.text, integerText] using text
  | binary x =>
    have leads := shortestLeads x
    have small := shortestSmall x
    have sign_ : (if x.negative then ['-'] else []) = [] ∨ (if x.negative then ['-'] else []) = ['-'] := by
      cases x.negative <;> simp
    unfold Numeral.text Layout.render
    dsimp only
    split
    · obtain ⟨whole, fraction, text, whole_, fraction_⟩ := positionalText leads small
      have number := NumberText.parts sign_ whole_ fraction_ .none
      rw [List.append_nil] at number
      rwa [text]
    · rename_i far
      generalize shortest x = d at leads small far
      cases leads with
      | zero _ => exact absurd rfl far
      | digit positive =>
        obtain ⟨whole, fraction, power, text, whole_, fraction_, power_⟩ :=
          scientificText numberLayout.signedExponent positive small
        rw [text]
        exact .parts sign_ whole_ fraction_ power_

end ApiScreens.Json
