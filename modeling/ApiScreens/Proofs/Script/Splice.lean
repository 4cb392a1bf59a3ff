import ApiScreens.Proofs.Script.Quoted
import ApiScreens.Script.Code

/-! Texts that are spliced between single quotes. Such a text stands on a line of its own, and lines keep their order
through nesting; between its quotes it denotes itself exactly if it has no quote, no backslash and no line break. -/
namespace ApiScreens.Script
open Json (Unit16 joinUnits)

def indent : Nat → String
  | 0 => ""
  | n + 1 => "\t" ++ indent n

/-- Some of the lines in their order, apart from their indentation. -/
inductive Carries : Lines → Lines → Prop where
  | nil : Carries [] []
  | other {line : String} {lines inner : Lines} (rest : Carries lines inner) : Carries (line :: lines) inner
  | line {line : String} {lines inner : Lines} (tabs : Nat) (rest : Carries lines inner) :
      Carries ((indent tabs ++ line) :: lines) (line :: inner)

namespace Carries
variable {lines more inner others : Lines}

theorem nothing (lines : Lines) : Carries lines [] := by
  induction lines with
  | nil => exact .nil
  | cons line rest ih => exact .other ih

theorem one (line : String) : Carries [line] [line] := .line 0 .nil

theorem all (lines : Lines) : Carries lines lines := by
  induction lines with
  | nil => exact .nil
  | cons line rest ih => exact .line 0 ih

theorem cons (line : String) (rest : Carries lines inner) : Carries (line :: lines) (line :: inner) := .line 0 rest

theorem append (left : Carries lines inner) (right : Carries more others) : Carries (lines ++ more) (inner ++ others) := by
  induction left with
  | nil => exact right
  | other _ ih => exact .other ih
  | line tabs _ ih => exact .line tabs ih

theorem before (front : Lines) (carries : Carries lines inner) : Carries (front ++ lines) inner :=
  (nothing front).append carries

theorem behind (carries : Carries lines inner) (last : Lines) : Carries (lines ++ last) inner := by
  simpa using carries.append (nothing last)

theorem nest (carries : Carries lines inner) : Carries (Script.nest lines) inner := by
  induction carries with
  | nil => exact .nil
  | other _ ih => exact .other ih
  | @line line lines _ tabs _ ih =>
    by_cases empty : indent tabs ++ line = ""
    · have stays : Script.nest ((indent tabs ++ line) :: lines) = (indent tabs ++ line) :: Script.nest lines := by
        simp [Script.nest, empty]
      rw [stays]
      exact .line tabs ih
    · have deeper : Script.nest ((indent tabs ++ line) :: lines) =
          (indent (tabs + 1) ++ line) :: Script.nest lines := by
        simp only [Script.nest, List.map_cons, if_neg empty, indent, String.append_assoc]
      rw [deeper]
      exact .line (tabs + 1) ih

theorem enclosed (carries : Carries lines inner) (head last : String) :
    Carries (Script.enclosed head lines last) inner :=
  (carries.nest.before [head]).behind [last]

theorem block (carries : Carries lines inner) (head tail : String) : Carries (Script.block head lines tail) inner :=
  carries.enclosed _ _

end Carries

theorem commaAfterLast (lines : Lines) (last : String) :
    separated.commaAfter (lines ++ [last]) = lines ++ [last ++ ","] := by
  induction lines with
  | nil => rfl
  | cons first rest ih =>
    cases rest with
    | nil => rfl
    | cons second others => exact congrArg (first :: ·) ih

theorem Carries.separated {α : Type} {body inner : α → Lines} (xs : List α) (each : ∀ x ∈ xs, Carries (body x) (inner x)) :
    Carries (Script.separated (xs.map fun x => Script.block "" (body x) "")) (xs.flatMap inner) := by
  induction xs with
  | nil => exact .nil
  | cons x rest ih =>
    have here := each x List.mem_cons_self
    have later := ih fun y listed => each y (List.mem_cons_of_mem _ listed)
    cases rest with
    | nil => simpa [Script.separated] using here.block "" ""
    | cons y others =>
      have front := (here.nest.before ["" ++ "\x7b"]).behind ["\x7d" ++ "" ++ ","]
      rw [List.map_cons, List.map_cons, Script.separated, Script.block, Script.enclosed, commaAfterLast]
      · exact front.append later
      · simp

variable {q : Quote} {text raw behind rest : List Char} {us : List Unit16}

theorem escapeQuote {p : Quote} (read : escape? text = some ([.char p.mark], behind)) : text = p.mark :: behind := by
  have point {n : Nat} : pointUnit? n ≠ some (.char p.mark) := by
    intro spelled
    unfold pointUnit? at spelled
    split at spelled
    · simp at spelled
    split at spelled
    · rename_i large valid
      have scalar : n.isValidChar := .inr ⟨by omega, valid⟩
      have code : (Char.ofNat n).toNat = n := by
        rw [Char.ofNat, dif_pos scalar]
        rfl
      have small : p.mark.toNat < 0x10000 := by cases p <;> decide
      rw [Unit16.char.inj (Option.some.inj spelled)] at code
      omega
    · contradiction
  cases text with
  | nil => contradiction
  | cons c rest =>
    simp only [escape?] at read
    split at read
    · simp [hexUnit?] at read
    split at read
    · split at read
      · obtain ⟨_, n, u, _, _, _, unit, same⟩ := codePointExactly.mp read
        exact absurd (List.singleton_inj.mp same ▸ unit) point
      · simp [hexUnit?] at read
    split at read
    · simp at read
    split at read
    · simp at read
    split at read
    · simp only [Option.ite_none_right_eq_some, Option.some.injEq, Prod.mk.injEq, List.singleton_inj,
        Unit16.char.injEq] at read
      exact absurd read.2.1 (by cases p <;> decide)
    · simp only [Option.some.injEq, Prod.mk.injEq, List.singleton_inj, Unit16.char.injEq] at read
      obtain ⟨spelled, rfl⟩ := read
      unfold shortEscape at spelled
      split at spelled
      all_goals first | exact congrArg (· :: rest) spelled | (exact absurd spelled (by cases p <;> decide))

theorem elementQuotes (read : element? q text = some (us, behind)) (others : text.head? ≠ some q.mark) :
    ∃ raw, text = raw ++ behind ∧ raw.count q.mark ≤ us.count (.char q.mark) := by
  obtain ⟨raw, front, _⟩ := elementFront read
  refine ⟨raw, front.whole, ?_⟩
  by_cases quoted : q.mark ∈ raw
  · obtain ⟨u, rfl⟩ : ∃ u, us = [u] := by
      have some := List.length_pos_of_mem (front.quotes q quoted)
      have few := front.few
      exact List.length_eq_one_iff.mp (by omega)
    obtain rfl := List.mem_singleton.mp (front.quotes q quoted)
    cases text with
    | nil => contradiction
    | cons c rest =>
      have apart : c ≠ q.mark := fun same => others (same ▸ rfl)
      have whole := front.whole
      simp only [element?] at read
      split at read
      · rename_i slash
        -- an escaped quote
        rw [escapeQuote read, slash] at whole
        have shape : ['\\', q.mark] = raw := List.append_cancel_right whole
        rw [← shape]
        cases q <;> decide
      split at read
      · split at read
        · contradiction
        split at read
        · have fed := (Prod.mk.inj (Option.some.inj read)).1
          simp only [List.singleton_inj, Unit16.char.injEq] at fed
          exact absurd fed (by cases q <;> decide)
        · have same := (Prod.mk.inj (Option.some.inj read)).1
          simp only [List.singleton_inj, Unit16.char.injEq] at same
          exact absurd same apart
      · split at read
        · contradiction
        · have same := (Prod.mk.inj (Option.some.inj read)).1
          simp only [List.singleton_inj, Unit16.char.injEq] at same
          exact absurd same apart
  · rw [List.count_eq_zero.mpr quoted]
    exact Nat.zero_le _

theorem insideQuotes (read : inside? q text = some (us, rest)) :
    ∃ raw, text = raw ++ q.mark :: rest ∧ raw.count q.mark ≤ us.count (.char q.mark) := by
  induction size : text.length using Nat.strong_induction_on generalizing text us with
  | _ n ih =>
    rcases insideCases read with ⟨rfl, rfl⟩ | ⟨first, behind, more, element, later, others, rfl⟩
    · exact ⟨[], rfl, Nat.le_refl _⟩
    · obtain ⟨front, rfl, here⟩ := elementQuotes element others
      obtain ⟨raw, rfl, there⟩ := ih _ (size ▸ elementShorter element) later rfl
      refine ⟨front ++ raw, (List.append_assoc ..).symm, ?_⟩
      rw [List.count_append, List.count_append]
      omega

theorem joinedCount {cs : List Char} (joined : joinUnits us = some cs) (c : Char) :
    us.count (.char c) ≤ cs.count c := by
  fun_induction joinUnits us generalizing cs with
  | case1 => simp
  | case2 d rest ih =>
    obtain ⟨more, later, rfl⟩ := Option.map_eq_some_iff.mp joined
    have fewer := ih later
    simp only [List.count_cons, beq_iff_eq, Unit16.char.injEq]
    omega
  | case3 n high m more low ih =>
    obtain ⟨others, later, rfl⟩ := Option.map_eq_some_iff.mp joined
    have fewer := ih later
    simp only [List.count_cons, beq_iff_eq, reduceCtorEq, if_false]
    omega
  | case4 => contradiction
  | case5 => contradiction
  | case6 => contradiction
  | case7 n rest high low ih =>
    obtain ⟨more, later, rfl⟩ := Option.map_eq_some_iff.mp joined
    have fewer := ih later
    simp only [List.count_cons, beq_iff_eq, reduceCtorEq, if_false]
    omega

theorem plainPart {front last : List Char} (plain : Plain q (front ++ last)) : Plain q front where
  unescaped inside := plain.unescaped (List.mem_append_left _ inside)
  unfed inside := plain.unfed (List.mem_append_left _ inside)
  oneLine one inside := plain.oneLine one (List.mem_append_left _ inside)
  unfilled back inside := plain.unfilled back (inside.trans (List.prefix_append _ _).isInfix)

theorem literalWhole : literal? (q.mark :: (raw ++ q.mark :: rest)) = some (String.ofList raw, behind) ↔
    behind = rest ∧ Plain q raw ∧ q.mark ∉ raw := by
  constructor
  · intro read
    obtain ⟨r, us, cs, tail, opens, inside, joined, value⟩ := literalCases read
    obtain rfl := String.ofList_injective value
    obtain ⟨same, rfl⟩ := List.cons.inj opens
    obtain rfl : q = r := Option.some.inj (by rw [← q.ofMark, ← r.ofMark, same])
    obtain ⟨inner, shape, spelled⟩ := insideSpelled inside
    obtain ⟨again, other, quotes⟩ := insideQuotes inside
    obtain rfl : again = inner := List.append_cancel_right (other.symm.trans shape)
    have count := quotes.trans (joinedCount joined q.mark)
    have length := (joinedBounds joined).1.trans spelled.few
    -- the literal can end neither earlier, where it is too short, nor later, where it has a quote too many
    obtain ⟨rfl, rfl⟩ : again = raw ∧ behind = rest := by
      rcases List.append_eq_append_iff.mp shape with ⟨more, rfl, tail⟩ | ⟨more, rfl, tail⟩
      · cases more with
        | nil => exact ⟨List.append_nil raw, ((List.cons.inj tail).2).symm⟩
        | cons m more =>
          obtain ⟨rfl, _⟩ := List.cons.inj tail
          simp only [List.count_append, List.count_cons_self] at count
          omega
      · cases more with
        | nil => exact ⟨(List.append_nil again).symm, (List.cons.inj tail).2⟩
        | cons m more =>
          simp only [List.length_append, List.length_cons] at length
          omega
    have plain := plainOfSame inside joined shape
    refine ⟨rfl, plain, fun quoted => ?_⟩
    obtain ⟨front, last, split, clear⟩ := List.eq_append_cons_of_mem quoted
    have early := insidePlain (plainPart (split ▸ plain)) clear (last ++ q.mark :: behind)
    rw [split, List.append_assoc, List.cons_append, early] at inside
    have longer := congrArg List.length (Prod.mk.inj (Option.some.inj inside)).2
    simp at longer
    omega
  · rintro ⟨rfl, plain, clear⟩
    simp [literal?, Quote.ofMark, insidePlain plain clear, joinChars]

structure Splice where
  lead : String
  value : String
  tail : String
  deriving DecidableEq, Repr

def Splice.line (x : Splice) : String := x.lead ++ "'" ++ x.value ++ "'" ++ x.tail

def Splice.quoted (x : Splice) : List Char := Quote.single.mark :: (x.value.toList ++ [Quote.single.mark])

theorem Splice.lineParts (x : Splice) : x.line.toList = x.lead.toList ++ x.quoted ++ x.tail.toList := by
  have mark : "'".toList = [Quote.single.mark] := by decide
  simp [line, quoted, mark]

theorem Carries.splice (lead tail : String) {front value last : String} {lines inner : Lines}
    (opens : lead ++ "'" = front) (closes : "'" ++ tail = last) (rest : Carries lines inner) :
    Carries ((front ++ value ++ last) :: lines) (Splice.line ⟨lead, value, tail⟩ :: inner) := by
  have line : front ++ value ++ last = Splice.line ⟨lead, value, tail⟩ := by
    rw [← opens, ← closes, ← String.append_assoc]
    rfl
  rw [line]
  exact .cons _ rest

def Verbatim (s : String) : Prop := ∀ c ∈ s.toList, c ≠ Quote.single.mark ∧ c ≠ '\\' ∧ c ≠ '\n' ∧ c ≠ '\r'

instance (s : String) : Decidable (Verbatim s) :=
  decidable_of_iff (s.toList.all fun c => c ≠ Quote.single.mark && c ≠ '\\' && c ≠ '\n' && c ≠ '\r')
    (by simp [Verbatim, and_assoc])

theorem verbatimPlain {s : String} : Verbatim s ↔ Plain .single s.toList ∧ Quote.single.mark ∉ s.toList := by
  constructor
  · intro verbatim
    refine ⟨⟨?_, ?_, fun _ => ?_, nofun⟩, ?_⟩
    · exact fun inside => (verbatim _ inside).2.1 rfl
    · exact fun inside => (verbatim _ inside).2.2.2 rfl
    · exact fun inside => (verbatim _ inside).2.2.1 rfl
    · exact fun inside => (verbatim _ inside).1 rfl
  · rintro ⟨plain, clear⟩ c inside
    refine ⟨?_, ?_, ?_, ?_⟩
    · exact fun same => clear (same ▸ inside)
    · exact fun same => plain.unescaped (same ▸ inside)
    · exact fun same => plain.oneLine (by decide) (same ▸ inside)
    · exact fun same => plain.unfed (same ▸ inside)

theorem splicedExactly (x : Splice) : literal? (x.quoted ++ rest) = some (x.value, behind) ↔
    behind = rest ∧ Verbatim x.value := by
  have shape : x.quoted ++ rest = Quote.single.mark :: (x.value.toList ++ Quote.single.mark :: rest) := by
    simp [Splice.quoted]
  have whole : literal? (Quote.single.mark :: (x.value.toList ++ Quote.single.mark :: rest)) =
      some (String.ofList x.value.toList, behind) ↔ _ := literalWhole
  rwa [String.ofList_toList, ← verbatimPlain, ← shape] at whole

end ApiScreens.Script
