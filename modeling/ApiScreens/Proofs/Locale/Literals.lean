import ApiScreens.Proofs.Locale.Calls
import ApiScreens.Proofs.Script.Quoted

/-! Which reported keys are those that a script asks for. The script passes what its literal denotes, and the scan
reports what stands between two quotes. These agree where the quotes are equal and the key is written as it is; a key
between unequal quotes, with an escape or with something to be filled in is reported all the same. -/
namespace ApiScreens.Locale
open Script (Quote Plain literal? literalExactly)

theorem quoteMarked {c : Char} : isQuote c = true ↔ ∃ q : Quote, q.mark = c := by
  constructor
  · intro quote
    simp only [isQuote, Bool.or_eq_true, decide_eq_true_eq] at quote
    rcases quote with (rfl | code) | code
    · exact ⟨.double, rfl⟩
    · exact ⟨.single, Char.toNat_inj.mp code.symm⟩
    · exact ⟨.back, Char.toNat_inj.mp code.symm⟩
  · rintro ⟨q, rfl⟩
    cases q <;> decide

namespace Use
variable {text : List Char} {u : Use}

def Denoted (u : Use) (text : List Char) : Prop :=
  ∃ behind, literal? (text.drop (u.start + 2)) = some (String.ofList u.key, ')' :: behind)

def Verbatim (u : Use) (text : List Char) : Prop :=
  ∃ q : Quote, Plain q u.key ∧ written q.mark u.key q.mark <+: text.drop u.start

theorem argument {opening closing : Char} {rest : List Char}
    (shape : written opening u.key closing ++ rest = text.drop u.start) :
    text.drop (u.start + 2) = opening :: (u.key ++ closing :: ')' :: rest) := by
  rw [← List.drop_drop, ← shape]
  simp [written]

theorem denotedExactly (here : u.In text) : u.Denoted text ↔ u.Verbatim text := by
  obtain ⟨opening, closing, quoted, rest, shape⟩ := here
  obtain ⟨q, rfl⟩ := quoteMarked.mp quoted.opening
  obtain ⟨p, rfl⟩ := quoteMarked.mp quoted.closing
  have clear : ∀ r : Quote, r.mark ∉ u.key := fun r inside => by
    have other := quoted.clear _ inside
    rw [quoteMarked.mpr ⟨r, rfl⟩] at other
    contradiction
  unfold Denoted
  rw [argument shape]
  simp only [literalExactly clear]
  constructor
  · rintro ⟨_, same, _, plain⟩
    exact ⟨q, plain, rest, same ▸ shape⟩
  · rintro ⟨r, plain, after, again⟩
    have both := (argument shape).symm.trans (argument again)
    obtain ⟨opens, tails⟩ := List.cons.inj both
    obtain ⟨_, closes, _⟩ := Script.firstMark (clear r) (clear p) tails
    have same : q = r := Option.some.inj (by rw [← q.ofMark, ← r.ofMark, opens])
    exact ⟨rest, by rw [closes, opens], rfl, same ▸ plain⟩

end Use

theorem keysDenoted (source : String) : ∃ uses, Taken source.toList 0 uses ∧
    keysUsed source = reported source.toList uses ∧
    ∀ u ∈ uses, u.Denoted source.toList ↔ u.Verbatim source.toList := by
  obtain ⟨uses, taken, keys⟩ := keysTaken [] source.toList
  exact ⟨uses, taken, keys, fun u listed => Use.denotedExactly (taken.each u listed).1⟩

example : keysUsed "t('a\")" = ["a"] ∧ literal? "'a\")".toList = none := by decide +kernel

theorem filledKeyReported :
    let source := "t(`order.$\x7bid\x7d`)"
    keysUsed source = ["order.$\x7bid\x7d"] ∧
      ∀ place key behind, literal? (source.toList.drop place) ≠ some (key, behind) := by
  intro source
  have none : ((List.range source.length).all fun place => (literal? (source.toList.drop place)).isNone) = true := by
    decide +kernel
  refine ⟨by decide +kernel, fun place key behind read => ?_⟩
  by_cases inside : place < source.length
  · have here := List.all_eq_true.mp none place (List.mem_range.mpr inside)
    rw [read] at here
    contradiction
  · rw [List.drop_eq_nil_of_le (by simpa [String.length_toList] using inside)] at read
    contradiction

end ApiScreens.Locale
