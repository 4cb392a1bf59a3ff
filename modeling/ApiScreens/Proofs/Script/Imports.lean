import ApiScreens.Template
import ApiScreens.Proofs.Module.Records

/-! What a generated file imports. Imports stand at the head of a file, in front of its first empty line, one line for
each source. -/
namespace ApiScreens.Script

def header (lines : Lines) : Lines := lines.takeWhile (· ≠ "")

def importsFrom (source : String) (lines : Lines) : Lines :=
  (header lines).filter fun line => Text.endsWith line (" from '" ++ source ++ "';")

def Quotable (source : String) : Prop := Char.ofNat 39 ∉ source.toList

instance (source : String) : Decidable (Quotable source) := inferInstanceAs (Decidable (_ ∉ _))

theorem lastMark {α : Type} {mark : α} {xs ys as bs : List α} (left : mark ∉ as) (right : mark ∉ bs)
    (same : xs ++ mark :: as = ys ++ mark :: bs) : as = bs := by
  rcases List.append_eq_append_iff.mp same with ⟨more, _, rest⟩ | ⟨more, _, rest⟩
  · cases more with
    | nil => exact (List.cons.inj rest).2
    | cons m more => exact absurd ((List.cons.inj rest).2 ▸ by simp) left
  · cases more with
    | nil => exact (List.cons.inj rest).2.symm
    | cons m more => exact absurd ((List.cons.inj rest).2 ▸ by simp) right

theorem sourceExactly (front : String) {source wanted : String} (quotable : Quotable source) (plain : Quotable wanted) :
    Text.endsWith (front ++ " from '" ++ source ++ "';") (" from '" ++ wanted ++ "';") = decide (source = wanted) := by
  rw [Bool.eq_iff_iff, Text.endsExactly, decide_eq_true_eq]
  constructor
  · rintro ⟨before, same⟩
    have opening : " from '".toList = " from ".toList ++ [Char.ofNat 39] := by decide
    simp only [String.toList_append, ← List.append_assoc] at same
    have chars := List.append_cancel_right same
    rw [opening, ← List.append_assoc, ← List.append_assoc, List.append_assoc _ [_], List.append_assoc _ [_]] at chars
    exact (String.toList_injective (lastMark plain quotable chars)).symm
  · rintro rfl
    simp [String.toList_append, List.suffix_append]

variable {name source wanted : String} {rest : Lines}

theorem importsEnd : importsFrom wanted ("" :: rest) = [] := by simp [importsFrom, header]

theorem importsDefault (quotable : Quotable source) (plain : Quotable wanted) :
    importsFrom wanted (importDefault name source :: rest) =
      if source = wanted then importDefault name source :: importsFrom wanted rest else importsFrom wanted rest := by
  have ends := sourceExactly ("import " ++ name) quotable plain
  have head : header (importDefault name source :: rest) = importDefault name source :: header rest := by
    simp [header, importDefault]
  rw [importsFrom, head, List.filter_cons, importDefault, ends]
  simp [importsFrom]

theorem importsNames {names : List String} (quotable : Quotable source) (plain : Quotable wanted) :
    importsFrom wanted (importNames names source :: rest) =
      if source = wanted then importNames names source :: importsFrom wanted rest else importsFrom wanted rest :=
  importsDefault quotable plain

end ApiScreens.Script

namespace ApiScreens.Page
open Script

theorem SingleTable.imports (p : SingleTable) :
    importsFrom "@primes/hooks" p.lines = [importNames [p.dataHook] "@primes/hooks"] := by
  simp (disch := decide) [lines, tableImport, importsNames, importsDefault, importsEnd]

theorem MasterDetail.imports (p : MasterDetail) :
    importsFrom "@primes/hooks" p.lines = [importNames [p.masterHook, p.detailHook] "@primes/hooks"] := by
  simp (disch := decide) [lines, declarations, tableImport, importsNames, importsDefault, importsEnd]

theorem Register.modalImports (p : Register) :
    importsFrom "@primes/hooks" p.modalLines = [importNames [p.hookName] "@primes/hooks"] := by
  simp (disch := decide) [modalLines, importsNames, importsEnd]

theorem Register.fullImports (p : Register) :
    importsFrom "@primes/hooks" p.fullLines = [importNames [p.hookName] "@primes/hooks"] := by
  simp (disch := decide) [fullLines, fullDeclarations, tableImport, importsNames, importsDefault, importsEnd]

theorem Select.imports (p : Select) :
    importsFrom "@primes/hooks" p.lines = [importNames [p.dataHook] "@primes/hooks"] := by
  simp (disch := decide) [lines, importsNames, importsEnd]

end ApiScreens.Page
