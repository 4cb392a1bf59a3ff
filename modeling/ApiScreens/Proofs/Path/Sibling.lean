import ApiScreens.Proofs.Path.Component
import Mathlib.Data.List.Infix

/-! Paths by their last component. A tag changes a name between stem and extension and nothing in front of it, so
siblings of one path differ exactly as their tags do; a name behind a path is its last component, whatever it is. -/
namespace ApiScreens.Path
open Text

theorem componentOfMark {name : String} (whole : '/' ∉ name.toList) {c : Char}
    (inside : c ∈ name.toList) (mark : c ≠ '.') : Component name where
  whole := whole
  nonempty := by rintro rfl; simp at inside
  notHere := by rintro rfl; exact mark (by simpa using inside)
  notUp := by rintro rfl; exact mark (by simpa using inside)

theorem significantPieces (p : String) :
    ∃ first rest, pieces (· == '/') p.toList = first :: rest ∧
      significant p = (first, significant.trimEnd rest) := by
  cases shape : pieces (· == '/') p.toList with
  | nil => exact absurd shape (piecesNonempty _)
  | cons first rest => exact ⟨first, rest, rfl, by simp [significant, shape]⟩

theorem trimEndPrefix (rest : List (List Char)) : significant.trimEnd rest <+: rest := by
  have suffix := List.dropWhile_suffix (l := rest.reverse) (fun piece => !names piece)
  simpa [significant.trimEnd] using List.reverse_prefix.mpr suffix

theorem fileNamePiece {p name : String} (found : fileName p = some name) :
    name.toList ∈ pieces (· == '/') p.toList := by
  obtain ⟨first, rest, cut, same⟩ := significantPieces p
  simp only [fileName, same] at found
  split at found
  · contradiction
  · have last := Option.some.inj found
    rw [cut, ← last, String.toList_ofList]
    cases final : (significant.trimEnd rest).getLast? with
    | none => simp
    | some piece =>
      have inside := List.mem_of_getLast? final
      exact List.mem_cons_of_mem _ ((trimEndPrefix rest).subset inside)

theorem fileNameWhole {p name : String} (found : fileName p = some name) : '/' ∉ name.toList := by
  intro slash
  have clear := pieceClear (fileNamePiece found) '/' slash
  simp at clear

theorem splitNameInside (name : String) :
    (∀ c ∈ (splitName name).1.toList, c ∈ name.toList) ∧
      ∀ ext, (splitName name).2 = some ext → ∀ c ∈ ext.toList, c ∈ name.toList := by
  unfold splitName
  split
  · exact ⟨fun _ inside => inside, by simp⟩
  · exact ⟨fun _ inside => inside, by simp⟩
  · rename_i dot rest shape
    refine ⟨fun c inside => ?_, fun ext same c inside => ?_⟩
    · have dropped : c ∈ name.toList.reverse.dropWhile (· != '.') := by
        rw [shape]
        exact List.mem_cons_of_mem _ (by simpa using inside)
      exact List.mem_reverse.mp ((List.dropWhile_sublist _).subset dropped)
    · cases Option.some.inj same
      have taken : c ∈ name.toList.reverse.takeWhile (· != '.') := by simpa using inside
      exact List.mem_reverse.mp ((List.takeWhile_sublist _).subset taken)

theorem stemWhole (p : String) : '/' ∉ ((stem p).getD "").toList := by
  cases found : fileName p with
  | none => simp [stem, found]
  | some name =>
    intro slash
    exact fileNameWhole found ((splitNameInside name).1 _ (by simpa [stem, found] using slash))

theorem extensionWhole {p ext : String} (found : extension p = some ext) : '/' ∉ ext.toList := by
  cases named : fileName p with
  | none => simp [extension, named] at found
  | some name =>
    intro slash
    exact fileNameWhole named ((splitNameInside name).2 ext (by simpa [extension, named] using found) _ slash)

def around (p : String) : String :=
  match fileName p with
  | none => p
  | some _ => (parent p).getD ""

theorem withFileNameAround (p name : String) : withFileName p name = append (around p) name := by
  unfold withFileName around
  cases fileName p <;> rfl

def ending (p : String) : String :=
  match extension p with
  | some ext => "." ++ ext
  | none => ""

theorem taggedAround (p tag : String) :
    tagged p tag = append (around p) ((stem p).getD "" ++ tag ++ ending p) := by
  unfold tagged ending
  rw [withFileNameAround]
  cases extension p with
  | none => simp
  | some ext => simp [String.append_assoc]

theorem endingWhole (p : String) : '/' ∉ (ending p).toList := by
  unfold ending
  cases found : extension p with
  | none => simp
  | some ext => simpa using extensionWhole found

theorem taggedComponent (p : String) {tag : String} (whole : '/' ∉ tag.toList) {c : Char}
    (inside : c ∈ tag.toList) (mark : c ≠ '.') :
    Component ((stem p).getD "" ++ tag ++ ending p) := by
  refine componentOfMark ?_ (c := c) (by simp [inside]) mark
  simp only [String.toList_append, List.mem_append, not_or]
  exact ⟨⟨stemWhole p, whole⟩, endingWhole p⟩

theorem taggedInjective (p : String) {a b : String}
    (same : (stem p).getD "" ++ a ++ ending p = (stem p).getD "" ++ b ++ ending p) : a = b :=
  (String.append_right_inj _).mp ((String.append_left_inj _).mp same)

theorem trimEndNamed (rest : List (List Char)) {piece : List Char} (named : names piece = true) :
    significant.trimEnd (rest ++ [piece]) = rest ++ [piece] := by
  simp [significant.trimEnd, named]

theorem namesComponent {name : String} (component : Component name) : names name.toList = true := by
  have dot : name.toList ≠ ['.'] := fun same =>
    component.notHere (String.toList_injective (by simpa using same))
  simp [names, component.nonempty, dot]

theorem significantAppend {q name : String} (component : Component name) :
    significant (append q name) = match leading q with
      | [] => (name.toList, [])
      | first :: rest => (first, rest ++ [name.toList]) := by
  have cut := piecesAppend (q := q) (relativeOfWhole component.whole)
  rw [piecesOfWhole component.whole] at cut
  unfold significant
  rw [cut]
  cases leading q with
  | nil => rfl
  | cons first rest => simp [trimEndNamed rest (namesComponent component)]

theorem fileNameLast {p : String} {front : List (List Char)} {last : List Char}
    (cut : pieces (· == '/') p.toList = front ++ [last]) (named : names last = true) (notUp : last ≠ ['.', '.']) :
    fileName p = some (String.ofList last) := by
  have nonempty : last ≠ [] := fun same => by simp [names, same] at named
  have notHere : last ≠ ['.'] := fun same => by simp [names, same] at named
  unfold fileName significant
  rw [cut]
  cases front with
  | nil => simp [significant.trimEnd, nonempty, notHere, notUp]
  | cons first rest => simp [trimEndNamed rest named, nonempty, notHere, notUp]

theorem fileNameAppend {q name : String} (component : Component name) :
    fileName (append q name) = some name := by
  have cut := piecesAppend (q := q) (relativeOfWhole component.whole)
  rw [piecesOfWhole component.whole] at cut
  have notUp : name.toList ≠ ['.', '.'] := fun same =>
    component.notUp (String.toList_injective (by simpa using same))
  rw [fileNameLast cut (namesComponent component) notUp, String.ofList_toList]

theorem splitNameDot {stem ext : String} (inside : stem ≠ "") (clear : '.' ∉ ext.toList) :
    splitName (stem ++ "." ++ ext) = (stem, some ext) := by
  have passes : ∀ c ∈ ext.toList.reverse, (c != '.') = true := by
    intro c within
    have differs : c ≠ '.' := fun same => clear (same ▸ List.mem_reverse.mp within)
    simpa using differs
  have shape : (stem ++ "." ++ ext).toList.reverse =
      ext.toList.reverse ++ '.' :: stem.toList.reverse := by simp
  obtain ⟨taken, dropped⟩ := Text.markCut passes (by decide : ('.' != '.') = false) stem.toList.reverse
  rw [← shape] at taken dropped
  obtain ⟨c, more, start⟩ := List.exists_cons_of_ne_nil (l := stem.toList.reverse) (by simpa using inside)
  unfold splitName
  rw [dropped, taken, start]
  simp only [← start, List.reverse_reverse, String.ofList_toList]

theorem stemAppend {q stem ext : String} (inside : stem ≠ "") (clear : '.' ∉ ext.toList)
    (component : Component (stem ++ "." ++ ext)) :
    Path.stem (append q (stem ++ "." ++ ext)) = some stem := by
  rw [Path.stem, fileNameAppend component, Option.map_some, splitNameDot inside clear]

theorem extensionAppend {q stem ext : String} (inside : stem ≠ "") (clear : '.' ∉ ext.toList)
    (component : Component (stem ++ "." ++ ext)) :
    extension (append q (stem ++ "." ++ ext)) = some ext := by
  rw [extension, fileNameAppend component, Option.bind_some, splitNameDot inside clear]

theorem stemBehind (q stem : String) {ext : String} {c : Char} (whole : '/' ∉ ext.toList) (inside : c ∈ ext.toList)
    (mark : c ≠ '.') : Path.stem (append q (stem ++ ext)) = Path.stem (stem ++ ext) := by
  by_cases absolute : isAbsolute (stem ++ ext) = true
  · simp [append, absolute]
  · have clear : ∀ d ∈ ext.toList, (d == '/') = false := by
      intro d within
      have differs : d ≠ '/' := fun same => whole (same ▸ within)
      simpa using differs
    obtain ⟨front, p, cut⟩ := piecesEnd clear stem.toList
    rw [← String.toList_append] at cut
    have behind := piecesAppend (q := q) (Bool.not_eq_true _ ▸ absolute)
    rw [cut, ← List.append_assoc] at behind
    have differs {dots : List Char} (only : ∀ d ∈ dots, d = '.') : p ++ ext.toList ≠ dots := fun same =>
      mark (only c (same ▸ List.mem_append_right p inside))
    have nonempty : p ++ ext.toList ≠ [] := differs (by simp)
    have notHere : p ++ ext.toList ≠ ['.'] := differs (by simp)
    have notUp : p ++ ext.toList ≠ ['.', '.'] := differs (by simp)
    have named : names (p ++ ext.toList) = true := by
      rw [names, Bool.and_eq_true, decide_eq_true nonempty, decide_eq_true notHere]
      exact ⟨rfl, rfl⟩
    rw [Path.stem, Path.stem, fileNameLast behind named notUp, fileNameLast cut named notUp]

end ApiScreens.Path
