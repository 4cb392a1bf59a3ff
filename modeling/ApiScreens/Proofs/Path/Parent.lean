import ApiScreens.Proofs.Files.Walk
import ApiScreens.Proofs.Path.Sibling
import Mathlib.Data.List.DropRight

/-! The path without its last name, and the last name. The one is spelled from the pieces in front of the name and
leads where they do: only empty pieces and dots at their end are left out. The other is the name of the
file that the path leads to. -/
namespace ApiScreens.Path
open Text Files

theorem absolutePieces (p : String) :
    isAbsolute p = true ↔ ∃ rest, rest ≠ [] ∧ pieces (· == '/') p.toList = [] :: rest := by
  unfold isAbsolute
  cases p.toList with
  | nil => simp [pieces]
  | cons c rest =>
    have more : pieces (· == '/') rest ≠ [] := piecesNonempty rest
    by_cases slash : c = '/'
    · simp [pieces, slash, more]
    · cases shape : pieces (· == '/') rest with
      | nil => exact absurd shape more
      | cons piece others => simp [pieces, slash, shape]

theorem leadingEmpty {q : String} : leading q = [] ↔ q = "" := by
  unfold leading
  split
  · simp_all
  · rename_i inside
    simp only [inside, iff_false]
    split <;> exact piecesNonempty _

theorem leadingClear {q : String} {piece : List Char} (listed : piece ∈ leading q) : '/' ∉ piece := by
  unfold leading at listed
  intro slash
  split at listed
  · exact absurd listed List.not_mem_nil
  · split at listed
    · simpa using pieceClear listed '/' slash
    · simpa using pieceClear listed '/' slash

theorem leadingInside {q : String} {piece : List Char} (listed : piece ∈ leading q) :
    ∀ c ∈ piece, c ∈ q.toList := by
  unfold leading at listed
  split at listed
  · exact absurd listed List.not_mem_nil
  · split at listed
    · exact fun c inside => List.mem_of_mem_dropLast (pieceInside listed c inside)
    · exact pieceInside listed

theorem absoluteLeading {q : String} {first : List Char} {rest : List (List Char)}
    (cut : leading q = first :: rest) : isAbsolute q = true ↔ first = [] := by
  -- a name behind the path makes its pieces the leading ones
  have name : Component "x" := by decide
  have pieces := piecesAppend (q := q) (relativeOfWhole name.whole)
  rw [cut] at pieces
  rw [← absoluteAppend (q := q) (relativeOfWhole name.whole), absolutePieces, pieces]
  constructor
  · rintro ⟨more, _, same⟩
    exact (List.cons.inj same).1
  · rintro rfl
    refine ⟨_, fun empty => ?_, rfl⟩
    exact absurd (List.append_eq_nil_iff.mp empty).2 (piecesNonempty _)

section
variable {first : List Char} {rest : List (List Char)} (clear : ∀ piece ∈ first :: rest, '/' ∉ piece)
include clear

theorem piecesOfPath (more : ¬(first = [] ∧ rest = [])) :
    pieces (· == '/') (ofPieces first rest).toList = first :: rest := by
  rw [ofPieces, if_neg (by simpa using more), String.toList_ofList]
  exact piecesJoin (by simp) clear

theorem stepsOfPath : Tree.steps (ofPieces first rest) =
    ((first :: rest).filter (· ≠ [])).map String.ofList := by
  by_cases root : first = [] ∧ rest = []
  · obtain ⟨rfl, rfl⟩ := root
    decide
  · rw [stepsOfPieces, piecesOfPath clear root]

theorem absoluteOfPath : isAbsolute (ofPieces first rest) = true ↔ first = [] := by
  by_cases root : first = [] ∧ rest = []
  · obtain ⟨rfl, rfl⟩ := root
    decide
  · rw [absolutePieces, piecesOfPath clear root]
    constructor
    · rintro ⟨more, _, same⟩
      exact (List.cons.inj same).1
    · rintro rfl
      exact ⟨rest, fun none => root ⟨rfl, none⟩, rfl⟩

omit clear in
theorem ofPathInside {c : Char} (inside : c ∈ (ofPieces first rest).toList) :
    c = '/' ∨ ∃ piece ∈ first :: rest, c ∈ piece := by
  unfold ofPieces at inside
  split at inside
  · exact .inl (List.mem_singleton.mp inside)
  · rw [String.toList_ofList] at inside
    exact (joinInside inside).imp_left List.mem_singleton.mp

theorem ofPathNotEmpty : ofPieces first rest ≠ "" := by
  intro empty
  by_cases root : first = [] ∧ rest = []
  · obtain ⟨rfl, rfl⟩ := root
    revert empty
    decide
  · have cut := piecesOfPath clear root
    rw [empty] at cut
    have same : [[]] = first :: rest := cut
    cases same
    exact root ⟨rfl, rfl⟩

end

theorem parentAppend {q name : String} (component : Component name) {first : List Char}
    {rest : List (List Char)} (cut : leading q = first :: rest) :
    parent (append q name) = some (ofPieces first (significant.trimEnd rest)) := by
  unfold parent
  rw [significantAppend component, cut]
  cases shape : rest ++ [name.toList] with
  | nil => simp at shape
  | cons piece more => simp

theorem trimEndRest (rest : List (List Char)) :
    ∃ left, rest = significant.trimEnd rest ++ left ∧ ∀ piece ∈ left, names piece = false := by
  refine ⟨(rest.reverse.takeWhile fun piece => !names piece).reverse, ?_, fun piece inside => ?_⟩
  · rw [significant.trimEnd, ← List.reverse_append, List.takeWhile_append_dropWhile,
      List.reverse_reverse]
  · have dropped := List.all_takeWhile (p := fun piece => !names piece) (l := rest.reverse)
    simpa using List.all_eq_true.mp dropped piece (List.mem_reverse.mp inside)

theorem silentDots {left : List (List Char)} (silent : ∀ piece ∈ left, names piece = false) :
    ∀ step ∈ (left.filter (· ≠ [])).map String.ofList, step = "." := by
  intro step here
  obtain ⟨piece, kept, rfl⟩ := List.mem_map.mp here
  obtain ⟨dropped, nonempty⟩ := List.mem_filter.mp kept
  have dot : piece = ['.'] := by simpa [names, by simpa using nonempty] using silent piece dropped
  rw [dot]

theorem parentFollow {t : Tree} {q name : String} {k : Location} (component : Component name)
    (found : t.follow q = .ok (.present k .directory)) :
    ∃ p, parent (append q name) = some p ∧ p ≠ "" ∧ t.follow p = .ok (.present k .directory) := by
  obtain ⟨inside, clear, walked⟩ := Tree.followWalk found
  cases cut : leading q with
  | nil => exact absurd (leadingEmpty.mp cut) inside
  | cons first rest =>
    obtain ⟨left, shape, silent⟩ := trimEndRest rest
    have listed {piece} (here : piece ∈ first :: significant.trimEnd rest) : piece ∈ leading q := by
      rw [cut]
      exact (List.cons_subset_cons first (trimEndPrefix rest).subset) here
    have whole : ∀ piece ∈ first :: significant.trimEnd rest, '/' ∉ piece :=
      fun piece here => leadingClear (listed here)
    have clearParent : Char.ofNat 0 ∉ (ofPieces first (significant.trimEnd rest)).toList := by
      intro nul
      rcases ofPathInside nul with slash | ⟨piece, here, there⟩
      · exact absurd slash (by decide)
      · exact clear (leadingInside (listed here) _ there)
    have same : Tree.start t (ofPieces first (significant.trimEnd rest)) = Tree.start t q := by
      have absolute := (absoluteOfPath whole).trans (absoluteLeading cut).symm
      simp only [Tree.start, absolute]
    refine ⟨_, parentAppend component cut, ofPathNotEmpty whole, ?_⟩
    rw [Tree.followOfWalk (ofPathNotEmpty whole) clearParent, same, stepsOfPath whole]
    refine Tree.walkDots (silentDots silent) ?_
    rwa [stepsOfLeading, cut, shape, ← List.cons_append, List.filter_append, List.map_append] at walked

theorem trimEndTwice (rest : List (List Char)) :
    significant.trimEnd (significant.trimEnd rest) = significant.trimEnd rest := by
  simp only [significant.trimEnd, List.reverse_reverse, List.dropWhile_idempotent]

theorem trimEndLast {rest : List (List Char)} {piece : List Char}
    (last : (significant.trimEnd rest).getLast? = some piece) : names piece = true := by
  rw [significant.trimEnd, List.getLast?_reverse] at last
  have stops := List.head?_dropWhile_not (fun piece => !names piece) rest.reverse
  rw [last] at stops
  simpa using stops

theorem trimmedEnds {first : List Char} {rest : List (List Char)}
    (more : ¬(first = [] ∧ significant.trimEnd rest = [])) :
    (first :: significant.trimEnd rest).getLast? ≠ some [] := by
  intro empty
  rw [List.getLast?_cons] at empty
  cases final : (significant.trimEnd rest).getLast? with
  | none =>
    rw [final] at empty
    exact more ⟨by simpa using empty, List.getLast?_eq_none_iff.mp final⟩
  | some last =>
    have named := trimEndLast final
    rw [final] at empty
    simp only [Option.getD_some, Option.some.injEq] at empty
    simp [names, empty] at named

theorem leadingOfPath {first : List Char} {rest : List (List Char)} (clear : ∀ piece ∈ first :: rest, '/' ∉ piece)
    (last : (first :: rest).getLast? ≠ some []) : leading (ofPieces first rest) = first :: rest := by
  have more : ¬(first = [] ∧ rest = []) := by
    rintro ⟨rfl, rfl⟩
    exact last rfl
  have cut := piecesOfPath clear more
  unfold leading
  rw [if_neg (ofPathNotEmpty clear)]
  split
  · rename_i slash
    -- a slash at the end would leave an empty piece behind it
    have shape := List.dropLast_append_getLast? _ slash
    rw [← shape, piecesCut _ _ (by simp)] at cut
    rw [← cut] at last
    simp [pieces] at last
  · exact cut

theorem parentBeside {p name other : String} (named : fileName p = some name) (component : Component other) :
    parent (append ((parent p).getD "") other) = parent p := by
  obtain ⟨first, rest, cut, same⟩ := significantPieces p
  cases shape : significant.trimEnd rest with
  | nil =>
    have inside : first ≠ [] := by
      rintro rfl
      simp [fileName, same, shape] at named
    have written : other.toList ≠ [] := by simpa using component.nonempty
    have alone : parent p = some "" := by simp [parent, same, shape, inside]
    rw [alone, parent, Option.getD_some, significantAppend component]
    simp only [leading, if_true, if_neg written]
  | cons piece more =>
    have around : parent p = some (ofPieces first (significant.trimEnd (piece :: more).dropLast)) := by
      simp [parent, same, shape]
    rw [around, Option.getD_some]
    by_cases root : first = [] ∧ significant.trimEnd (piece :: more).dropLast = []
    · obtain ⟨rfl, none⟩ := root
      have cut : leading (ofPieces [] []) = [[]] := by decide
      rw [none, parentAppend component cut]
      rfl
    · have clear : ∀ q ∈ first :: significant.trimEnd (piece :: more).dropLast, '/' ∉ q := by
        intro q listed slash
        have here : q ∈ pieces (· == '/') p.toList := by
          rw [cut]
          refine (List.cons_subset_cons first fun r deep => ?_) listed
          exact (trimEndPrefix rest).subset (shape ▸ List.dropLast_subset _ ((trimEndPrefix _).subset deep))
        simpa using pieceClear here '/' slash
      rw [parentAppend component (leadingOfPath clear (trimmedEnds root)), trimEndTwice]

theorem parentTagged {p name tag : String} (named : fileName p = some name) (whole : '/' ∉ tag.toList) {c : Char}
    (inside : c ∈ tag.toList) (mark : c ≠ '.') : parent (tagged p tag) = parent p := by
  have beside : around p = (parent p).getD "" := by simp [around, named]
  rw [taggedAround, beside, parentBeside named (taggedComponent p whole inside mark)]

theorem fileNameComponent {p name : String} (named : fileName p = some name) : Component name := by
  have whole := fileNameWhole named
  obtain ⟨first, rest, _, same⟩ := significantPieces p
  simp only [fileName, same] at named
  split at named
  · contradiction
  · rename_i other
    cases named
    simp only [Bool.or_eq_true, decide_eq_true_eq, not_or] at other
    obtain ⟨⟨inside, here⟩, up⟩ := other
    exact ⟨⟨whole, fun empty => inside (String.ofList_eq_empty_iff.mp empty)⟩,
      fun dot => here (String.ofList_injective dot), fun dots => up (String.ofList_injective dots)⟩

theorem fileNameSteps {p name : String} (named : fileName p = some name) :
    ∃ init dots, Tree.steps p = init ++ name :: dots ∧ ∀ step ∈ dots, step = "." := by
  have component := fileNameComponent named
  obtain ⟨first, rest, cut, same⟩ := significantPieces p
  obtain ⟨left, shape, silent⟩ := trimEndRest rest
  have last : (first :: significant.trimEnd rest).getLast? = some name.toList := by
    simp only [fileName, same] at named
    split at named
    · contradiction
    · rw [List.getLast?_cons, ← Option.some.inj named, String.toList_ofList]
  have pieces : first :: rest =
      (first :: significant.trimEnd rest).dropLast ++ name.toList :: left := by
    rw [List.append_cons, List.dropLast_append_getLast? _ last, List.cons_append, ← shape]
  have inside : name.toList ≠ [] := by simpa using component.nonempty
  refine ⟨((first :: significant.trimEnd rest).dropLast.filter (· ≠ [])).map String.ofList, _, ?_,
    silentDots silent⟩
  rw [stepsOfPieces, cut, pieces, List.filter_append, List.filter_cons_of_pos (by simpa using inside),
    List.map_append, List.map_cons, String.ofList_toList]

theorem locatedName {t : Tree} {p name : String} {k : Location} {c : Contents}
    (named : fileName p = some name) (found : t.locate p = .ok (.present k (.file c))) :
    k.getLast? = some name := by
  have component := fileNameComponent named
  obtain ⟨init, dots, steps, each⟩ := fileNameSteps named
  have walked := (Tree.followWalk (Tree.locateFollow found)).2.2
  rw [steps] at walked
  rcases List.eq_nil_or_concat dots with rfl | ⟨before, last, rfl⟩
  · obtain ⟨m, around⟩ := Tree.walkBefore walked
    rw [Tree.walkBehind component around] at walked
    have place := congrArg Tree.Place.location (Except.ok.inj walked)
    rw [Tree.childLocation] at place
    simp [← show m ++ [name] = k from place]
  · -- a dot at the end stays in a directory
    rw [each last (by simp), List.concat_eq_append, ← List.cons_append, ← List.append_assoc] at walked
    obtain ⟨m, around⟩ := Tree.walkBefore walked
    have here : t.at? m = some .directory := Tree.walkEntry around
    rw [Tree.walkAppend around] at walked
    simp [Tree.walk, here] at walked

end ApiScreens.Path
