import ApiScreens.Proofs.Path.Location
import ApiScreens.Proofs.Path.Parent

/-! A path ends as the name of the place that it leads to. Siblings of a file keep the last character if the name
has an extension, and else end as their tag does. -/
namespace ApiScreens.Path
open Text Files

theorem tailPiece (sep : Char → Bool) (cs tail : List Char) (clear : ∀ c ∈ tail, sep c = false) :
    ∃ before piece, pieces sep (cs ++ tail) = before ++ [piece ++ tail] := by
  induction cs with
  | nil => exact ⟨[], [], by simp [piecesWhole clear]⟩
  | cons c rest ih =>
    obtain ⟨before, piece, cut⟩ := ih
    simp only [List.cons_append, pieces, cut]
    split
    · exact ⟨[] :: before, piece, rfl⟩
    · cases before with
      | nil => exact ⟨[], c :: piece, rfl⟩
      | cons first more => exact ⟨(c :: first) :: more, piece, rfl⟩

theorem placeEnds (base : Location) (front : String) {tail : String} (whole : '/' ∉ tail.toList) {c : Char}
    (inside : c ∈ tail.toList) (mark : c ≠ '.') :
    ∃ l name, Disk.locationOf base (front ++ tail) = l ++ [name] ∧ tail.toList <:+ name.toList := by
  obtain ⟨before, piece, cut⟩ := tailPiece (· == '/') front.toList tail.toList fun d there => by
    simpa using fun same : d = '/' => whole (same ▸ there)
  have clear : '/' ∉ piece ++ tail.toList := by
    intro slash
    have stays := pieceClear (cut ▸ List.mem_append_right before (List.mem_singleton_self _)) '/' slash
    simp at stays
  have component : Component (String.ofList (piece ++ tail.toList)) :=
    componentOfMark (c := c) (by rwa [String.toList_ofList])
      (by rw [String.toList_ofList]; exact List.mem_append_right _ inside) mark
  have named : piece ++ tail.toList ≠ [] := List.append_ne_nil_of_right_ne_nil _ (List.ne_nil_of_mem inside)
  have steps : Tree.steps (front ++ tail) =
      (before.filter (· ≠ [])).map String.ofList ++ [String.ofList (piece ++ tail.toList)] := by
    have kept : [piece ++ tail.toList].filter (· ≠ []) = [piece ++ tail.toList] :=
      List.filter_eq_self.mpr fun q only => decide_eq_true (List.mem_singleton.mp only ▸ named)
    rw [stepsOfPieces, String.toList_append, cut, List.filter_append, kept, List.map_append]
    rfl
  have place : Disk.locationOf base (front ++ tail) =
      ((before.filter (· ≠ [])).map String.ofList).foldl Disk.locationOf.step
        (if isAbsolute (front ++ tail) then [] else base) ++ [String.ofList (piece ++ tail.toList)] := by
    rw [Disk.locationOf, steps, List.foldl_append]
    exact Disk.stepName component _
  exact ⟨_, _, place, by simp⟩

structure Closing (c : Char) : Prop where
  slash : c ≠ '/'
  dot : c ≠ '.'

theorem fileNameEnds {p : String} {c : Char} (last : p.toList.getLast? = some c) (closing : Closing c) :
    ∃ name, fileName p = some name ∧ name.toList.getLast? = some c := by
  obtain ⟨front, shape⟩ := List.getLast?_eq_some_iff.mp last
  obtain ⟨before, start, cut⟩ := tailPiece (· == '/') front [c] (by simpa using closing.slash)
  rw [← shape] at cut
  have ends : (start ++ [c]).getLast? = some c := by simp
  generalize start ++ [c] = piece at cut ends
  have other (d : List Char) (stop : d.getLast? = some '.' ∨ d = []) : piece ≠ d := by
    intro same
    subst same
    cases stop with
    | inl stop => exact closing.dot (Option.some.inj (ends.symm.trans stop))
    | inr empty => simp [empty] at ends
  have inside : piece ≠ [] := other [] (.inr rfl)
  have here : piece ≠ ['.'] := other ['.'] (.inl rfl)
  have up : piece ≠ ['.', '.'] := other ['.', '.'] (.inl rfl)
  have named : names piece = true := by simp [names, inside, here]
  refine ⟨String.ofList piece, ?_, by rwa [String.toList_ofList]⟩
  obtain ⟨first, rest, shape, same⟩ := significantPieces p
  rw [cut] at shape
  unfold fileName
  rw [same]
  cases before with
  | nil =>
    obtain ⟨rfl, rfl⟩ := List.cons.inj shape
    simp [significant.trimEnd, inside, here, up]
  | cons _ more =>
    obtain ⟨rfl, rfl⟩ := List.cons.inj shape
    simp [trimEndNamed more named, inside, here, up]

theorem splitNameExtension {name ext : String} (found : (splitName name).2 = some ext) :
    ∃ front, name.toList = front ++ '.' :: ext.toList := by
  unfold splitName at found
  split at found <;> try contradiction
  rename_i dot rest _ shape
  cases Option.some.inj found
  have whole := List.takeWhile_append_dropWhile (p := (· != '.')) (l := name.toList.reverse)
  have stops : dot = '.' := by
    have stop := List.head?_dropWhile_not (· != '.') name.toList.reverse
    rw [shape] at stop
    simpa using stop
  rw [shape, stops] at whole
  have reversed := congrArg List.reverse whole
  rw [List.reverse_reverse] at reversed
  exact ⟨rest.reverse, reversed.symm.trans (by simp)⟩

theorem taggedEnds {p : String} {c : Char} (last : p.toList.getLast? = some c) (closing : Closing c)
    {tag : String} (whole : '/' ∉ tag.toList) {d : Char} (inside : d ∈ tag.toList) (mark : d ≠ '.') :
    ∃ name, fileName (tagged p tag) = some name ∧
      (name.toList.getLast? = some c ∨ name.toList.getLast? = tag.toList.getLast?) := by
  obtain ⟨name, named, ends⟩ := fileNameEnds last closing
  refine ⟨_, by rw [taggedAround, fileNameAppend (taggedComponent p whole inside mark)], ?_⟩
  have written : tag.toList ≠ [] := List.ne_nil_of_mem inside
  unfold ending
  cases found : extension p with
  | none =>
    right
    simp [List.getLast?_append_of_ne_nil _ written]
  | some ext =>
    left
    rw [extension, named, Option.bind_some] at found
    obtain ⟨front, shape⟩ := splitNameExtension found
    rw [shape, List.getLast?_append_of_ne_nil _ (by simp)] at ends
    simp only [String.toList_append]
    rw [List.getLast?_append_of_ne_nil _ (by simp)]
    exact ends

theorem appendEnds (q : String) {r : String} (inside : r ≠ "") :
    (append q r).toList.getLast? = r.toList.getLast? := by
  have written : r.toList ≠ [] := by simpa using inside
  unfold append
  split
  · rfl
  · split
    · rw [String.toList_append, List.getLast?_append_of_ne_nil _ written]
    · rw [String.toList_append, List.getLast?_append_of_ne_nil _ written]

theorem appendFront (q r : String) :
    ∃ front, (append q r).toList = front ++ r.toList ∧ (front = [] ∨ front.getLast? = some '/') := by
  unfold append
  split
  · exact ⟨[], rfl, .inl rfl⟩
  · split
    · rename_i slash
      exact ⟨q.toList, by rw [String.toList_append], .inr slash⟩
    · exact ⟨q.toList ++ ['/'], by simp [String.toList_append], .inr (by simp)⟩

theorem appendSuffix (q : String) {r tail : String} (whole : '/' ∉ tail.toList) :
    tail.toList <:+ (append q r).toList ↔ tail.toList <:+ r.toList := by
  obtain ⟨front, shape, cut⟩ := appendFront q r
  rw [shape]
  refine ⟨fun ends => ?_, fun ends => ends.trans (List.suffix_append front _)⟩
  rcases List.suffix_or_suffix_of_suffix ends (List.suffix_append front r.toList) with inside | ⟨more, longer⟩
  · exact inside
  · -- what the tail has in front of the part ends the front, which ends in a slash
    rw [← longer] at ends
    obtain ⟨before, split⟩ := List.suffix_append_self_iff.mp ends
    have clear : '/' ∉ more := fun slash => whole (longer ▸ List.mem_append_left _ slash)
    have empty : more = [] := by
      by_contra some_
      rw [← split] at cut
      rcases cut with none | slash
      · exact some_ (List.append_eq_nil_iff.mp none).2
      · rw [List.getLast?_append_of_ne_nil _ some_] at slash
        exact clear (List.mem_of_getLast? slash)
    exact ⟨[], by rw [← longer, empty, List.nil_append, List.nil_append]⟩

end ApiScreens.Path
