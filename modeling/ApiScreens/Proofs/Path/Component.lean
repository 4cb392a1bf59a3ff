import ApiScreens.Files.Tree
import ApiScreens.Proofs.Text.Pieces

/-! Names that a file or directory can have, and paths that end in one. A name behind a path is one more
step, whatever the path is. -/
namespace ApiScreens.Path
open Text Files

structure Segment (name : String) : Prop where
  whole : '/' ∉ name.toList
  nonempty : name ≠ ""

structure Component (name : String) : Prop extends Segment name where
  notHere : name ≠ "."
  notUp : name ≠ ".."

instance (name : String) : Decidable (Segment name) :=
  decidable_of_iff ('/' ∉ name.toList ∧ name ≠ "") ⟨fun ⟨w, e⟩ => ⟨w, e⟩, fun ⟨w, e⟩ => ⟨w, e⟩⟩

instance (name : String) : Decidable (Component name) :=
  decidable_of_iff ('/' ∉ name.toList ∧ name ≠ "" ∧ name ≠ "." ∧ name ≠ "..")
    ⟨fun ⟨w, e, h, u⟩ => ⟨⟨w, e⟩, h, u⟩, fun ⟨⟨w, e⟩, h, u⟩ => ⟨w, e, h, u⟩⟩

theorem piecesOfWhole {name : String} (whole : '/' ∉ name.toList) :
    pieces (· == '/') name.toList = [name.toList] :=
  piecesWhole fun c inside => by
    have differs : c ≠ '/' := fun same => whole (same ▸ inside)
    simpa using differs

theorem relativeOfWhole {name : String} (whole : '/' ∉ name.toList) : isAbsolute name = false := by
  unfold isAbsolute
  cases shape : name.toList with
  | nil => simp
  | cons c rest =>
    rw [shape] at whole
    have differs : c ≠ '/' := fun same => whole (by simp [same])
    simpa using differs

def leading (q : String) : List (List Char) :=
  if q = "" then []
  else if q.toList.getLast? = some '/' then pieces (· == '/') q.toList.dropLast
  else pieces (· == '/') q.toList

theorem appendRelative {q name : String} (inside : q ≠ "") (relative : isAbsolute name = false) :
    append q name = if q.toList.getLast? = some '/' then q ++ name else q ++ "/" ++ name := by
  unfold append
  rw [if_neg (by simp [relative, inside])]

theorem appendBehind {q name : String} (inside : q ≠ "") (relative : isAbsolute name = false) :
    (append q name).toList =
      (if q.toList.getLast? = some '/' then q.toList.dropLast else q.toList) ++ '/' :: name.toList := by
  rw [appendRelative inside relative]
  split
  · rename_i slash
    have shape := List.dropLast_append_getLast? _ slash
    rw [String.toList_append]
    conv_lhs => rw [← shape]
    simp
  · simp

theorem piecesAppend {q r : String} (relative : isAbsolute r = false) :
    pieces (· == '/') (append q r).toList = leading q ++ pieces (· == '/') r.toList := by
  by_cases empty : q = ""
  · subst empty
    simp [append, leading]
  · rw [appendBehind empty relative, piecesCut _ _ (by simp)]
    unfold leading
    rw [if_neg empty]
    split <;> rfl

theorem stepsOfPieces (p : String) :
    Tree.steps p = ((pieces (· == '/') p.toList).filter (· ≠ [])).map String.ofList := by
  simp only [Tree.steps, splitOn, List.filter_map]
  congr 1
  apply List.filter_congr
  intro piece _
  simp [String.ofList_eq_empty_iff]

theorem stepsOfLeading (q : String) :
    Tree.steps q = ((leading q).filter (· ≠ [])).map String.ofList := by
  by_cases empty : q = ""
  · subst empty
    simp [leading, stepsOfPieces, pieces]
  · unfold leading
    rw [if_neg empty]
    split
    · rename_i slash
      have shape := List.dropLast_append_getLast? _ slash
      rw [stepsOfPieces]
      conv_lhs => rw [← shape]
      rw [piecesCut _ _ (by simp)]
      simp [pieces]
    · exact stepsOfPieces q

theorem stepsAppend {q r : String} (relative : isAbsolute r = false) :
    Tree.steps (append q r) = Tree.steps q ++ Tree.steps r := by
  rw [stepsOfPieces, piecesAppend relative, stepsOfLeading q, stepsOfPieces r]
  simp

theorem stepsSegment {name : String} (segment : Segment name) : Tree.steps name = [name] := by
  have named : name.toList ≠ [] := by simpa using segment.nonempty
  simp [stepsOfPieces, piecesOfWhole segment.whole, named]

theorem stepsPair {a b : String} (first : Segment a) (second : Segment b) :
    Tree.steps (a ++ "/" ++ b) = [a, b] := by
  have shape : (a ++ "/" ++ b).toList = a.toList ++ '/' :: b.toList := by simp
  rw [stepsOfPieces, shape, piecesCut _ _ (by simp), piecesOfWhole first.whole,
    piecesOfWhole second.whole]
  simp [first.nonempty, second.nonempty]

theorem relativePair {a : String} (first : Segment a) (b : String) :
    isAbsolute (a ++ "/" ++ b) = false := by
  obtain ⟨c, rest, shape⟩ :=
    List.exists_cons_of_ne_nil (mt String.toList_eq_nil_iff.mp first.nonempty)
  have start : isAbsolute a = false := relativeOfWhole first.whole
  simpa [isAbsolute, shape] using start

theorem stepsBehind {q name : String} (component : Component name) :
    Tree.steps (append q name) = Tree.steps q ++ [name] := by
  rw [stepsAppend (relativeOfWhole component.whole), stepsSegment component.toSegment]

theorem absoluteAppend {q r : String} (relative : isAbsolute r = false) :
    isAbsolute (append q r) = isAbsolute q := by
  by_cases empty : q = ""
  · subst empty
    simpa [append, isAbsolute] using relative
  · rw [appendRelative empty relative]
    obtain ⟨c, rest, shape⟩ := List.exists_cons_of_ne_nil (mt String.toList_eq_nil_iff.mp empty)
    split <;> simp [isAbsolute, shape]

theorem appendNoSlash {q name : String} (component : Component name) :
    Tree.endsInSlash (append q name) = false := by
  have named : name.toList ≠ [] := by simpa using component.nonempty
  have last : (append q name).toList.getLast? = name.toList.getLast? := by
    by_cases empty : q = ""
    · simp [append, empty]
    · rw [appendBehind empty (relativeOfWhole component.whole)]
      rw [List.getLast?_append, List.getLast?_cons_of_ne_nil named]
      cases shape : name.toList.getLast? with
      | none => exact absurd (List.getLast?_eq_none_iff.mp shape) named
      | some c => rfl
  unfold Tree.endsInSlash
  rw [last]
  simp only [decide_eq_false_iff_not]
  exact fun slash => component.whole (List.mem_of_getLast? slash)

theorem appendNotEmpty {q name : String} (component : Component name) : append q name ≠ "" := by
  intro empty
  have steps : Tree.steps (append q name) = Tree.steps q ++ [name] := stepsBehind component
  rw [empty] at steps
  have none : Tree.steps "" = [] := by simp [stepsOfPieces, pieces]
  rw [none] at steps
  exact absurd steps (by simp)

theorem containsAppend (q name : String) (c : Char) (other : c ≠ '/')
    (relative : isAbsolute name = false) :
    c ∈ (append q name).toList ↔ c ∈ q.toList ∨ c ∈ name.toList := by
  by_cases empty : q = ""
  · subst empty
    simp [append]
  · rw [appendRelative empty relative]
    split <;> simp [other]

end ApiScreens.Path
