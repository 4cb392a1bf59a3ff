import ApiScreens.Text.Piece
import Mathlib.Data.List.Basic
import Mathlib.Data.List.Infix

/-! Pieces and parts of texts. A separator cuts a text into the pieces of both sides, and no piece holds one; a text
occurs in another exactly if it is a part of its characters. -/
namespace ApiScreens.Text

theorem runCut {p : Char → Bool} {front rest : List Char} (all : ∀ c ∈ front, p c = true)
    (other : ∀ c more, rest = c :: more → p c = false) :
    (front ++ rest).takeWhile p = front ∧ (front ++ rest).dropWhile p = rest := by
  rw [List.takeWhile_append_of_pos all, List.dropWhile_append_of_pos all]
  cases rest with
  | nil => simp
  | cons c more => simp [other c more rfl]

theorem markCut {p : Char → Bool} {front : List Char} {mark : Char} (all : ∀ c ∈ front, p c = true)
    (stops : p mark = false) (rest : List Char) :
    (front ++ mark :: rest).takeWhile p = front ∧ (front ++ mark :: rest).dropWhile p = mark :: rest :=
  runCut all fun _ _ shape => (List.cons.inj shape).1 ▸ stops

variable {sep : Char → Bool}

theorem piecesNonempty (cs : List Char) : pieces sep cs ≠ [] := by
  cases cs with
  | nil => simp [pieces]
  | cons c rest =>
    simp only [pieces]
    split
    · simp
    · split <;> simp

theorem piecesWhole {cs : List Char} (clear : ∀ c ∈ cs, sep c = false) : pieces sep cs = [cs] := by
  induction cs with
  | nil => rfl
  | cons c rest ih =>
    have here := clear c (by simp)
    have later := ih fun d inside => clear d (by simp [inside])
    simp [pieces, here, later]

theorem piecesCut (xs ys : List Char) {c : Char} (cut : sep c = true) :
    pieces sep (xs ++ c :: ys) = pieces sep xs ++ pieces sep ys := by
  induction xs with
  | nil => simp [pieces, cut]
  | cons x rest ih =>
    simp only [List.cons_append, pieces, ih]
    split
    · simp
    · cases shape : pieces sep rest with
      | nil => exact absurd shape (piecesNonempty rest)
      | cons p more => simp

theorem piecesHead {cs p : List Char} {more : List (List Char)} (cut : pieces sep cs = p :: more) :
    ∃ rest, cs = p ++ rest ∧ (rest = [] ∨ ∃ c behind, rest = c :: behind ∧ sep c = true) := by
  induction cs generalizing p more with
  | nil =>
    obtain ⟨rfl, rfl⟩ := List.cons.inj cut
    exact ⟨[], rfl, .inl rfl⟩
  | cons c cs ih =>
    unfold pieces at cut
    split at cut
    · rename_i here
      obtain ⟨rfl, rfl⟩ := List.cons.inj cut
      exact ⟨c :: cs, rfl, .inr ⟨c, cs, rfl, here⟩⟩
    · cases shape : pieces sep cs with
      | nil => exact absurd shape (piecesNonempty cs)
      | cons q others =>
        rw [shape] at cut
        obtain ⟨rfl, rfl⟩ := List.cons.inj cut
        obtain ⟨rest, rfl, stops⟩ := ih shape
        exact ⟨rest, rfl, stops⟩

theorem pieceChars {cs p : List Char} (found : p ∈ pieces sep cs) : ∀ c ∈ p, c ∈ cs ∧ sep c = false := by
  induction cs generalizing p with
  | nil =>
    have empty : p = [] := by simpa [pieces] using found
    subst empty
    simp
  | cons c rest ih =>
    have later {q : List Char} (deep : q ∈ pieces sep rest) : ∀ d ∈ q, d ∈ c :: rest ∧ sep d = false :=
      fun d inside => ⟨List.mem_cons_of_mem _ (ih deep d inside).1, (ih deep d inside).2⟩
    simp only [pieces] at found
    split at found
    · rcases List.mem_cons.mp found with rfl | deep
      · simp
      · exact later deep
    · rename_i stays
      cases shape : pieces sep rest with
      | nil => exact absurd shape (piecesNonempty rest)
      | cons q more =>
        rw [shape] at found later
        rcases List.mem_cons.mp found with rfl | deep
        · -- the character joins the first piece of the rest
          intro d inside
          rcases List.mem_cons.mp inside with rfl | further
          · exact ⟨List.mem_cons_self, by simpa using stays⟩
          · exact later List.mem_cons_self d further
        · exact later (List.mem_cons_of_mem _ deep)

theorem pieceClear {cs p : List Char} (found : p ∈ pieces sep cs) : ∀ c ∈ p, sep c = false :=
  fun c inside => (pieceChars found c inside).2

theorem pieceInside {cs p : List Char} (found : p ∈ pieces sep cs) : ∀ c ∈ p, c ∈ cs :=
  fun c inside => (pieceChars found c inside).1

theorem piecesFront {mark : List Char} (clear : ∀ c ∈ mark, sep c = false) (ys : List Char) :
    ∃ p more, pieces sep (mark ++ ys) = (mark ++ p) :: more := by
  induction mark with
  | nil =>
    obtain ⟨p, more, shape⟩ := List.exists_cons_of_ne_nil (piecesNonempty ys : pieces sep ys ≠ [])
    exact ⟨p, more, shape⟩
  | cons c rest ih =>
    obtain ⟨p, more, shape⟩ := ih fun d inside => clear d (List.mem_cons_of_mem _ inside)
    exact ⟨p, more, by simp [pieces, clear c List.mem_cons_self, shape]⟩

theorem piecesEnd {mark : List Char} (clear : ∀ c ∈ mark, sep c = false) (xs : List Char) :
    ∃ front p, pieces sep (xs ++ mark) = front ++ [p ++ mark] := by
  induction xs with
  | nil => exact ⟨[], [], piecesWhole clear⟩
  | cons x rest ih =>
    obtain ⟨front, p, shape⟩ := ih
    simp only [List.cons_append, pieces, shape]
    split
    · exact ⟨[] :: front, p, rfl⟩
    · cases front with
      | nil => exact ⟨[], x :: p, rfl⟩
      | cons first more => exact ⟨(x :: first) :: more, p, rfl⟩

theorem piecesPart {mark : List Char} (clear : ∀ c ∈ mark, sep c = false) (xs ys : List Char) :
    ∃ before behind, before ++ mark ++ behind ∈ pieces sep (xs ++ mark ++ ys) := by
  induction xs with
  | nil =>
    obtain ⟨p, more, shape⟩ := piecesFront clear ys
    exact ⟨[], p, by simp [shape]⟩
  | cons x rest ih =>
    obtain ⟨before, behind, inside⟩ := ih
    simp only [List.cons_append, pieces]
    split
    · exact ⟨before, behind, List.mem_cons_of_mem _ inside⟩
    · cases shape : pieces sep (rest ++ mark ++ ys) with
      | nil => exact absurd shape (piecesNonempty _)
      | cons p more =>
        rw [shape] at inside
        rcases List.mem_cons.mp inside with same | later
        · exact ⟨x :: before, behind, by simp [← same]⟩
        · exact ⟨before, behind, List.mem_cons_of_mem _ later⟩

theorem joinCons (sep p : List Char) {ps : List (List Char)} (more : ps ≠ []) :
    join sep (p :: ps) = p ++ sep ++ join sep ps := by
  cases ps with
  | nil => exact absurd rfl more
  | cons q rest => rfl

theorem joinAppend (sep : List Char) {ps qs : List (List Char)} (first : ps ≠ []) (second : qs ≠ []) :
    join sep (ps ++ qs) = join sep ps ++ sep ++ join sep qs := by
  induction ps with
  | nil => exact absurd rfl first
  | cons p rest ih =>
    cases rest with
    | nil => exact joinCons sep p second
    | cons q more =>
      rw [List.cons_append, joinCons sep p (by simp), ih (by simp), joinCons sep p (by simp)]
      simp

theorem joinInside {sep : List Char} {ps : List (List Char)} {c : Char} (inside : c ∈ join sep ps) :
    c ∈ sep ∨ ∃ p ∈ ps, c ∈ p := by
  induction ps with
  | nil => exact absurd inside List.not_mem_nil
  | cons p rest ih =>
    cases rest with
    | nil => exact .inr ⟨p, List.mem_cons_self, inside⟩
    | cons q more =>
      rw [joinCons sep p (by simp)] at inside
      rcases List.mem_append.mp inside with front | later
      · rcases List.mem_append.mp front with first | between
        · exact .inr ⟨p, List.mem_cons_self, first⟩
        · exact .inl between
      · exact (ih later).imp id fun ⟨r, listed, there⟩ => ⟨r, List.mem_cons_of_mem _ listed, there⟩

theorem joinPieces (c : Char) (cs : List Char) : join [c] (pieces (· == c) cs) = cs := by
  induction cs with
  | nil => rfl
  | cons d rest ih =>
    cases shape : pieces (· == c) rest with
    | nil => exact absurd shape (piecesNonempty rest)
    | cons p more =>
      rw [shape] at ih
      simp only [pieces, shape]
      split
      · rename_i same
        rw [joinCons [c] [] (by simp), ih, beq_iff_eq.mp same]
        rfl
      · cases more with
        | nil => exact congrArg (d :: ·) ih
        | cons q more =>
          rw [joinCons [c] _ (by simp)] at ih ⊢
          exact congrArg (d :: ·) ih

theorem piecesJoin {c : Char} {ps : List (List Char)} (inside : ps ≠ []) (clear : ∀ p ∈ ps, c ∉ p) :
    pieces (· == c) (join [c] ps) = ps := by
  have whole {p : List Char} (listed : p ∈ ps) : pieces (· == c) p = [p] :=
    piecesWhole fun d there => by
      have differs : d ≠ c := fun same => clear p listed (same ▸ there)
      simpa using differs
  induction ps with
  | nil => exact absurd rfl inside
  | cons p rest ih =>
    cases rest with
    | nil => exact whole List.mem_cons_self
    | cons q more =>
      have later := ih (by simp) (fun r listed => clear r (List.mem_cons_of_mem _ listed))
        fun listed => whole (List.mem_cons_of_mem _ listed)
      rw [joinCons [c] p (by simp), List.append_assoc, List.singleton_append,
        piecesCut _ _ (by simp), whole List.mem_cons_self, later]
      rfl

theorem splitOnDeeper (c : Char) (s : String) : splitOn c s ≠ [] := by
  simp [splitOn, piecesNonempty]

theorem splitOnInjective {c : Char} {s t : String} (same : splitOn c s = splitOn c t) : s = t := by
  have pieces := List.map_injective_iff.mpr (fun _ _ => String.ofList_injective) same
  have chars := congrArg (join [c]) pieces
  rw [joinPieces, joinPieces] at chars
  exact String.toList_inj.mp chars

theorem afterExactly {start cs rest : List Char} : after? start cs = some rest ↔ start ++ rest = cs := by
  induction start generalizing cs with
  | nil => simp [after?, eq_comm]
  | cons s start ih =>
    cases cs with
    | nil => simp [after?]
    | cons c cs =>
      rw [after?, List.cons_append, List.cons.injEq]
      split
      · rename_i same
        simp [same, ih]
      · rename_i differs
        simp [differs]

theorem afterPrefix {start cs : List Char} : (after? start cs).isSome = true ↔ start <+: cs := by
  simp only [Option.isSome_iff_exists, afterExactly]
  rfl

theorem occursExactly {needle cs : List Char} : occursIn needle cs = true ↔ needle <:+: cs := by
  induction cs with
  | nil => simp [occursIn]
  | cons c rest ih => rw [occursIn, Bool.or_eq_true, afterPrefix, ih, List.infix_cons_iff]

theorem hasExactly {s needle : String} : has s needle = true ↔ needle.toList <:+: s.toList := occursExactly

theorem startsExactly {s start : String} : startsWith s start = true ↔ start.toList <+: s.toList := afterPrefix

theorem endsExactly {s last : String} : endsWith s last = true ↔ last.toList <:+ s.toList := by
  rw [endsWith, afterPrefix, List.reverse_prefix]

end ApiScreens.Text
