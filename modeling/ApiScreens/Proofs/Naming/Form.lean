import ApiScreens.Naming
import ApiScreens.Proofs.Naming.Free
import ApiScreens.Proofs.Text.Case
import ApiScreens.Proofs.Text.Pieces

/-! The forms of a name. A slash, a dot or any other mark in front of the capital A stands in a form only if it stands
in the name. The camel and the Pascal form have everything behind the first letter in common; each is a form of itself,
and the forms of one form are those of the name wherever the case mapping of that letter can be undone. -/
namespace ApiScreens.Naming
open Text

variable {d : Char}

theorem upperFirstLow (low : d.toNat < 0x41) {cs : List Char} (inside : d ∈ upperFirst cs) : d ∈ cs := by
  cases cs with
  | nil => exact inside
  | cons c rest =>
    rcases List.mem_append.mp inside with first | later
    · exact List.mem_cons.mpr (.inl (upperCharLow low first))
    · exact List.mem_cons_of_mem _ later

theorem lowerFirstLow (low : d.toNat < 0x41) {cs : List Char} (inside : d ∈ lowerFirst cs) : d ∈ cs := by
  cases cs with
  | nil => exact inside
  | cons c rest =>
    rcases List.mem_append.mp inside with first | later
    · exact List.mem_cons.mpr (.inl (lowerCharLow low first))
    · exact List.mem_cons_of_mem _ later

theorem segmentInside {name : String} {piece : List Char} (found : piece ∈ segments name) :
    ∀ c ∈ piece, c ∈ name.toList :=
  pieceInside (List.mem_filter.mp found).1

theorem pascalLow (low : d.toNat < 0x41) {name : String} (inside : d ∈ (pascal name).toList) :
    d ∈ name.toList := by
  rw [pascal, String.toList_ofList] at inside
  obtain ⟨piece, found, upper⟩ := List.mem_flatMap.mp inside
  exact segmentInside found d (upperFirstLow low upper)

theorem camelLow (low : d.toNat < 0x41) {name : String} (inside : d ∈ (camel name).toList) :
    d ∈ name.toList := by
  have piecewise : ∀ piece ∈ segments name, ∀ c ∈ piece, c ∈ name.toList := fun _ => segmentInside
  unfold camel at inside
  split at inside
  · simp at inside
  · rename_i first rest cut
    rw [String.toList_ofList] at inside
    rcases List.mem_append.mp inside with lower | more
    · exact piecewise first (by simp [cut]) d (lowerFirstLow low lower)
    · obtain ⟨piece, found, upper⟩ := List.mem_flatMap.mp more
      exact piecewise piece (by simp [cut, found]) d (upperFirstLow low upper)

theorem markKept {f : Char → List Char} (dot : f '.' = ['.']) (before mark behind : List Char) :
    '.' :: mark <:+: match before ++ '.' :: mark ++ behind with
      | [] => []
      | c :: rest => f c ++ rest := by
  cases before with
  | nil => exact ⟨[], behind, by simp [dot]⟩
  | cons c rest => exact ⟨f c ++ rest, behind, by simp⟩

theorem upperFirstMark (before mark behind : List Char) :
    '.' :: mark <:+: upperFirst (before ++ '.' :: mark ++ behind) := by
  have kept := markKept (f := upperChar) (by decide) before mark behind
  unfold upperFirst
  exact kept

theorem lowerFirstMark (before mark behind : List Char) :
    '.' :: mark <:+: lowerFirst (before ++ '.' :: mark ++ behind) := by
  have kept := markKept (f := lowerChar) (by decide) before mark behind
  unfold lowerFirst
  exact kept

theorem camelMark (xs mark ys : List Char) (clear : ∀ c ∈ '.' :: mark, isSeparator c = false)
    {name : String} (shape : name.toList = xs ++ '.' :: mark ++ ys) :
    '.' :: mark <:+: (camel name).toList := by
  obtain ⟨before, behind, inside⟩ := piecesPart clear xs ys
  have segment : before ++ '.' :: mark ++ behind ∈ segments name := by
    rw [segments, shape]
    exact List.mem_filter.mpr ⟨inside, by simp⟩
  unfold camel
  split
  · rename_i none
    rw [none] at segment
    exact absurd segment List.not_mem_nil
  · rename_i first rest cut
    rw [cut] at segment
    rw [String.toList_ofList]
    rcases List.mem_cons.mp segment with same | later
    · rw [← same]
      exact (lowerFirstMark before mark behind).trans (List.prefix_append _ _).isInfix
    · have piece : upperFirst (before ++ '.' :: mark ++ behind) <:+: rest.flatMap upperFirst :=
        List.infix_of_mem_flatten (List.mem_map_of_mem later)
      exact (upperFirstMark before mark behind).trans (piece.trans (List.suffix_append _ _).isInfix)

theorem uniqueForm (taken : List String) (name : String) :
    unique taken name = name ∨ ∃ n, unique taken name = numbered name n := by
  unfold unique
  split
  · exact .inr ⟨_, rfl⟩
  · exact .inl rfl

theorem uniqueAllForm {taken names : List String} {key : String} (inside : key ∈ uniqueAll taken names) :
    ∃ name ∈ names, key = name ∨ ∃ n, key = numbered name n := by
  induction names generalizing taken with
  | nil => exact absurd inside List.not_mem_nil
  | cons name rest ih =>
    rcases List.mem_cons.mp inside with rfl | later
    · exact ⟨name, List.mem_cons_self, uniqueForm taken name⟩
    · obtain ⟨other, listed, form⟩ := ih later
      exact ⟨other, List.mem_cons_of_mem _ listed, form⟩

theorem numberedWhole {name : String} (whole : '/' ∉ name.toList) (n : Nat) :
    '/' ∉ (numbered name n).toList := by
  simp only [numbered, String.toList_append, List.mem_append, not_or]
  refine ⟨⟨whole, by simp⟩, fun slash => ?_⟩
  have digit := toStringDigits n _ slash
  revert digit
  decide

theorem pascalWhole {name : String} (whole : '/' ∉ name.toList) : '/' ∉ (pascal name).toList :=
  fun slash => whole (pascalLow (by decide) slash)

theorem camelWhole {name : String} (whole : '/' ∉ name.toList) : '/' ∉ (camel name).toList :=
  fun slash => whole (camelLow (by decide) slash)

theorem tabNavigationWhole {key : String} (whole : '/' ∉ key.toList) :
    '/' ∉ (tabNavigation key).toList := by
  simp [tabNavigation, pascalWhole whole]

def separatorRuns : List Run := ⟨0x2d, 0x2d, 1⟩ :: ⟨0x5f, 0x5f, 1⟩ :: blankSet.runs

theorem separatorExactly {c : Char} :
    isSeparator c = true ↔ ∃ r ∈ separatorRuns, r.has c.toNat = true := by
  constructor
  · intro separates
    simp only [isSeparator, Bool.or_eq_true, beq_iff_eq] at separates
    rcases separates with (rfl | rfl) | blank
    · exact ⟨⟨0x2d, 0x2d, 1⟩, by simp [separatorRuns], by decide⟩
    · exact ⟨⟨0x5f, 0x5f, 1⟩, by simp [separatorRuns], by decide⟩
    · obtain ⟨r, listed, has⟩ := runHolds (by decide) blank
      exact ⟨r, by simp [separatorRuns, listed], has⟩
  · rintro ⟨r, listed, has⟩
    have members : ∀ r ∈ separatorRuns, ∀ k < r.last + 1 - r.first, isSeparator (Char.ofNat (r.first + k)) = true := by
      decide +kernel
    simp only [Run.has, Bool.and_eq_true, decide_eq_true_eq] at has
    have member := members r listed (c.toNat - r.first) (by omega)
    rwa [Nat.add_sub_cancel' has.1.1, Char.ofNat_toNat] at member

theorem separatorsUnmapped : ∀ r ∈ separatorRuns, unmapped r = true := by decide +kernel

theorem mappedClear {image : Char → List Char}
    (outside : ∀ {r}, unmapped r = true → ∀ {c d}, r.has c.toNat = false → d ∈ image c → r.has d.toNat = false)
    {c d : Char} (clear : isSeparator c = false) (mapped : d ∈ image c) : isSeparator d = false := by
  rw [← Bool.not_eq_true, separatorExactly] at clear ⊢
  rintro ⟨r, listed, has⟩
  have apart : r.has c.toNat = false := by
    by_contra inside
    exact clear ⟨r, listed, by simpa using inside⟩
  rw [outside (separatorsUnmapped r listed) apart mapped] at has
  contradiction

theorem upperClear {c d : Char} (clear : isSeparator c = false) (image : d ∈ upperChar c) :
    isSeparator d = false :=
  mappedClear upperOutside clear image

theorem lowerClear {c d : Char} (clear : isSeparator c = false) (image : d ∈ lowerChar c) :
    isSeparator d = false :=
  mappedClear lowerOutside clear image

theorem upperFirstClear {cs : List Char} (clear : ∀ d ∈ cs, isSeparator d = false) :
    ∀ d ∈ upperFirst cs, isSeparator d = false := by
  cases cs with
  | nil => exact clear
  | cons c rest =>
    intro d inside
    rcases List.mem_append.mp inside with first | later
    · exact upperClear (clear c List.mem_cons_self) first
    · exact clear d (List.mem_cons_of_mem _ later)

theorem segmentsWhole {cs : List Char} (clear : ∀ d ∈ cs, isSeparator d = false) (nonempty : cs ≠ []) :
    segments (String.ofList cs) = [cs] := by
  rw [segments, String.toList_ofList, piecesWhole clear]
  simp [nonempty]

theorem segmentClear {name : String} {piece : List Char} (listed : piece ∈ segments name) :
    ∀ d ∈ piece, isSeparator d = false :=
  pieceClear (List.mem_filter.mp listed).1

def initial? (name : String) : Option Char := name.toList.find? fun c => !isSeparator c

theorem initialSegment (name : String) : initial? name = (segments name).head?.bind List.head? := by
  unfold initial? segments
  induction name.toList with
  | nil => rfl
  | cons c rest ih =>
    cases parts : isSeparator c with
    | true => simpa [pieces, parts] using ih
    | false =>
      cases shape : pieces isSeparator rest with
      | nil => exact absurd shape (piecesNonempty rest)
      | cons p more => simp [pieces, parts, shape]

structure Spells (name : String) (c : Char) (tail : List Char) : Prop where
  initial : initial? name = some c
  camel : camel name = String.ofList (lowerChar c ++ tail)
  pascal : pascal name = String.ofList (upperChar c ++ tail)
  clear : ∀ d ∈ c :: tail, isSeparator d = false

theorem spelledBoth (name : String) :
    (initial? name = none ∧ camel name = "" ∧ pascal name = "") ∨ ∃ c tail, Spells name c tail := by
  have start := initialSegment name
  have nonempty : ∀ piece ∈ segments name, piece ≠ [] := fun piece listed => by
    simpa using (List.mem_filter.mp listed).2
  cases cut : segments name with
  | nil =>
    rw [cut] at start
    exact .inl ⟨start, by rw [camel, cut], by rw [pascal, cut]; rfl⟩
  | cons first rest =>
    obtain ⟨c, more, rfl⟩ := List.exists_cons_of_ne_nil (nonempty first (by simp [cut]))
    have clear (piece : List Char) (listed : piece ∈ (c :: more) :: rest) : ∀ d ∈ piece, isSeparator d = false :=
      segmentClear (cut ▸ listed)
    refine .inr ⟨c, more ++ rest.flatMap upperFirst, ⟨?_, ?_, ?_, ?_⟩⟩
    · simpa [cut] using start
    · simp [camel, cut, lowerFirst]
    · simp [pascal, cut, upperFirst]
    · intro d inside
      rw [← List.cons_append] at inside
      rcases List.mem_append.mp inside with here | later
      · exact clear _ List.mem_cons_self d here
      · obtain ⟨piece, listed, upper⟩ := List.mem_flatMap.mp later
        exact upperFirstClear (clear piece (List.mem_cons_of_mem _ listed)) d upper

section
variable {cs tail : List Char} (nonempty : cs ≠ []) (clear : ∀ d ∈ cs ++ tail, isSeparator d = false)
include nonempty clear

theorem camelForm : camel (String.ofList (cs ++ tail)) = String.ofList (lowerFirst cs ++ tail) := by
  obtain ⟨c, rest, rfl⟩ := List.exists_cons_of_ne_nil nonempty
  rw [camel, segmentsWhole clear (by simp)]
  simp [lowerFirst]

theorem pascalForm : pascal (String.ofList (cs ++ tail)) = String.ofList (upperFirst cs ++ tail) := by
  obtain ⟨c, rest, rfl⟩ := List.exists_cons_of_ne_nil nonempty
  rw [pascal, segmentsWhole clear (by simp)]
  simp [upperFirst]

end

theorem upperFirstTwice (c : Char) : upperFirst (upperChar c) = upperChar c := by
  obtain ⟨d, rest, shape, stays⟩ := upperHead c
  rw [shape, upperFirst, stays, List.singleton_append]

theorem lowerFirstTwice (c : Char) : lowerFirst (lowerChar c) = lowerChar c := by
  obtain ⟨d, rest, shape, stays⟩ := lowerHead c
  rw [shape, lowerFirst, stays, List.singleton_append]

theorem upperNonempty (c : Char) : upperChar c ≠ [] := by
  obtain ⟨_, _, shape, _⟩ := upperHead c
  simp [shape]

theorem lowerNonempty (c : Char) : lowerChar c ≠ [] := by
  obtain ⟨_, _, shape, _⟩ := lowerHead c
  simp [shape]

theorem plainUndone {c : Char} (plain : c.toNat < 0x80) :
    upperFirst (lowerChar c) = upperChar c ∧ lowerFirst (upperChar c) = lowerChar c := by
  have each : ∀ n < 0x80, upperFirst (lowerChar (Char.ofNat n)) = upperChar (Char.ofNat n) ∧
      lowerFirst (upperChar (Char.ofNat n)) = lowerChar (Char.ofNat n) := by decide +kernel
  simpa using each c.toNat plain

/-- Each form of a name is its own form. The Pascal form of the camel form is that of the name exactly if the
first letter of the name has the upper case of its lower case, and the camel form of the Pascal form exactly
if it has the lower case of its upper case; letters of the first 128 characters have both. -/
theorem formsAgree (name : String) :
    camel (camel name) = camel name ∧ pascal (pascal name) = pascal name ∧
      (pascal (camel name) = pascal name ↔
        ∀ c, initial? name = some c → upperFirst (lowerChar c) = upperChar c) ∧
      (camel (pascal name) = camel name ↔
        ∀ c, initial? name = some c → lowerFirst (upperChar c) = lowerChar c) ∧
      ((∀ c, initial? name = some c → c.toNat < 0x80) →
        pascal (camel name) = pascal name ∧ camel (pascal name) = camel name) := by
  rcases spelledBoth name with ⟨none, lower, upper⟩ | ⟨c, tail, spells⟩
  · have camelEmpty : camel "" = "" := by decide
    have pascalEmpty : pascal "" = "" := by decide
    simp [none, lower, upper, camelEmpty, pascalEmpty]
  · obtain ⟨initial, lower, upper, clear⟩ := spells
    have lowers : ∀ d ∈ lowerChar c ++ tail, isSeparator d = false := fun d inside =>
      (List.mem_append.mp inside).elim (lowerClear (clear c List.mem_cons_self))
        fun later => clear d (List.mem_cons_of_mem _ later)
    have uppers : ∀ d ∈ upperChar c ++ tail, isSeparator d = false := fun d inside =>
      (List.mem_append.mp inside).elim (upperClear (clear c List.mem_cons_self))
        fun later => clear d (List.mem_cons_of_mem _ later)
    have raised : pascal (camel name) = pascal name ↔ upperFirst (lowerChar c) = upperChar c := by
      rw [lower, upper, pascalForm (lowerNonempty c) lowers, String.ofList_inj, List.append_cancel_right_eq]
    have lowered : camel (pascal name) = camel name ↔ lowerFirst (upperChar c) = lowerChar c := by
      rw [lower, upper, camelForm (upperNonempty c) uppers, String.ofList_inj, List.append_cancel_right_eq]
    refine ⟨?_, ?_, ?_, ?_, fun plain => ?_⟩
    · rw [lower, camelForm (lowerNonempty c) lowers, lowerFirstTwice]
    · rw [upper, pascalForm (upperNonempty c) uppers, upperFirstTwice]
    · simpa [initial] using raised
    · simpa [initial] using lowered
    · obtain ⟨up, down⟩ := plainUndone (plain c initial)
      exact ⟨raised.mpr up, lowered.mpr down⟩

theorem casesNotUndone :
    pascal (camel "İade") ≠ pascal "İade" ∧ camel (pascal "ßeta") ≠ camel "ßeta" := by
  decide +kernel

end ApiScreens.Naming
