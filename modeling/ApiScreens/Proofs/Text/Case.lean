import ApiScreens.Text.Case

/-! What case mapping maps to. It makes no characters in front of the capital A: those are there only where they
stood. Every character of an image is mapped to itself, so that mapping the first character of an image once more
changes nothing; the images of a shift are compared with whole runs of code points. -/
namespace ApiScreens.Text

def IsHigh (n : Nat) : Prop := 0x41 ≤ n ∧ n.isValidChar

instance (n : Nat) : Decidable (IsHigh n) := by unfold IsHigh; infer_instance

def Shift.RisesTo (s : Shift) : Prop :=
  0x41 ≤ s.target ∧ (s.target + s.last < 0xd800 + s.first ∨
    0xdfff < s.target ∧ s.target + s.last < 0x110000 + s.first)

instance (s : Shift) : Decidable s.RisesTo := by unfold Shift.RisesTo; infer_instance

theorem shiftHigh {shifts : List Shift} (rise : ∀ s ∈ shifts, s.RisesTo) {n m : Nat}
    (found : shiftOf shifts n = some m) : IsHigh m := by
  induction shifts with
  | nil => simp [shiftOf] at found
  | cons s rest ih =>
    unfold shiftOf at found
    split at found <;> try contradiction
    split at found
    · rename_i notBelow has
      cases Option.some.inj found
      obtain ⟨least, valid⟩ := rise s List.mem_cons_self
      simp only [Run.has, Bool.and_eq_true, decide_eq_true_eq] at has
      unfold IsHigh Nat.isValidChar
      omega
    · exact ih (fun s inside => rise s (List.mem_cons_of_mem _ inside)) found

theorem highChar {n : Nat} (high : IsHigh n) : 0x41 ≤ (Char.ofNat n).toNat := by
  have valid := high.2
  rw [Char.ofNat, dif_pos valid]
  exact high.1

theorem upperShiftsRise : ∀ s ∈ upperShifts, s.RisesTo := by decide +kernel

theorem lowerShiftsRise : ∀ s ∈ lowerShifts, s.RisesTo := by decide +kernel

theorem expansionsHigh : ∀ e ∈ upperExpansions, ∀ n ∈ e.2, IsHigh n := by decide +kernel

theorem lowNotHigh {d : Char} (low : d.toNat < 0x41) {n : Nat} (high : IsHigh n) : d ≠ Char.ofNat n := by
  rintro rfl
  have := highChar high
  omega

theorem lowerCharLow {c d : Char} (low : d.toNat < 0x41) (inside : d ∈ lowerChar c) : d = c := by
  unfold lowerChar at inside
  split at inside
  · rcases List.mem_cons.mp inside with rfl | mark
    · exact absurd low (by decide)
    · exact absurd (List.mem_singleton.mp mark) (lowNotHigh low (by decide))
  · split at inside
    · rename_i n found
      exact absurd (List.mem_singleton.mp inside) (lowNotHigh low (shiftHigh lowerShiftsRise found))
    · exact List.mem_singleton.mp inside

theorem upperCharLow {c d : Char} (low : d.toNat < 0x41) (inside : d ∈ upperChar c) : d = c := by
  unfold upperChar at inside
  split at inside
  · rename_i n found
    exact absurd (List.mem_singleton.mp inside) (lowNotHigh low (shiftHigh upperShiftsRise found))
  · split at inside
    · rename_i ns found
      obtain ⟨n, listed, rfl⟩ := List.mem_map.mp inside
      obtain ⟨before, after, shape, _⟩ := List.lookup_eq_some_iff.mp found
      exact absurd rfl (lowNotHigh low (expansionsHigh (c.toNat, ns) (by simp [shape]) n listed))
    · exact List.mem_singleton.mp inside

namespace Shift

def Image (s : Shift) (m : Nat) : Prop := ∃ k, k ≤ s.last - s.first ∧ k % s.step = 0 ∧ m = s.target + k

def final (s : Shift) : Nat := s.target + (s.last - s.first)

def spares (s : Shift) (r : Run) : Bool :=
  Nat.blt r.last s.target || Nat.blt s.final r.first ||
    ((s.target + r.first) % 2 == 1 && (s.step == 2 || s.first == s.last) && (r.step == 2 || r.first == r.last))

def clears (s : Shift) : List Shift → Bool
  | [] => true
  | t :: rest => if Nat.blt s.final t.first then true else s.spares t.toRun && s.clears rest

variable {s : Shift} {m : Nat}

theorem imageFinal (image : s.Image m) : s.target ≤ m ∧ m ≤ s.final := by
  obtain ⟨k, inside, _, rfl⟩ := image
  unfold final
  omega

theorem sparesImage {r : Run} (spared : s.spares r = true) (image : s.Image m) : r.has m = false := by
  obtain ⟨above, below⟩ := imageFinal image
  obtain ⟨k, inside, steps, shape⟩ := image
  simp only [spares, Bool.or_eq_true, Bool.and_eq_true, Nat.blt_eq, beq_iff_eq] at spared
  simp only [Run.has, Bool.and_eq_false_iff, decide_eq_false_iff_not, beq_eq_false_iff_ne]
  rcases spared with (front | behind) | ⟨⟨odd, one⟩, other⟩
  · omega
  · omega
  · -- the offset of an image is even, and so is that of a member of the run
    have even : k % 2 = 0 := by
      rcases one with two | single
      · rwa [two] at steps
      · omega
    rcases other with two | single
    · rw [two]
      omega
    · omega

theorem clearsImage {shifts : List Shift} (clear : s.clears shifts = true) (image : s.Image m) :
    shiftOf shifts m = none := by
  induction shifts with
  | nil => rfl
  | cons t rest ih =>
    obtain ⟨_, below⟩ := imageFinal image
    unfold clears at clear
    unfold shiftOf
    split at clear
    · rename_i front
      rw [if_pos (by simp only [Nat.blt_eq] at front; omega)]
    · obtain ⟨apart, more⟩ := Bool.and_eq_true_iff.mp clear
      simp [sparesImage apart image, ih more]

end Shift

theorem shiftImage {shifts : List Shift} {n m : Nat} (found : shiftOf shifts n = some m) :
    ∃ s ∈ shifts, s.Image m := by
  induction shifts with
  | nil => simp [shiftOf] at found
  | cons s rest ih =>
    unfold shiftOf at found
    split at found <;> try contradiction
    split at found
    · rename_i _ has
      simp only [Run.has, Bool.and_eq_true, decide_eq_true_eq, beq_iff_eq] at has
      exact ⟨s, List.mem_cons_self, n - s.first, by omega, has.2, (Option.some.inj found).symm⟩
    · obtain ⟨t, listed, image⟩ := ih found
      exact ⟨t, List.mem_cons_of_mem _ listed, image⟩

theorem highImage {m : Nat} (high : IsHigh m) : (Char.ofNat m).toNat = m := by
  rw [Char.ofNat, dif_pos high.2]
  rfl

theorem upperCases (c : Char) :
    upperChar c = [c] ∨ (∃ s ∈ upperShifts, ∃ d, upperChar c = [d] ∧ s.Image d.toNat) ∨
      ∃ e ∈ upperExpansions, upperChar c = e.2.map Char.ofNat := by
  unfold upperChar
  split
  · rename_i n found
    obtain ⟨s, listed, image⟩ := shiftImage found
    refine .inr (.inl ⟨s, listed, _, rfl, ?_⟩)
    rwa [highImage (shiftHigh upperShiftsRise found)]
  · split
    · rename_i ns found
      obtain ⟨before, after, shape, _⟩ := List.lookup_eq_some_iff.mp found
      exact .inr (.inr ⟨(c.toNat, ns), by simp [shape], rfl⟩)
    · exact .inl rfl

theorem lowerCases (c : Char) :
    lowerChar c = [c] ∨ (∃ s ∈ lowerShifts, ∃ d, lowerChar c = [d] ∧ s.Image d.toNat) ∨
      lowerChar c = ['i', Char.ofNat 0x307] := by
  unfold lowerChar
  split
  · exact .inr (.inr rfl)
  · split
    · rename_i n found
      obtain ⟨s, listed, image⟩ := shiftImage found
      refine .inr (.inl ⟨s, listed, _, rfl, ?_⟩)
      rwa [highImage (shiftHigh lowerShiftsRise found)]
    · exact .inl rfl

theorem upperCleared : (upperShifts.all fun s => s.clears upperShifts &&
    upperExpansions.all fun e => s.spares ⟨e.1, e.1, 1⟩) = true := by
  decide +kernel

theorem lowerCleared : (lowerShifts.all fun s => s.clears lowerShifts && s.spares ⟨0x130, 0x130, 1⟩) = true := by
  decide +kernel

theorem expansionsStay :
    ∀ e ∈ upperExpansions, e.2 ≠ [] ∧ ∀ m ∈ e.2, upperChar (Char.ofNat m) = [Char.ofNat m] := by
  decide +kernel

theorem upperImageStays {s : Shift} (listed : s ∈ upperShifts) {d : Char} (image : s.Image d.toNat) :
    upperChar d = [d] := by
  obtain ⟨clear, apart⟩ := Bool.and_eq_true_iff.mp (List.all_eq_true.mp upperCleared s listed)
  have unexpanded : upperExpansions.lookup d.toNat = none := by
    refine List.lookup_eq_none_iff.mpr fun e there => ?_
    have other := Shift.sparesImage (List.all_eq_true.mp apart e there) image
    rw [bne_iff_ne]
    exact fun same => by simp [Run.has, same] at other
  rw [upperChar, Shift.clearsImage clear image, unexpanded]

theorem lowerImageStays {s : Shift} (listed : s ∈ lowerShifts) {d : Char} (image : s.Image d.toNat) :
    lowerChar d = [d] := by
  obtain ⟨clear, apart⟩ := Bool.and_eq_true_iff.mp (List.all_eq_true.mp lowerCleared s listed)
  have other := Shift.sparesImage apart image
  have undotted : d.toNat ≠ 0x130 := fun same => by simp [Run.has, same] at other
  rw [lowerChar, if_neg undotted, Shift.clearsImage clear image]

theorem upperHead (c : Char) : ∃ d rest, upperChar c = d :: rest ∧ upperChar d = [d] := by
  rcases upperCases c with same | ⟨s, listed, d, shape, image⟩ | ⟨e, listed, shape⟩
  · exact ⟨c, [], same, same⟩
  · exact ⟨d, [], shape, upperImageStays listed image⟩
  · obtain ⟨written, stay⟩ := expansionsStay e listed
    obtain ⟨m, more, cut⟩ := List.exists_cons_of_ne_nil written
    exact ⟨Char.ofNat m, more.map Char.ofNat, by rw [shape, cut, List.map_cons], stay m (by simp [cut])⟩

theorem lowerHead (c : Char) : ∃ d rest, lowerChar c = d :: rest ∧ lowerChar d = [d] := by
  rcases lowerCases c with same | ⟨s, listed, d, shape, image⟩ | shape
  · exact ⟨c, [], same, same⟩
  · exact ⟨d, [], shape, lowerImageStays listed image⟩
  · exact ⟨'i', _, shape, by decide +kernel⟩

def CharSet.runs : CharSet → List Run
  | start :: stop :: rest => ⟨start, stop - 1, 1⟩ :: CharSet.runs rest
  | _ => []

theorem runHolds {chars : CharSet} (closed : chars.length % 2 = 0) {n : Nat}
    (inside : CharSet.hasFrom false chars n = true) : ∃ r ∈ chars.runs, r.has n = true := by
  induction chars using CharSet.runs.induct with
  | case1 start stop rest ih =>
    simp only [CharSet.hasFrom, Bool.not_false, Bool.not_true] at inside
    split at inside <;> try contradiction
    split at inside
    · refine ⟨_, List.mem_cons_self, ?_⟩
      simp only [Run.has, Nat.mod_one, Bool.and_eq_true, decide_eq_true_eq, BEq.rfl, and_true]
      omega
    · obtain ⟨r, listed, has⟩ := ih (by simp only [List.length_cons] at closed; omega) inside
      exact ⟨r, List.mem_cons_of_mem _ listed, has⟩
  | case2 chars other =>
    match chars, other with
    | [], _ => contradiction
    | [_], _ => contradiction
    | start :: stop :: rest, other => exact absurd rfl (other start stop rest)

def unmapped (r : Run) : Bool :=
  (upperShifts.all (·.spares r)) && (lowerShifts.all (·.spares r)) && !r.has 0x69 && !r.has 0x307 &&
    upperExpansions.all fun e => e.2.all fun m => !r.has m

section
variable {r : Run} (apart : unmapped r = true) {c d : Char} (outside : r.has c.toNat = false)
include apart outside

theorem upperOutside (image : d ∈ upperChar c) : r.has d.toNat = false := by
  simp only [unmapped, Bool.and_eq_true, List.all_eq_true, Bool.not_eq_true'] at apart
  obtain ⟨⟨⟨⟨uppers, _⟩, _⟩, _⟩, expanded⟩ := apart
  rcases upperCases c with same | ⟨s, listed, e, shape, there⟩ | ⟨e, listed, shape⟩
  · rw [same] at image
    rwa [List.mem_singleton.mp image]
  · rw [shape] at image
    rw [List.mem_singleton.mp image]
    exact Shift.sparesImage (uppers s listed) there
  · rw [shape] at image
    obtain ⟨m, written, rfl⟩ := List.mem_map.mp image
    rw [highImage (expansionsHigh e listed m written)]
    exact expanded e listed m written

theorem lowerOutside (image : d ∈ lowerChar c) : r.has d.toNat = false := by
  simp only [unmapped, Bool.and_eq_true, List.all_eq_true, Bool.not_eq_true'] at apart
  obtain ⟨⟨⟨⟨_, lowers⟩, letter⟩, dot⟩, _⟩ := apart
  rcases lowerCases c with same | ⟨s, listed, e, shape, there⟩ | shape
  · rw [same] at image
    rwa [List.mem_singleton.mp image]
  · rw [shape] at image
    rw [List.mem_singleton.mp image]
    exact Shift.sparesImage (lowers s listed) there
  · rw [shape] at image
    rcases List.mem_cons.mp image with rfl | mark
    · exact letter
    · rw [List.mem_singleton.mp mark]
      exact dot

end

end ApiScreens.Text
