import ApiScreens.Disk
import ApiScreens.Proofs.Files.Walk

/-! Where a path leads if it leads anywhere: the location follows from the text alone. If the steps behind another
path never go up more often than they went down, the whole leads to a place below the one that its beginning leads to,
whatever the tree holds. -/
namespace ApiScreens
open Files ApiScreens.Path

namespace Disk

theorem stepName {name : String} (component : Component name) (l : Location) :
    locationOf.step l name = l ++ [name] := by
  simp [locationOf.step, component.notHere, component.notUp]

theorem stepCases (l : Location) (name : String) :
    (name = "." ∧ locationOf.step l name = l) ∨
      (name = ".." ∧ locationOf.step l name = l.dropLast) ∨
      locationOf.step l name = l ++ [name] := by
  unfold locationOf.step
  split
  · exact .inl ⟨by assumption, rfl⟩
  · split
    · exact .inr (.inl ⟨by assumption, rfl⟩)
    · exact .inr (.inr rfl)

theorem stepInjective {l : Location} (deep : l ≠ []) : Function.Injective (locationOf.step l) := by
  intro a b same
  have positive : 0 < l.length := List.length_pos_iff.mpr deep
  -- staying, going up and going down end at different depths
  have lengths := congrArg List.length same
  rcases stepCases l a with ⟨rfl, left⟩ | ⟨rfl, left⟩ | left <;>
    rcases stepCases l b with ⟨rfl, right⟩ | ⟨rfl, right⟩ | right <;>
    first
    | rfl
    | (rw [left, right] at lengths
       simp only [List.length_dropLast, List.length_append, List.length_singleton] at lengths
       omega)
    | (rw [left, right] at same; simpa using same)

theorem stepDeep {l : Location} (deep : 2 ≤ l.length) (name : String) : locationOf.step l name ≠ [] := by
  rw [← List.length_pos_iff]
  rcases stepCases l name with ⟨_, same⟩ | ⟨_, same⟩ | same
  · rw [same]
    omega
  · rw [same, List.length_dropLast]
    omega
  · simp [same]

theorem locationAppend (base : Location) (q : String) {r : String} (relative : isAbsolute r = false) :
    locationOf base (append q r) = (Tree.steps r).foldl locationOf.step (locationOf base q) := by
  simp [locationOf, stepsAppend relative, absoluteAppend relative]

theorem locationBehind (base : Location) (q : String) {name : String} (component : Component name) :
    locationOf base (append q name) = locationOf base q ++ [name] := by
  rw [locationAppend base q (relativeOfWhole component.whole),
    stepsSegment component.toSegment]
  exact stepName component _

theorem walkLocation {t : Tree} {l : Location} {ps : List String} {place : Tree.Place}
    (found : t.walk l ps = .ok place) : place.location = ps.foldl locationOf.step l := by
  induction ps generalizing l with
  | nil =>
    obtain ⟨e, _, rfl⟩ := Tree.walkEnd found
    rfl
  | cons step rest ih =>
    obtain ⟨_, stays | up | last | down⟩ := Tree.walkStep found
    · rw [ih stays.2, List.foldl_cons, locationOf.step, if_pos stays.1]
    · rw [ih up.2.2, List.foldl_cons, locationOf.step, if_neg up.1, if_pos up.2.1]
    · obtain ⟨notHere, notUp, rfl, _, rfl⟩ := last
      simp [Tree.Place.location, locationOf.step, notHere, notUp]
    · obtain ⟨notHere, notUp, _, further⟩ := down
      rw [ih further, List.foldl_cons, locationOf.step, if_neg notHere, if_neg notUp]

theorem followLocation {t : Tree} {p : String} {place : Tree.Place} (found : t.follow p = .ok place) :
    place.location = locationOf t.base p :=
  walkLocation (Tree.followWalk found).2.2

end Disk

namespace Path

def descends (step : String) : Bool := step ≠ "." && step ≠ ".."

def StaysInside (steps : List String) : Prop :=
  ∀ front, front <+: steps → front.count ".." ≤ front.countP descends

/-- A path that is another one with relative parts behind it, whose steps stay inside. -/
structure Behind (root : String) (parts : List String) (p : String) : Prop where
  spelled : p = under root parts
  relative : ∀ part ∈ parts, isAbsolute part = false
  steps : Tree.steps p = Tree.steps root ++ parts.flatMap Tree.steps
  inside : StaysInside (parts.flatMap Tree.steps)

theorem componentDescends {name : String} (component : Component name) : descends name = true := by
  simp [descends, component.notHere, component.notUp]

theorem descendsNotUp {step : String} (down : descends step = true) : step ≠ ".." := by
  rintro rfl
  contradiction

theorem staysInsideBehind {down further : List String} (descend : ∀ step ∈ down, descends step = true)
    (few : further.count ".." ≤ down.length) : StaysInside (down ++ further) := by
  have none {steps : List String} (only : ∀ step ∈ steps, descends step = true) : steps.count ".." = 0 :=
    List.count_eq_zero.mpr fun up => descendsNotUp (only _ up) rfl
  intro front leads
  rcases List.prefix_or_prefix_of_prefix leads (List.prefix_append down further) with short | ⟨rest, rfl⟩
  · rw [none fun step inside => descend step (short.subset inside)]
    exact Nat.zero_le _
  · have ups := ((List.prefix_append_right_inj down).mp leads).sublist.count_le ".."
    have downs : down.countP descends = down.length := List.countP_eq_length.mpr descend
    rw [List.count_append, none descend, List.countP_append, downs]
    omega

theorem stepsUnder {root : String} {parts : List String} (relative : ∀ part ∈ parts, isAbsolute part = false) :
    Tree.steps (under root parts) = Tree.steps root ++ parts.flatMap Tree.steps := by
  induction parts generalizing root with
  | nil => simp [under]
  | cons part rest ih =>
    obtain ⟨first, others⟩ := List.forall_mem_cons.mp relative
    rw [under, List.foldl_cons, ← under, ih others, stepsAppend first, List.flatMap_cons, List.append_assoc]

theorem stepsFew {name : String} (whole : '/' ∉ name.toList) : (Tree.steps name).length ≤ 1 := by
  by_cases named : name = ""
  · subst named
    decide
  · rw [stepsSegment ⟨whole, named⟩]
    exact le_rfl

theorem behindUnder {root : String} {parts : List String} (relative : ∀ part ∈ parts, isAbsolute part = false)
    (inside : StaysInside (parts.flatMap Tree.steps)) : Behind root parts (under root parts) :=
  ⟨rfl, relative, stepsUnder relative, inside⟩

theorem absoluteUnder {root : String} {parts : List String} (relative : ∀ part ∈ parts, isAbsolute part = false) :
    isAbsolute (under root parts) = isAbsolute root := by
  induction parts generalizing root with
  | nil => rfl
  | cons part rest ih =>
    obtain ⟨first, others⟩ := List.forall_mem_cons.mp relative
    rw [under, List.foldl_cons, ← under, ih others, absoluteAppend first]

theorem stepsBelow {l depth : Location} {steps : List String}
    (inside : ∀ front, front <+: steps → front.count ".." ≤ depth.length + front.countP descends) :
    l <+: steps.foldl Disk.locationOf.step (l ++ depth) := by
  induction steps generalizing depth with
  | nil => exact List.prefix_append l depth
  | cons step rest ih =>
    have later (front : List String) (leads : front <+: rest) :=
      inside (step :: front) (List.cons_prefix_cons.mpr ⟨rfl, leads⟩)
    simp only [List.count_cons, List.countP_cons] at later
    rw [List.foldl_cons, Disk.locationOf.step]
    by_cases here : step = "."
    · rw [if_pos here]
      exact ih fun front leads => by simpa [here, descends] using later front leads
    · rw [if_neg here]
      by_cases up : step = ".."
      · have further (front : List String) (leads : front <+: rest) :
            front.count ".." + 1 ≤ depth.length + front.countP descends := by
          simpa [up, descends] using later front leads
        have deep : depth ≠ [] := List.length_pos_iff.mp (further [] List.nil_prefix)
        rw [if_pos up, List.dropLast_append_of_ne_nil deep]
        refine ih fun front leads => ?_
        have bound := further front leads
        rw [List.length_dropLast]
        omega
      · rw [if_neg up, List.append_assoc]
        refine ih fun front leads => ?_
        have bound : front.count ".." ≤ depth.length + (front.countP descends + 1) := by
          simpa [up, here, descends] using later front leads
        rw [List.length_append, List.length_singleton]
        omega

theorem locationBelow {root p : String} {parts : List String} (behind : Behind root parts p) (base : Location) :
    Disk.locationOf base root <+: Disk.locationOf base p := by
  obtain ⟨rfl, relative, steps, inside⟩ := behind
  have place : Disk.locationOf base (under root parts) =
      (parts.flatMap Tree.steps).foldl Disk.locationOf.step (Disk.locationOf base root ++ []) := by
    rw [Disk.locationOf, steps, List.foldl_append, absoluteUnder relative, List.append_nil, ← Disk.locationOf]
  rw [place]
  exact stepsBelow fun front leads => by simpa using inside front leads

end Path
end ApiScreens
