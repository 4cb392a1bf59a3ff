import ApiScreens.Proofs.Path.Component
import ApiScreens.Proofs.SortedMap

/-! Where paths lead. A walk passes only through directories, so it ends at the same location in every tree
that has those directories; a name behind a path leads to the place of that name in the directory
which the path leads to. -/
namespace ApiScreens.Files
open ApiScreens.Path

namespace Tree

def Place.location : Place → Location
  | .present l _ => l
  | .free l => l

def Place.Holds (t : Tree) : Place → Prop
  | .present l e => t.at? l = some e
  | .free l => t.at? l = none ∧ l ≠ []

theorem walkStep {t : Tree} {l : Location} {step : String} {rest : List String} {place : Place}
    (found : t.walk l (step :: rest) = .ok place) :
    t.at? l = some .directory ∧
      ((step = "." ∧ t.walk l rest = .ok place) ∨
       (step ≠ "." ∧ step = ".." ∧ t.walk l.dropLast rest = .ok place) ∨
       (step ≠ "." ∧ step ≠ ".." ∧ rest = [] ∧ t.at? (l ++ [step]) = none ∧
         place = .free (l ++ [step])) ∨
       (step ≠ "." ∧ step ≠ ".." ∧ ¬(rest = [] ∧ t.at? (l ++ [step]) = none) ∧
         t.walk (l ++ [step]) rest = .ok place)) := by
  unfold walk at found
  split at found <;> try contradiction
  rename_i here
  refine ⟨here, ?_⟩
  split at found
  · exact .inl ⟨by assumption, found⟩
  · split at found
    · exact .inr (.inl ⟨by assumption, by assumption, found⟩)
    · split at found
      · rename_i last
        exact .inr (.inr (.inl ⟨by assumption, by assumption, last.1, last.2, by
          simpa using found.symm⟩))
      · exact .inr (.inr (.inr ⟨by assumption, by assumption, by assumption, found⟩))

theorem walkEnd {t : Tree} {l : Location} {place : Place} (found : t.walk l [] = .ok place) :
    ∃ e, t.at? l = some e ∧ place = .present l e := by
  unfold walk at found
  split at found
  · rename_i e here
    exact ⟨e, here, by simpa using found.symm⟩
  · contradiction

theorem walkHere {t : Tree} {l : Location} {e : Entry} (here : t.at? l = some e) :
    t.walk l [] = .ok (.present l e) := by
  simp [walk, here]

theorem walkEntry {t : Tree} {l : Location} {ps : List String} {place : Place}
    (found : t.walk l ps = .ok place) : place.Holds t := by
  induction ps generalizing l with
  | nil =>
    obtain ⟨e, here, rfl⟩ := walkEnd found
    exact here
  | cons step rest ih =>
    obtain ⟨_, stays | up | last | down⟩ := walkStep found
    · exact ih stays.2
    · exact ih up.2.2
    · obtain ⟨_, _, _, free, rfl⟩ := last
      exact ⟨free, by simp⟩
    · exact ih down.2.2.2

-- A second tree that has the directories of the first is walked alike. The end itself may differ: what is there is
-- looked up in the second tree.
theorem walkAt {t u : Tree} (kept : ∀ k, t.at? k = some .directory → u.at? k = some .directory)
    {l : Location} {ps : List String} {place : Place} {e : Entry}
    (found : t.walk l ps = .ok place) (there : u.at? place.location = some e) :
    u.walk l ps = .ok (.present place.location e) := by
  induction ps generalizing l with
  | nil =>
    obtain ⟨old, _, rfl⟩ := walkEnd found
    exact walkHere there
  | cons step rest ih =>
    obtain ⟨here, stays | up | last | down⟩ := walkStep found
    · simp [walk, kept l here, stays.1, ih stays.2]
    · simp [walk, kept l here, up.2.1, ih up.2.2]
    · obtain ⟨notHere, notUp, rfl, _, rfl⟩ := last
      have occupied : u.at? (l ++ [step]) = some e := there
      simp [walk, kept l here, notHere, notUp, occupied, Place.location]
    · obtain ⟨notHere, notUp, _, further⟩ := down
      have goes : ¬(rest = [] ∧ u.at? (l ++ [step]) = none) := by
        rintro ⟨rfl, absent⟩
        obtain ⟨old, _, rfl⟩ := walkEnd further
        have occupied : u.at? (l ++ [step]) = some e := there
        rw [occupied] at absent
        contradiction
      simp only [walk, kept l here, if_neg notHere, if_neg notUp, if_neg goes, ih further]

def child (t : Tree) (l : Location) (name : String) : Place :=
  match t.at? (l ++ [name]) with
  | some e => .present (l ++ [name]) e
  | none => .free (l ++ [name])

theorem childLocation (t : Tree) (l : Location) (name : String) :
    (t.child l name).location = l ++ [name] := by
  unfold child
  split <;> rfl

theorem walkName {t : Tree} {l : Location} {name : String} (component : Component name)
    (here : t.at? l = some .directory) : t.walk l [name] = .ok (t.child l name) := by
  cases there : t.at? (l ++ [name]) with
  | none => simp [walk, here, component.notHere, component.notUp, there, child]
  | some e => simp [walk, here, component.notHere, component.notUp, there, child]

theorem walkAppend {t : Tree} {l k : Location} {ps : List String}
    (found : t.walk l ps = .ok (.present k .directory)) (qs : List String) :
    t.walk l (ps ++ qs) = t.walk k qs := by
  induction ps generalizing l with
  | nil =>
    obtain ⟨e, _, same⟩ := walkEnd found
    cases same
    rfl
  | cons step rest ih =>
    obtain ⟨here, stays | up | last | down⟩ := walkStep found
    · simp [walk, here, stays.1, ih stays.2]
    · simp [walk, here, up.2.1, ih up.2.2]
    · obtain ⟨_, _, _, _, impossible⟩ := last
      contradiction
    · obtain ⟨notHere, notUp, _, further⟩ := down
      have goes : ¬(rest ++ qs = [] ∧ t.at? (l ++ [step]) = none) := by
        rintro ⟨short, absent⟩
        obtain ⟨rfl, rfl⟩ := List.append_eq_nil_iff.mp short
        obtain ⟨e, there, _⟩ := walkEnd further
        rw [there] at absent
        contradiction
      simp only [List.cons_append, walk, here, if_neg notHere, if_neg notUp, if_neg goes, ih further]

theorem walkBehind {t : Tree} {l k : Location} {ps : List String} {name : String}
    (component : Component name) (found : t.walk l ps = .ok (.present k .directory)) :
    t.walk l (ps ++ [name]) = .ok (t.child k name) := by
  rw [walkAppend found, walkName component (walkEntry found)]

theorem walkBefore {t : Tree} {l : Location} {ps : List String} {name : String} {place : Place}
    (found : t.walk l (ps ++ [name]) = .ok place) :
    ∃ k, t.walk l ps = .ok (.present k .directory) := by
  induction ps generalizing l with
  | nil => exact ⟨l, walkHere (walkStep found).1⟩
  | cons step rest ih =>
    obtain ⟨here, stays | up | last | down⟩ := walkStep found
    · obtain ⟨k, before⟩ := ih stays.2
      exact ⟨k, by simp [walk, here, stays.1, before]⟩
    · obtain ⟨k, before⟩ := ih up.2.2
      exact ⟨k, by simp [walk, here, up.2.1, before]⟩
    · exact absurd last.2.2.1 (by simp)
    · obtain ⟨notHere, notUp, _, further⟩ := down
      obtain ⟨k, before⟩ := ih further
      have goes : ¬(rest = [] ∧ t.at? (l ++ [step]) = none) := by
        rintro ⟨rfl, absent⟩
        obtain ⟨e, there, _⟩ := walkEnd before
        rw [there] at absent
        contradiction
      exact ⟨k, by simp only [walk, here, if_neg notHere, if_neg notUp, if_neg goes, before]⟩

theorem walkDots {t : Tree} {l k : Location} {ps dots : List String} (each : ∀ step ∈ dots, step = ".")
    (found : t.walk l (ps ++ dots) = .ok (.present k .directory)) :
    t.walk l ps = .ok (.present k .directory) := by
  induction dots generalizing ps with
  | nil => rwa [List.append_nil] at found
  | cons step rest ih =>
    rw [List.append_cons] at found
    have longer := ih (fun s inside => each s (List.mem_cons_of_mem _ inside)) found
    obtain ⟨m, before⟩ := walkBefore longer
    have here : t.at? m = some .directory := walkEntry before
    have stays : t.walk m [step] = .ok (.present m .directory) := by
      rw [each step List.mem_cons_self]
      simp [walk, here]
    rw [walkAppend before, stays] at longer
    cases longer
    exact before

def start (t : Tree) (p : String) : Location := if isAbsolute p then [] else t.base

theorem followWalk {t : Tree} {p : String} {place : Place} (found : t.follow p = .ok place) :
    p ≠ "" ∧ Char.ofNat 0 ∉ p.toList ∧ t.walk (t.start p) (steps p) = .ok place := by
  unfold follow at found
  split at found <;> try contradiction
  split at found <;> try contradiction
  rename_i inside clear
  exact ⟨inside, by simpa using clear, found⟩

theorem followOfWalk {t : Tree} {p : String} (inside : p ≠ "") (clear : Char.ofNat 0 ∉ p.toList) :
    t.follow p = t.walk (t.start p) (steps p) := by
  simp [follow, inside, clear, start]

theorem followEntry {t : Tree} {p : String} {place : Place} (found : t.follow p = .ok place) :
    place.Holds t :=
  walkEntry (followWalk found).2.2

theorem followAt {t u : Tree} (base : u.base = t.base)
    (kept : ∀ k, t.at? k = some .directory → u.at? k = some .directory)
    {p : String} {place : Place} {e : Entry}
    (found : t.follow p = .ok place) (there : u.at? place.location = some e) :
    u.follow p = .ok (.present place.location e) := by
  obtain ⟨inside, clear, walked⟩ := followWalk found
  have same : u.start p = t.start p := by simp [start, base]
  rw [followOfWalk inside clear, same]
  exact walkAt kept walked there

theorem followBehind {t : Tree} {q name : String} {k : Location} (component : Component name)
    (clear : Char.ofNat 0 ∉ name.toList) (found : t.follow q = .ok (.present k .directory)) :
    t.follow (append q name) = .ok (t.child k name) := by
  obtain ⟨inside, clearPath, walked⟩ := followWalk found
  have clearBoth : Char.ofNat 0 ∉ (append q name).toList := by
    rw [containsAppend q name _ (by decide) (relativeOfWhole component.whole)]
    exact fun both => both.elim clearPath clear
  rw [followOfWalk (appendNotEmpty component) clearBoth, stepsBehind component]
  have same : t.start (append q name) = t.start q := by
    simp [start, absoluteAppend (relativeOfWhole component.whole)]
  rw [same]
  exact walkBehind component walked

theorem followWithin (t : Tree) (q : String) :
    ∃ l, ∀ name place, Component name → t.follow (append q name) = .ok place →
      place.location = l ++ [name] := by
  have steady {name} (component : Component name) {place} (found : t.follow (append q name) = .ok place) :
      t.walk (t.start q) (steps q ++ [name]) = .ok place := by
    have walked := (followWalk found).2.2
    rwa [stepsBehind component, start, absoluteAppend (relativeOfWhole component.whole)] at walked
  cases within : t.walk (t.start q) (steps q) with
  | error e =>
    refine ⟨[], fun name place component found => ?_⟩
    obtain ⟨k, before⟩ := walkBefore (steady component found)
    rw [within] at before
    contradiction
  | ok around =>
    refine ⟨around.location, fun name place component found => ?_⟩
    have walked := steady component found
    obtain ⟨k, before⟩ := walkBefore walked
    rw [within] at before
    cases before
    rw [walkBehind component within] at walked
    cases walked
    exact childLocation t k name

theorem locateFollow {t : Tree} {p : String} {place : Place} (found : t.locate p = .ok place) :
    t.follow p = .ok place := by
  unfold locate at found
  split at found
  · split at found <;> try contradiction
    rename_i same _
    rw [same, found]
  · exact found

theorem locateFile {t : Tree} {p : String} {k : Location} {c : Contents} :
    t.locate p = .ok (.present k (.file c)) ↔
      t.follow p = .ok (.present k (.file c)) ∧ endsInSlash p = false := by
  constructor
  · intro found
    have followed := locateFollow found
    refine ⟨followed, ?_⟩
    simp only [locate, followed] at found
    split at found <;> simp_all
  · rintro ⟨followed, noSlash⟩
    simp [locate, followed, noSlash]

theorem locateDirectory {t : Tree} {p : String} {k : Location}
    (followed : t.follow p = .ok (.present k .directory)) :
    t.locate p = .ok (.present k .directory) := by
  simp [locate, followed]

theorem presentLocate {t : Tree} {p : String} :
    t.present p = true ↔ ∃ k e, t.locate p = .ok (.present k e) := by
  unfold present
  split
  · rename_i k e found
    simp [found]
  · rename_i other
    simp only [Bool.false_eq_true, false_iff, not_exists]
    exact fun k e found => other k e found

theorem atListed {t : Tree} {l : Location} (inside : l ≠ []) :
    (t.at? l).isSome ↔ l ∈ t.entries.map (·.1) := by
  rw [at?, if_neg inside, Option.isSome_iff_ne_none, ne_eq, List.lookup_eq_none_iff]
  simp only [bne_iff_ne, List.mem_map, not_forall, ne_eq, not_not]
  exact exists_congr fun e => ⟨fun ⟨listed, same⟩ => ⟨listed, same.symm⟩,
    fun ⟨listed, same⟩ => ⟨listed, same.symm⟩⟩

theorem atEntry {t : Tree} {l : Location} {e : Entry} (inside : l ≠ []) :
    t.at? l = some e ↔ (l, e) ∈ t.entries := by
  rw [at?, if_neg inside, lookupListed t.distinct]

theorem namesAtMem {t : Tree} {l : Location} {name : String} :
    name ∈ t.namesAt l ↔ (t.at? (l ++ [name])).isSome := by
  rw [atListed (by simp), namesAt, sortedDistinctMem, List.mem_filterMap, List.mem_map]
  constructor
  · rintro ⟨⟨k, e⟩, listed, found⟩
    refine ⟨(k, e), listed, ?_⟩
    simp only at found
    split at found <;> try contradiction
    rename_i last ends
    split at found <;> try contradiction
    rename_i same
    cases found
    rw [← same]
    exact (List.dropLast_append_getLast? _ ends).symm
  · rintro ⟨⟨k, e⟩, listed, rfl⟩
    exact ⟨_, listed, by simp⟩

end Tree
end ApiScreens.Files
