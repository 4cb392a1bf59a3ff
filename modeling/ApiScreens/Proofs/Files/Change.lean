import ApiScreens.Proofs.Files.Walk

/-! What changes of a tree leave as it was. A write touches the file at one location and nothing else;
making directories touches no file at all, whether it succeeds or not. What is made through a path has a name that a
path can spell, so no change of a tree brings in another one. -/
namespace ApiScreens.Files.Tree
open ApiScreens.Path Text

def fileAt (t : Tree) (l : Location) : Option Contents :=
  match t.at? l with
  | some (.file c) => some c
  | _ => none

theorem fileAtSome {t : Tree} {l : Location} {c : Contents} :
    t.fileAt l = some c ↔ t.at? l = some (.file c) := by
  unfold fileAt
  split
  · rename_i same
    simp [same]
  · rename_i other
    simp only [reduceCtorEq, false_iff]
    exact fun same => other c same

theorem belowFile {t : Tree} {l : Location} {names : List String} {c : Contents} :
    (names, .file c) ∈ t.below l ↔ t.fileAt (l ++ names) = some c := by
  rw [fileAtSome, below, List.mem_append, List.mem_filterMap]
  by_cases root : names = []
  · subst root
    rw [List.append_nil]
    constructor
    · rintro (here | ⟨⟨k, e⟩, _, cut⟩)
      · cases found : t.at? l with
        | none => simp [found] at here
        | some e => simpa [found, eq_comm] using here
      · simp only [Option.ite_none_right_eq_some, Bool.and_eq_true, List.isPrefixOf_iff_prefix,
          decide_eq_true_eq, Option.some.injEq, Prod.mk.injEq] at cut
        obtain ⟨⟨⟨rest, rfl⟩, differs⟩, dropped, _⟩ := cut
        rw [List.drop_left] at dropped
        exact absurd (by rw [dropped, List.append_nil]) differs
    · intro found
      exact .inl (by simp [found])
  · rw [atEntry (by simp [root])]
    constructor
    · rintro (here | ⟨⟨k, e⟩, listed, cut⟩)
      · cases found : t.at? l with
        | none => simp [found] at here
        | some e => simp [found, root] at here
      · simp only [Option.ite_none_right_eq_some, Bool.and_eq_true, List.isPrefixOf_iff_prefix,
          decide_eq_true_eq, Option.some.injEq, Prod.mk.injEq] at cut
        obtain ⟨⟨⟨rest, rfl⟩, _⟩, dropped, rfl⟩ := cut
        rw [List.drop_left] at dropped
        exact dropped ▸ listed
    · intro listed
      exact .inr ⟨_, listed, by simp [root]⟩

theorem rootDirectory (t : Tree) : t.at? [] = some .directory := by simp [at?]

structure Replaces (t u : Tree) (l : Location) (c : Contents) : Prop where
  change : u = t.put l (.file c)
  noDirectory : t.at? l ≠ some .directory

namespace Replaces
variable {t u : Tree} {l : Location} {c : Contents}

theorem inside (r : Replaces t u l c) : l ≠ [] := by
  rintro rfl
  exact r.noDirectory (rootDirectory t)

theorem entry (r : Replaces t u l c) (k : Location) :
    u.at? k = if k = l then some (.file c) else t.at? k := by
  rw [r.change, atPut t l k _ r.inside]

theorem file (r : Replaces t u l c) (k : Location) :
    u.fileAt k = if k = l then some c else t.fileAt k := by
  unfold fileAt
  rw [r.entry k]
  by_cases same : k = l <;> simp [same]

theorem base (r : Replaces t u l c) : u.base = t.base := by rw [r.change]; rfl

theorem directories (r : Replaces t u l c) (k : Location) (here : t.at? k = some .directory) :
    u.at? k = some .directory := by
  rw [r.entry k]
  split
  · rename_i same
    exact absurd (same ▸ here) r.noDirectory
  · exact here

theorem leads (r : Replaces t u l c) {p : String} {place : Place}
    (found : t.follow p = .ok place) (same : place.location = l) :
    u.follow p = .ok (.present l (.file c)) := by
  have there : u.at? place.location = some (.file c) := by simp [r.entry, same]
  rw [followAt r.base r.directories found there, same]

theorem others (r : Replaces t u l c) {p : String} {k : Location} {e : Entry}
    (found : t.follow p = .ok (.present k e)) (differs : k ≠ l) :
    u.follow p = .ok (.present k e) := by
  have there : u.at? k = some e := by
    rw [r.entry k, if_neg differs]
    exact followEntry found
  exact followAt r.base r.directories found there

end Replaces

def Place.Writable : Place → Prop
  | .present _ .directory => False
  | .present _ (.file _) => True
  | .free _ => True

theorem writeOfPlace {t : Tree} {p : String} {place : Place} (c : Contents)
    (found : t.follow p = .ok place) (writable : place.Writable) (noSlash : endsInSlash p = false) :
    t.write p c = .ok (t.put place.location (.file c)) := by
  unfold write
  rw [found]
  match place, writable with
  | .present l (.file old), _ => simp [noSlash, Place.location]
  | .free l, _ => simp [noSlash, Place.location]

theorem writeDone {t u : Tree} {p : String} {c : Contents} (done : t.write p c = .ok u) :
    ∃ place, t.follow p = .ok place ∧ place.Writable ∧ endsInSlash p = false ∧
      Replaces t u place.location c := by
  unfold write at done
  split at done
  · contradiction
  · rename_i l old found
    split at done <;> try contradiction
    rename_i noSlash
    have here : t.at? l = some (.file old) := followEntry found
    exact ⟨_, found, trivial, by simpa using noSlash, by simpa [Place.location] using done.symm,
      by simp [Place.location, here]⟩
  · rename_i l found
    split at done <;> try contradiction
    rename_i noSlash
    have here : t.at? l = none := (followEntry found).1
    exact ⟨_, found, trivial, by simpa using noSlash, by simpa [Place.location] using done.symm,
      by simp [Place.location, here]⟩
  · contradiction

theorem copyDone {t u : Tree} {source target : String} (done : t.copy source target = .ok u) :
    ∃ k c, t.locate source = .ok (.present k (.file c)) ∧ t.write target c = .ok u := by
  unfold copy at done
  split at done <;> try contradiction
  rename_i k c found
  exact ⟨k, c, found, done⟩

structure Grows (t u : Tree) : Prop where
  base : u.base = t.base
  entries : ∀ k e, t.at? k = some e → u.at? k = some e
  files : ∀ k, u.fileAt k = t.fileAt k

namespace Grows

theorem refl (t : Tree) : Grows t t := ⟨rfl, fun _ _ here => here, fun _ => rfl⟩

theorem trans {t u v : Tree} (first : Grows t u) (second : Grows u v) : Grows t v :=
  ⟨second.base.trans first.base, fun k e here => second.entries k e (first.entries k e here),
    fun k => (second.files k).trans (first.files k)⟩

theorem follow {t u : Tree} (grows : Grows t u) {p : String} {k : Location} {e : Entry}
    (found : t.follow p = .ok (.present k e)) : u.follow p = .ok (.present k e) :=
  followAt grows.base (fun k here => grows.entries k _ here) found
    (grows.entries k e (followEntry found))

theorem locate {t u : Tree} (grows : Grows t u) {p : String} {k : Location} {e : Entry}
    (found : t.locate p = .ok (.present k e)) : u.locate p = .ok (.present k e) := by
  cases e with
  | directory => exact locateDirectory (grows.follow (locateFollow found))
  | file c =>
    obtain ⟨followed, noSlash⟩ := locateFile.mp found
    exact locateFile.mpr ⟨grows.follow followed, noSlash⟩

end Grows

theorem makeDirectoryGrows {t u : Tree} {p : String} (done : t.makeDirectory p = .ok u) :
    Grows t u := by
  unfold makeDirectory at done
  split at done <;> try contradiction
  rename_i l found
  obtain ⟨free, inside⟩ := followEntry found
  cases done
  refine ⟨rfl, fun k e here => ?_, fun k => ?_⟩
  · rw [atPut t l k _ inside]
    split
    · rename_i same
      rw [same, free] at here
      contradiction
    · exact here
  · unfold fileAt
    rw [atPut t l k _ inside]
    by_cases same : k = l <;> simp [same, free]

theorem settleGrows {t : Tree} {p : String} {attempt : Except FileError Tree}
    (made : ∀ u, attempt = .ok u → Grows t u) : Grows t (t.settle p attempt).1 := by
  cases attempt with
  | ok u => exact made u rfl
  | error e => exact Grows.refl t

theorem makeFromGrows (t : Tree) (ps : List String) : Grows t (t.makeFrom ps).1 := by
  induction ps with
  | nil => exact Grows.refl t
  | cons p outer ih =>
    unfold makeFrom
    split
    · split
      · rename_i u made
        rw [made] at ih
        exact ih.trans (settleGrows fun v done => makeDirectoryGrows done)
      · rename_i u e made
        rwa [made] at ih
    · exact settleGrows fun v done => makeDirectoryGrows done

theorem makeDirectoriesGrows (t : Tree) (p : String) : Grows t (t.makeDirectories p).1 :=
  makeFromGrows t _

theorem makeDirectoriesPresent {t : Tree} {p : String} {k : Location} (inside : p ≠ "")
    (found : t.follow p = .ok (.present k .directory)) : t.makeDirectories p = (t, none) := by
  have here : t.isDirectory p = true := by simp [isDirectory, locateDirectory found]
  have refused : t.makeDirectory p = .error .alreadyThere := by simp [makeDirectory, found]
  unfold makeDirectories ancestors
  rw [if_neg inside]
  unfold makeFrom
  simp [refused, settle, here]

def WellNamed (t : Tree) : Prop := ∀ l name e, t.at? (l ++ [name]) = some e → Component name

theorem wellNamedEntries {t : Tree} (each : ∀ e ∈ t.entries, ∀ name ∈ e.1.getLast?, Component name) :
    t.WellNamed := by
  intro l name e here
  exact each (l ++ [name], e) ((atEntry (by simp)).mp here) name (by simp)

theorem stepSegment {p step : String} (listed : step ∈ steps p) : Segment step := by
  rw [stepsOfPieces] at listed
  obtain ⟨piece, kept, same⟩ := List.mem_map.mp listed
  obtain ⟨cut, inside⟩ := List.mem_filter.mp kept
  subst same
  refine ⟨fun slash => ?_, ?_⟩
  · have clear := pieceClear cut '/' (by simpa using slash)
    simp at clear
  · simpa [String.ofList_eq_empty_iff] using inside

theorem walkFree {t : Tree} {l m : Location} {ps : List String} (segments : ∀ step ∈ ps, Segment step)
    (found : t.walk l ps = .ok (.free m)) : ∃ k name, m = k ++ [name] ∧ Component name := by
  induction ps generalizing l with
  | nil =>
    obtain ⟨e, _, impossible⟩ := walkEnd found
    contradiction
  | cons step rest ih =>
    have later : ∀ s ∈ rest, Segment s := fun s inside => segments s (List.mem_cons_of_mem _ inside)
    obtain ⟨_, stays | up | last | down⟩ := walkStep found
    · exact ih later stays.2
    · exact ih later up.2.2
    · obtain ⟨notHere, notUp, _, _, same⟩ := last
      exact ⟨l, step, by simpa using same, segments step List.mem_cons_self, notHere, notUp⟩
    · exact ih later down.2.2.2

theorem followFree {t : Tree} {p : String} {m : Location} (found : t.follow p = .ok (.free m)) :
    ∃ k name, m = k ++ [name] ∧ Component name :=
  walkFree (fun _ listed => stepSegment listed) (followWalk found).2.2

namespace WellNamed
variable {t u : Tree}

theorem put {p : String} {place : Place} (named : t.WellNamed) (found : t.follow p = .ok place)
    (inside : place.location ≠ []) (e : Entry) : (t.put place.location e).WellNamed := by
  intro l name f there
  rw [atPut t _ _ e inside] at there
  split at there
  · rename_i same
    cases place with
    | present k old =>
      have here : t.at? k = some old := followEntry found
      rw [show k = l ++ [name] from same.symm] at here
      exact named l name old here
    | free k =>
      obtain ⟨m, step, shape, component⟩ := followFree found
      rw [show k = l ++ [name] from same.symm] at shape
      rwa [(List.append_singleton_inj.mp shape).2]
  · exact named l name f there

theorem write {p : String} {c : Contents} (named : t.WellNamed) (done : t.write p c = .ok u) :
    u.WellNamed := by
  obtain ⟨place, found, _, _, replaces⟩ := writeDone done
  rw [replaces.change]
  exact named.put found replaces.inside _

theorem copy {source target : String} (named : t.WellNamed) (done : t.copy source target = .ok u) :
    u.WellNamed := by
  obtain ⟨_, _, _, written⟩ := copyDone done
  exact named.write written

theorem makeDirectory {p : String} (named : t.WellNamed) (done : t.makeDirectory p = .ok u) :
    u.WellNamed := by
  unfold Tree.makeDirectory at done
  split at done <;> try contradiction
  rename_i l found
  cases done
  exact named.put found (followEntry found).2 _

theorem settle {p : String} {attempt : Except FileError Tree} (named : t.WellNamed)
    (made : ∀ u, attempt = .ok u → u.WellNamed) : (t.settle p attempt).1.WellNamed := by
  cases attempt with
  | ok u => exact made u rfl
  | error e => exact named

theorem makeFrom (named : t.WellNamed) (ps : List String) : (t.makeFrom ps).1.WellNamed := by
  induction ps with
  | nil => exact named
  | cons p outer ih =>
    unfold Tree.makeFrom
    split
    · split
      · rename_i u made
        rw [made] at ih
        exact ih.settle fun v done => ih.makeDirectory done
      · rename_i u e made
        rwa [made] at ih
    · exact named.settle fun v done => named.makeDirectory done

theorem makeDirectories (named : t.WellNamed) (p : String) : (t.makeDirectories p).1.WellNamed :=
  named.makeFrom _

end WellNamed
end ApiScreens.Files.Tree
