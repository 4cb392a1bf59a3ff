import ApiScreens.Proofs.Files.Change

/-! Trees that are the same but for the contents of some files. Nothing that finds or makes a place looks at
what a file holds, so whatever is done to both of them comes out alike and they stay the same but for these. -/
namespace ApiScreens.Files

inductive Entry.SameBut (a b : Contents) : Entry → Entry → Prop where
  | directory : SameBut a b .directory .directory
  | file (c : Contents) : SameBut a b (.file c) (.file c)
  | other : SameBut a b (.file a) (.file b)

inductive Tree.Place.SameBut (a b : Contents) : Tree.Place → Tree.Place → Prop where
  | present (l : Location) {e x : Entry} (entry : Entry.SameBut a b e x) :
      SameBut a b (.present l e) (.present l x)
  | free (l : Location) : SameBut a b (.free l) (.free l)

inductive Both {α β : Type} (R : α → β → Prop) : Except FileError α → Except FileError β → Prop where
  | ok {x : α} {y : β} (related : R x y) : Both R (.ok x) (.ok y)
  | error (e : FileError) : Both R (.error e) (.error e)

namespace Tree

structure SameBut (a b : Contents) (t u : Tree) : Prop where
  base : u.base = t.base
  size : u.entries.length = t.entries.length
  places : ∀ l, Option.Rel (Entry.SameBut a b) (t.at? l) (u.at? l)

variable {a b : Contents}

theorem putSize {t : Tree} {l : Location} (inside : l ≠ []) (e : Entry) :
    (t.put l e).entries.length = if t.at? l = none then t.entries.length + 1 else t.entries.length := by
  have keys := congrArg List.length (putEntryKeys l e t.entries)
  rw [List.length_map] at keys
  have listed : l ∈ t.entries.map (·.1) ↔ t.at? l ≠ none := by
    rw [← atListed inside, Option.isSome_iff_ne_none]
  simp only [put, keys, listed]
  by_cases free : t.at? l = none <;> simp [free]

namespace SameBut
variable {t u : Tree} (same : SameBut a b t u)
include same

theorem absent (l : Location) : u.at? l = none ↔ t.at? l = none := by
  have here := same.places l
  generalize t.at? l = e, u.at? l = x at here
  cases here <;> simp

theorem put {l : Location} (inside : l ≠ []) {e x : Entry} (entry : Entry.SameBut a b e x) :
    SameBut a b (t.put l e) (u.put l x) where
  base := same.base
  size := by simp only [putSize inside, same.absent, same.size]
  places k := by
    rw [atPut t l k e inside, atPut u l k x inside]
    split
    · exact .some entry
    · exact same.places k

theorem walk (l : Location) (steps : List String) :
    Both (Place.SameBut a b) (t.walk l steps) (u.walk l steps) := by
  induction steps generalizing l with
  | nil =>
    have here := same.places l
    unfold Tree.walk
    generalize t.at? l = e, u.at? l = x at here
    cases here with
    | none => exact .error _
    | some entry => exact .ok (.present l entry)
  | cons step rest ih =>
    have here := same.places l
    have absent := same.absent (l ++ [step])
    unfold Tree.walk
    generalize t.at? l = e, u.at? l = x at here
    cases here with
    | none => exact .error _
    | some entry =>
      cases entry with
      | file c => exact .error _
      | other => exact .error _
      | directory =>
        simp only [absent]
        split_ifs
        · exact ih l
        · exact ih l.dropLast
        · exact .ok (.free _)
        · exact ih _

theorem follow (p : String) : Both (Place.SameBut a b) (t.follow p) (u.follow p) := by
  unfold Tree.follow
  rw [same.base]
  split_ifs
  · exact .error _
  · exact .error _
  · exact same.walk _ _
  · exact same.walk _ _

theorem locate (p : String) : Both (Place.SameBut a b) (t.locate p) (u.locate p) := by
  have both := same.follow p
  unfold Tree.locate
  generalize t.follow p = x, u.follow p = y at both
  cases both with
  | error e => exact .error e
  | ok place =>
    cases place with
    | free l => exact .ok (.free l)
    | present l entry =>
      cases entry with
      | directory => exact .ok (.present l .directory)
      | file c =>
        simp only
        split_ifs
        · exact .error _
        · exact .ok (.present l (.file c))
      | other =>
        simp only
        split_ifs
        · exact .error _
        · exact .ok (.present l .other)

theorem present (p : String) : u.present p = t.present p := by
  have both := same.locate p
  unfold Tree.present
  generalize t.locate p = x, u.locate p = y at both
  cases both with
  | error e => rfl
  | ok place => cases place <;> rfl

theorem isDirectory (p : String) : u.isDirectory p = t.isDirectory p := by
  have both := same.locate p
  unfold Tree.isDirectory
  generalize t.locate p = x, u.locate p = y at both
  cases both with
  | error e => rfl
  | ok place =>
    cases place with
    | free l => rfl
    | present l entry => cases entry <;> rfl

theorem write (p : String) {c d : Contents} (contents : Entry.SameBut a b (.file c) (.file d)) :
    Both (SameBut a b) (t.write p c) (u.write p d) := by
  have both := same.follow p
  have holds := fun place (found : t.follow p = .ok place) => followEntry found
  unfold Tree.write
  generalize t.follow p = x, u.follow p = y at both holds
  have file {l : Location} (inside : l ≠ []) :
      Both (SameBut a b)
        (if endsInSlash p then .error .isDirectory else .ok (t.put l (.file c)))
        (if endsInSlash p then .error .isDirectory else .ok (u.put l (.file d))) := by
    split_ifs
    · exact .error _
    · exact .ok (same.put inside contents)
  have notRoot {l : Location} {old : Contents} (there : t.at? l = some (.file old)) : l ≠ [] := by
    rintro rfl
    rw [rootDirectory] at there
    cases there
  cases both with
  | error e => exact .error e
  | ok place =>
    cases place with
    | free l => exact file (holds _ rfl).2
    | present l entry =>
      cases entry with
      | directory => exact .error _
      | file old => exact file (notRoot (holds _ rfl))
      | other => exact file (notRoot (holds _ rfl))

theorem copy (source target : String) : Both (SameBut a b) (t.copy source target) (u.copy source target) := by
  have both := same.locate source
  unfold Tree.copy
  generalize t.locate source = x, u.locate source = y at both
  cases both with
  | error e => exact .error e
  | ok place =>
    cases place with
    | free l => exact .error _
    | present l entry =>
      cases entry with
      | directory => exact .error _
      | file c => exact same.write target (.file c)
      | other => exact same.write target .other

theorem makeDirectory (p : String) : Both (SameBut a b) (t.makeDirectory p) (u.makeDirectory p) := by
  have both := same.follow p
  have holds := fun place (found : t.follow p = .ok place) => followEntry found
  unfold Tree.makeDirectory
  generalize t.follow p = x, u.follow p = y at both holds
  cases both with
  | error e => exact .error e
  | ok place =>
    cases place with
    | present l entry => exact .error _
    | free l => exact .ok (same.put (holds _ rfl).2 .directory)

theorem settle (p : String) {attempt other : Except FileError Tree} (both : Both (SameBut a b) attempt other) :
    (u.settle p other).2 = (t.settle p attempt).2 ∧
      SameBut a b (t.settle p attempt).1 (u.settle p other).1 := by
  cases both with
  | ok made => exact ⟨rfl, made⟩
  | error e =>
    rw [Tree.settle, Tree.settle, same.isDirectory p]
    exact ⟨rfl, same⟩

theorem makeFrom (ps : List String) :
    (u.makeFrom ps).2 = (t.makeFrom ps).2 ∧ SameBut a b (t.makeFrom ps).1 (u.makeFrom ps).1 := by
  induction ps with
  | nil => exact ⟨rfl, same⟩
  | cons p outer ih =>
    have both := same.makeDirectory p
    unfold Tree.makeFrom
    generalize t.makeDirectory p = x, u.makeDirectory p = y at both
    cases both with
    | ok made => exact same.settle p (.ok made)
    | error e =>
      cases e with
      | missing =>
        simp only
        generalize t.makeFrom outer = x, u.makeFrom outer = y at ih
        obtain ⟨t, _ | e⟩ := x <;> obtain ⟨u, _ | e⟩ := y <;> obtain ⟨result, later⟩ := ih
        · exact later.settle p (later.makeDirectory p)
        · contradiction
        · contradiction
        · exact ⟨result, later⟩
      | _ => exact same.settle p (.error _)

theorem makeDirectories (p : String) :
    (u.makeDirectories p).2 = (t.makeDirectories p).2 ∧
      SameBut a b (t.makeDirectories p).1 (u.makeDirectories p).1 :=
  same.makeFrom _

end SameBut

theorem readDone {t : Tree} {p : String} {c : Contents} (read : t.read p = .ok c) :
    ∃ l, t.follow p = .ok (.present l (.file c)) := by
  unfold Tree.read at read
  split at read <;> try contradiction
  rename_i l old found
  cases read
  exact ⟨l, locateFollow found⟩

theorem rewritten {t u : Tree} {p : String} (read : t.read p = .ok a) (wrote : t.write p b = .ok u) :
    SameBut a b t u := by
  obtain ⟨l, followed⟩ := readDone read
  obtain ⟨place, found, _, _, changed⟩ := writeDone wrote
  rw [followed] at found
  cases found
  have here : t.at? l = some (.file a) := followEntry followed
  refine ⟨changed.base, ?_, fun k => ?_⟩
  · rw [changed.change, putSize changed.inside]
    simp [Place.location, here]
  · rw [changed.entry k]
    split
    · rename_i at_
      rw [at_]
      simp only [Place.location, here]
      exact .some .other
    · cases t.at? k with
      | none => exact .none
      | some e => cases e with
        | directory => exact .some .directory
        | file c => exact .some (.file c)

end Tree
end ApiScreens.Files
