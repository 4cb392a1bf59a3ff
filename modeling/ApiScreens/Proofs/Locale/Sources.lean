import ApiScreens.Locale.Sources
import ApiScreens.Proofs.Output.Replace
import ApiScreens.Proofs.Path.Parent

/-! The keys that sources use. They follow from the texts of the sources alone, so they stay the same when files
with other endings are written. Going down from the root, a directory with one of the skipped names is left out with
all that is in it; a file may have such a name, and so may the root. -/
namespace ApiScreens.Locale
open Files Files.Tree

structure SourceAt (t : Tree) (root : String) (l : Location) (names : List String) (source : String) : Prop where
  text : t.fileAt (l ++ names) = some (.text source)
  reached : isReached names = true
  ending : isSource ((names.getLast?).getD root) = true

theorem keyListed {t : Tree} {root key : String} {l : Location} :
    key ∈ (t.below l).flatMap (keysOf root) ↔
      ∃ names source, SourceAt t root l names source ∧ key ∈ keysUsed source := by
  rw [List.mem_flatMap]
  constructor
  · rintro ⟨⟨names, entry⟩, below, inside⟩
    cases entry with
    | directory => exact absurd inside List.not_mem_nil
    | file c =>
      cases c with
      | raw bytes => exact absurd inside List.not_mem_nil
      | text source =>
        simp only [keysOf, List.mem_ite_nil_right, Bool.and_eq_true] at inside
        obtain ⟨⟨reached, ending⟩, listed⟩ := inside
        exact ⟨names, source, ⟨belowFile.mp below, reached, ending⟩, listed⟩
  · rintro ⟨names, source, ⟨text, reached, ending⟩, listed⟩
    exact ⟨(names, .file (.text source)), belowFile.mpr text, by simp [keysOf, reached, ending, listed]⟩

theorem sourceNamed {p : String} (ending : isSource p = true) :
    ∃ name, Path.fileName p = some name ∧ name ≠ "common.json" := by
  unfold isSource Path.extension at ending
  cases named : Path.fileName p with
  | none => simp [named] at ending
  | some name =>
    refine ⟨name, rfl, ?_⟩
    rintro rfl
    rw [named] at ending
    revert ending
    decide

section
variable {apart : Location → Prop} {t u : Tree} {root : String} {l : Location} {e : Entry}
  (catalogs : ∀ k, apart k → k.getLast? = some "common.json") (spares : Spares apart t u)
  (found : t.locate root = .ok (.present l e))
include catalogs spares found

theorem sourceSpared {names : List String} (ending : isSource ((names.getLast?).getD root) = true) :
    u.fileAt (l ++ names) = t.fileAt (l ++ names) := by
  by_cases differs : apart (l ++ names)
  · have last := catalogs _ differs
    cases shape : names.getLast? with
    | some name =>
      rw [List.getLast?_append, shape, Option.some_or] at last
      rw [shape, Option.getD_some, Option.some.inj last] at ending
      exact absurd ending (by decide)
    | none =>
      rw [List.getLast?_eq_none_iff.mp shape, List.append_nil] at last ⊢
      rw [shape, Option.getD_none] at ending
      obtain ⟨name, named, other⟩ := sourceNamed ending
      cases e with
      | file c =>
        rw [Path.locatedName named found] at last
        exact absurd (Option.some.inj last) other
      | directory =>
        have here : t.at? l = some .directory := followEntry (locateFollow found)
        simp [fileAt, here, spares.directories l here]
  · exact spares.files _ differs

theorem sourceSame {names : List String} {source : String} :
    SourceAt u root l names source ↔ SourceAt t root l names source := by
  constructor
  · rintro ⟨text, reached, ending⟩
    exact ⟨sourceSpared catalogs spares found ending ▸ text, reached, ending⟩
  · rintro ⟨text, reached, ending⟩
    exact ⟨(sourceSpared catalogs spares found ending).symm ▸ text, reached, ending⟩

theorem usedSame : usedKeys u root = usedKeys t root := by
  obtain ⟨f, there, _⟩ := spares.locate found
  rw [usedKeys, usedKeys, found, there]
  refine sortedDistinctExt fun key => ?_
  simp only [keyListed, sourceSame catalogs spares found]

end

variable {t u : Tree} {root key : String} {l k : Location} {e : Entry} {names : List String}

def Grounded (t : Tree) : Prop := ∀ m ∈ t.entries, t.at? m.1.dropLast = some .directory

instance : Decidable (Grounded t) := inferInstanceAs (Decidable (∀ m ∈ t.entries, _))

/-- What is met on the way down from a location, with the names that lead there. -/
inductive Visited (t : Tree) (l : Location) : List String → Entry → Prop where
  | root {e : Entry} (here : t.at? l = some e) : Visited t l [] e
  | deeper {names : List String} {name : String} {e : Entry} (outer : Visited t l names .directory)
      (inside : t.at? (l ++ (names ++ [name])) = some e) (kept : e = .directory → name ∉ skippedDirectories) :
      Visited t l (names ++ [name]) e

theorem groundedAbove (grounded : Grounded t) {name : String} (here : t.at? (k ++ [name]) = some e) :
    t.at? k = some .directory := by
  have listed := (atEntry (by simp)).mp here
  simpa using grounded _ listed

theorem visitedThere (visited : Visited t l names e) : t.at? (l ++ names) = some e := by
  cases visited with
  | root here => rwa [List.append_nil]
  | deeper _ inside _ => exact inside

theorem visitedNames (visited : Visited t l names e) :
    (∀ name ∈ names.dropLast, name ∉ skippedDirectories) ∧
      (e = .directory → ∀ name ∈ names, name ∉ skippedDirectories) := by
  induction visited with
  | root => simp
  | deeper _ _ kept ih =>
    rw [List.dropLast_concat]
    refine ⟨ih.2 rfl, fun directory name inside => ?_⟩
    rcases List.mem_append.mp inside with before | last
    · exact ih.2 rfl name before
    · rw [List.mem_singleton.mp last]
      exact kept directory

theorem visitedOf (grounded : Grounded t) (there : t.at? (l ++ names) = some e)
    (clear : ∀ name ∈ names.dropLast, name ∉ skippedDirectories)
    (last : e = .directory → ∀ name ∈ names, name ∉ skippedDirectories) : Visited t l names e := by
  -- the last step is taken apart, since a directory is left out by its own name
  induction names using List.reverseRecOn generalizing e with
  | nil => exact .root (by rwa [List.append_nil] at there)
  | append_singleton names name ih =>
    rw [List.dropLast_concat] at clear
    have above : t.at? (l ++ names) = some .directory :=
      groundedAbove grounded (by rwa [← List.append_assoc] at there)
    have outer := ih above (fun n inside => clear n (List.mem_of_mem_dropLast inside)) fun _ => clear
    exact .deeper outer there fun directory => last directory name (by simp)

theorem visitedFile (grounded : Grounded t) {c : Contents} :
    Visited t l names (.file c) ↔ t.fileAt (l ++ names) = some c ∧ isReached names = true := by
  have reached : isReached names = true ↔ ∀ name ∈ names.dropLast, name ∉ skippedDirectories := by simp [isReached]
  rw [fileAtSome, reached]
  exact ⟨fun visited => ⟨visitedThere visited, (visitedNames visited).1⟩,
    fun ⟨there, clear⟩ => visitedOf grounded there clear nofun⟩

theorem keyUsed : key ∈ usedKeys t root ↔ ∃ l e names source, t.locate root = .ok (.present l e) ∧
    SourceAt t root l names source ∧ key ∈ keysUsed source := by
  unfold usedKeys
  split
  · rename_i l e found
    rw [sortedDistinctMem, keyListed]
    constructor
    · rintro ⟨names, source, at_, listed⟩
      exact ⟨l, e, names, source, found, at_, listed⟩
    · rintro ⟨_, _, names, source, again, at_, listed⟩
      cases found.symm.trans again
      exact ⟨names, source, at_, listed⟩
  · rename_i other
    constructor
    · nofun
    · rintro ⟨l, e, _, _, found, _⟩
      exact absurd found (other l e)

theorem usedAscending (t : Tree) (root : String) : (usedKeys t root).Pairwise (· < ·) := by
  unfold usedKeys
  split
  · exact sortedDistinctAscending _
  · exact .nil

theorem usedAbsent (absent : t.present root = false) : usedKeys t root = [] := by
  refine List.eq_nil_iff_forall_not_mem.mpr fun key listed => ?_
  obtain ⟨l, e, _, _, found, _⟩ := keyUsed.mp listed
  rw [presentLocate.mpr ⟨l, e, found⟩] at absent
  contradiction

section
variable {c : Contents} (file : t.fileAt k ≠ none)
include file

theorem putReplaces : Replaces t (t.put k (.file c)) k c :=
  ⟨rfl, fun directory => file (by simp [fileAt, directory])⟩

theorem putBack : Spares (· = k) (t.put k (.file c)) t where
  base := rfl
  directories m here := by
    rw [(putReplaces file).entry m] at here
    split at here
    · cases here
    · exact here
  stay m d here := by
    rw [(putReplaces file).file m] at here
    split at here
    · rename_i same
      exact Option.ne_none_iff_exists'.mp (same ▸ file)
    · exact ⟨d, here⟩
  files m other := by rw [(putReplaces file).file m, if_neg other]

theorem putLocated : (∃ e, (t.put k (.file c)).locate root = .ok (.present l e)) ↔
    ∃ e, t.locate root = .ok (.present l e) := by
  constructor
  · rintro ⟨e, found⟩
    obtain ⟨f, there, _⟩ := (putBack file).locate found
    exact ⟨f, there⟩
  · rintro ⟨e, found⟩
    obtain ⟨f, there, _⟩ := (Spares.ofReplaces (putReplaces file)).locate found
    exact ⟨f, there⟩

theorem sourceUnreadable {bytes : List UInt8} {source : String} :
    SourceAt (t.put k (.file (.raw bytes))) root l names source ↔
      l ++ names ≠ k ∧ SourceAt t root l names source := by
  have text : (t.put k (.file (.raw bytes))).fileAt (l ++ names) = some (.text source) ↔
      l ++ names ≠ k ∧ t.fileAt (l ++ names) = some (.text source) := by
    rw [(putReplaces file).file]
    split <;> simp_all
  constructor
  · rintro ⟨there, reached, ending⟩
    exact ⟨(text.mp there).1, (text.mp there).2, reached, ending⟩
  · rintro ⟨other, there, reached, ending⟩
    exact ⟨text.mpr ⟨other, there⟩, reached, ending⟩

theorem usedUnreadable (bytes : List UInt8) : key ∈ usedKeys (t.put k (.file (.raw bytes))) root ↔
    ∃ l e names source, t.locate root = .ok (.present l e) ∧ l ++ names ≠ k ∧ SourceAt t root l names source ∧
      key ∈ keysUsed source := by
  rw [keyUsed]
  simp only [sourceUnreadable file]
  constructor
  · rintro ⟨l, e, names, source, found, ⟨other, at_⟩, listed⟩
    obtain ⟨f, there⟩ := (putLocated file).mp ⟨e, found⟩
    exact ⟨l, f, names, source, there, other, at_, listed⟩
  · rintro ⟨l, e, names, source, found, other, at_, listed⟩
    obtain ⟨f, there⟩ := (putLocated file).mpr ⟨e, found⟩
    exact ⟨l, f, names, source, there, ⟨other, at_⟩, listed⟩

end

theorem usedExactly (t : Tree) (root : String) :
    (∀ key, key ∈ usedKeys t root ↔ ∃ l e names source, t.locate root = .ok (.present l e) ∧
      SourceAt t root l names source ∧ key ∈ keysUsed source) ∧
    (Grounded t → ∀ l names c,
      Visited t l names (.file c) ↔ t.fileAt (l ++ names) = some c ∧ isReached names = true) ∧
    (usedKeys t root).Pairwise (· < ·) ∧
    (t.present root = false → usedKeys t root = []) ∧
    ∀ k bytes, t.fileAt k ≠ none → ∀ key, key ∈ usedKeys (t.put k (.file (.raw bytes))) root ↔
      ∃ l e names source, t.locate root = .ok (.present l e) ∧ l ++ names ≠ k ∧ SourceAt t root l names source ∧
        key ∈ keysUsed source :=
  ⟨fun _ => keyUsed, fun grounded _ _ _ => visitedFile grounded, usedAscending t root, usedAbsent,
    fun _ bytes file _ => usedUnreadable file bytes⟩

theorem distScanned :
    let t : Tree := .ofList [] [(["dist"], .directory), (["dist", "b.tsx"], .file (.text "t('y')")),
      (["dist", "c.js"], .file (.text "t('z')")), (["dist", "dist"], .directory),
      (["dist", "dist", "a.ts"], .file (.text "t('x')"))]
    Grounded t ∧ Visited t ["dist"] ["b.tsx"] (.file (.text "t('y')")) ∧
      (¬Visited t ["dist"] ["dist", "a.ts"] (.file (.text "t('x')"))) ∧
      (t.present "lib" = false ∧ usedKeys t "lib" = []) ∧
      t.fileAt ["dist", "c.js"] ≠ none ∧ "y" ∈ usedKeys (t.put ["dist", "c.js"] (.file (.raw [255]))) "dist" := by
  intro t
  have grounded : Grounded t := by decide +kernel
  have absent : t.present "lib" = false := by decide +kernel
  have file : t.fileAt ["dist", "c.js"] ≠ none := by decide +kernel
  obtain ⟨_, visited, _, empty, others⟩ := usedExactly t "dist"
  refine ⟨grounded, (visited grounded _ _ _).mpr (by decide +kernel), fun inside => ?_,
    ⟨absent, (usedExactly t "lib").2.2.2.1 absent⟩, file, (others _ [255] file _).mpr ?_⟩
  · exact absurd ((visited grounded _ _ _).mp inside) (by decide +kernel)
  · exact ⟨["dist"], .directory, ["b.tsx"], "t('y')", by decide +kernel, by decide,
      ⟨by decide +kernel, by decide +kernel, by decide +kernel⟩, by decide +kernel⟩

end ApiScreens.Locale
