import ApiScreens.Proofs.Files.Change
import ApiScreens.Proofs.Module.RoundTrip
import ApiScreens.Proofs.Path.Parent
import ApiScreens.Solutions.Directory

/-! A directory that holds configuration files and nothing else, seen as a map from file names to solutions.
Writing a file there is an insertion into the map, and all that the map holds is loaded. -/
namespace ApiScreens
open Files ApiScreens.Path

structure ConfigStem (stem : String) : Prop extends Segment stem where
  clear : Char.ofNat 0 ∉ stem.toList

def configFile (stem : String) : String := stem ++ ".json"

theorem configFileParts (stem : String) : configFile stem = stem ++ "." ++ "json" := by
  rw [configFile, String.append_assoc]
  rfl

theorem configFileInjective : Function.Injective configFile := by
  intro a b same
  exact (String.append_left_inj ".json").mp same

namespace ConfigStem
variable {stem : String}

theorem component (s : Segment stem) : Component (configFile stem) :=
  componentOfMark (c := 'j') (by simp [configFile, s.whole]) (by simp [configFile]) (by decide)

theorem fileClear (s : ConfigStem stem) : Char.ofNat 0 ∉ (configFile stem).toList := by
  have ending : Char.ofNat 0 ∉ ".json".toList := by decide
  rw [configFile, String.toList_append, List.mem_append]
  exact fun both => both.elim s.clear ending

theorem split (inside : stem ≠ "") : splitName (configFile stem) = (stem, some "json") := by
  rw [configFileParts]
  exact splitNameDot inside (by decide)

theorem stemOf (s : ConfigStem stem) (q : String) : Path.stem (append q (configFile stem)) = some stem := by
  have component := component s.toSegment
  rw [configFileParts] at component ⊢
  exact stemAppend s.nonempty (by decide) component

theorem ending (s : ConfigStem stem) (q : String) : Path.ending (append q (configFile stem)) = ".json" := by
  have component := component s.toSegment
  rw [configFileParts] at component
  rw [Path.ending, configFileParts, extensionAppend s.nonempty (by decide) component]
  rfl

end ConfigStem

namespace Solutions

structure Stored (t : Tree) (directory : String) (k : Location) (files : SortedMap Solution) : Prop where
  follow : t.follow directory = .ok (.present k .directory)
  entry : ∀ name, t.at? (k ++ [name]) = (files.get? name).map fun s => .file (.text s.toJson.pretty)
  named : ∀ name ∈ files.keys, ∃ stem, ConfigStem stem ∧ name = configFile stem

namespace Stored
variable {t : Tree} {directory : String} {k : Location} {files : SortedMap Solution}

theorem namesAt (stored : Stored t directory k files) : t.namesAt k = files.keys := by
  refine SortedMap.keysExt fun name => ?_
  have listed : name ∈ t.namesAt k ↔ name ∈ files.keys := by
    rw [Tree.namesAtMem, stored.entry, Option.isSome_map, ← SortedMap.hasKey, SortedMap.has]
  exact listed

theorem empty {t : Tree} {directory : String} (none : t.names directory = .ok []) :
    ∃ k, Stored t directory k .empty := by
  unfold Tree.names at none
  split at none <;> try contradiction
  rename_i k found
  refine ⟨k, Tree.locateFollow found, fun name => ?_, fun name inside => absurd inside List.not_mem_nil⟩
  have absent : name ∉ t.namesAt k := by simp [Except.ok.inj none]
  rw [Tree.namesAtMem, Bool.not_eq_true, Option.isSome_eq_false_iff, Option.isNone_iff_eq_none] at absent
  rw [absent, SortedMap.getEmpty, Option.map_none]

theorem behind (stored : Stored t directory k files) {q stem : String}
    (around : t.follow q = .ok (.present k .directory)) (named : ConfigStem stem) :
    t.follow (append q (configFile stem)) = .ok (match files.get? (configFile stem) with
      | some s => .present (k ++ [configFile stem]) (.file (.text s.toJson.pretty))
      | none => .free (k ++ [configFile stem])) := by
  rw [Tree.followBehind (ConfigStem.component named.toSegment) named.fileClear around, Tree.child,
    stored.entry]
  cases files.get? (configFile stem) <;> rfl

theorem write (stored : Stored t directory k files) {q stem : String}
    (around : t.follow q = .ok (.present k .directory)) (named : ConfigStem stem) (s : Solution) :
    ∃ u, t.write (append q (configFile stem)) (.text s.toJson.pretty) = .ok u ∧
      Stored u directory k (files.insert (configFile stem) s) ∧
      u.follow q = .ok (.present k .directory) := by
  have found := stored.behind around named
  have noSlash : Tree.endsInSlash (append q (configFile stem)) = false :=
    appendNoSlash (ConfigStem.component named.toSegment)
  have entry := stored.entry (configFile stem)
  obtain ⟨u, done, changed⟩ : ∃ u, t.write (append q (configFile stem)) (.text s.toJson.pretty) = .ok u ∧
      Tree.Replaces t u (k ++ [configFile stem]) (.text s.toJson.pretty) := by
    cases known : files.get? (configFile stem) with
    | none =>
      rw [known] at found entry
      exact ⟨_, Tree.writeOfPlace _ found trivial noSlash, rfl, by simp [entry]⟩
    | some old =>
      rw [known] at found entry
      exact ⟨_, Tree.writeOfPlace _ found trivial noSlash, rfl, by simp [entry]⟩
  have apart : k ≠ k ++ [configFile stem] := by simp
  refine ⟨u, done, ⟨changed.others stored.follow apart, fun name => ?_, fun name inside => ?_⟩,
    changed.others around apart⟩
  · rw [changed.entry, SortedMap.getInsert, stored.entry]
    by_cases same : name = configFile stem <;> simp [same]
  · obtain ⟨e, there, rfl⟩ := List.mem_map.mp inside
    rcases SortedMap.entryInsert.mp there with rfl | ⟨before, _⟩
    · exact ⟨stem, named, rfl⟩
    · exact stored.named _ (List.mem_map_of_mem before)

theorem candidates (stored : Stored t directory k files) :
    Solutions.candidates t directory = .ok (files.entries.map fun e =>
      ⟨append directory e.1, Naming.camel (splitName e.1).1, .ok e.2⟩) := by
  have names : t.names directory = .ok files.keys := by
    rw [Tree.names, Tree.locateDirectory stored.follow]
    simp only [stored.namesAt]
  have each : ∀ e ∈ files.entries, candidate t directory e.1 =
      some ⟨append directory e.1, Naming.camel (splitName e.1).1, .ok e.2⟩ := by
    rintro ⟨name, s⟩ inside
    obtain ⟨stem, config, rfl⟩ := stored.named name (List.mem_map_of_mem inside)
    have found := stored.behind stored.follow config
    rw [SortedMap.entryOfGet.mpr inside] at found
    have read : Solutions.read t (append directory (configFile stem)) = .ok s := by
      have noSlash : Tree.endsInSlash (append directory (configFile stem)) = false :=
        appendNoSlash (ConfigStem.component config.toSegment)
      simp [Solutions.read, Tree.readText, Tree.read, Tree.locateFile.mpr ⟨found, noSlash⟩,
        s.parsePretty]
    simp [candidate, ConfigStem.split config.nonempty, read]
  rw [Solutions.candidates, names, SortedMap.keys]
  simp only [List.filterMap_map, Function.comp_def]
  rw [List.filterMap_congr each, List.filterMap_eq_map']

theorem loaded (stored : Stored t directory k files) {w : Workspace} (same : w.tree = t) :
    (w.loadSolutions directory).2 =
      .ok (SortedMap.ofList (files.entries.map fun e => (Naming.camel (splitName e.1).1, e.2))) := by
  subst same
  rw [Workspace.loadSolutions, stored.candidates]
  simp [Solutions.ofCandidates, List.filterMap_map]

end Stored
end Solutions
end ApiScreens
