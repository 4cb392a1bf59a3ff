import ApiScreens.Proofs.Domain.Rewrite
import ApiScreens.Proofs.Naming.Form

/-! What is loaded from a directory into which configurations were written. Domains that were written once are
loaded as they were written; each backup is loaded besides, as a solution of its own. -/
namespace ApiScreens
open Files ApiScreens.Path Solutions DomainWrite

def fileKey (name : String) : String := Naming.camel (splitName name).1

def DomainWrite.backupNames (rs : List DomainWrite) : List String :=
  (backups rs).filterMap fun b => (Path.stem b).map Naming.camel

def lastSolutions (configs : List (String × Solution)) : Solutions :=
  .ofList (configs.map fun c => (Naming.camel c.1, c.2))

theorem fileKeyConfig {domain : String} (inside : domain ≠ "") :
    fileKey (configFile domain) = Naming.camel domain := by
  rw [fileKey, ConfigStem.split inside]

theorem backupNamesFiles (rs : List DomainWrite) : backupNames rs = (backupFiles rs).map fileKey := by
  rw [backupNames, backupFiles, List.map_filterMap]
  refine List.filterMap_congr fun b _ => ?_
  have form : fileKey = fun name => Naming.camel (splitName name).1 := funext fun name => by rw [fileKey]
  rw [Path.stem, Option.map_map, form]
  simp only [Function.comp_def]

namespace Rewrites
variable {later : SortedMap Solution} {rs : List DomainWrite}

theorem backupsHave (run : Rewrites .empty rs later) {name : String} (inside : name ∈ backupNames rs) :
    (SortedMap.ofList (later.entries.map fun e => (fileKey e.1, e.2))).has name := by
  rw [backupNamesFiles] at inside
  obtain ⟨file, made, rfl⟩ := List.mem_map.mp inside
  obtain ⟨e, there, rfl⟩ := List.mem_map.mp (run.backupsStay made)
  exact SortedMap.hasOfListMap.mpr ⟨e, there, rfl⟩

theorem fileCases (run : Rewrites .empty rs later) {name : String} (inside : name ∈ later.keys) :
    name ∈ backupFiles rs ∨ ∃ c ∈ written rs, name = configFile c.1 := by
  by_cases backup : name ∈ backupFiles rs
  · exact .inl backup
  · rw [← SortedMap.hasKey, SortedMap.has, run.lastWrite backup, SortedMap.getEmpty, Option.or_none] at inside
    obtain ⟨c, there, rfl⟩ := SortedMap.hasOfListMap.mp inside
    exact .inr ⟨c, there, rfl⟩

theorem fileSource (run : Rewrites .empty rs later) (inside : ∀ c ∈ written rs, c.1 ≠ "") {name : String}
    (other : name ∉ backupNames rs) {e : String × Solution} (there : e ∈ later.entries)
    (same : fileKey e.1 = name) : ∃ c ∈ written rs, e.1 = configFile c.1 ∧ Naming.camel c.1 = name := by
  rcases run.fileCases (List.mem_map_of_mem there) with backup | ⟨c, listed, file⟩
  · rw [backupNamesFiles] at other
    exact absurd (List.mem_map.mpr ⟨e.1, backup, same⟩) other
  · exact ⟨c, listed, file, by rw [← same, file, fileKeyConfig (inside c listed)]⟩

theorem lastFiles (inside : ∀ c ∈ written rs, c.1 ≠ "") : lastSolutions (written rs) =
    .ofList (((written rs).map fun c => (configFile c.1, c.2)).map fun p => (fileKey p.1, p.2)) := by
  rw [lastSolutions, List.map_map]
  refine congrArg SortedMap.ofList (List.map_congr_left fun d mine => ?_)
  simp only [Function.comp_apply, fileKeyConfig (inside d mine)]

theorem othersLast (run : Rewrites .empty rs later) (inside : ∀ c ∈ written rs, c.1 ≠ "")
    (apart : ∀ c ∈ written rs, ∀ e ∈ written rs, Naming.camel c.1 = Naming.camel e.1 → c.1 = e.1)
    {name : String} (other : name ∉ backupNames rs) :
    (SortedMap.ofList (later.entries.map fun e => (fileKey e.1, e.2))).get? name =
      (lastSolutions (written rs)).get? name := by
  by_cases known : ∃ c ∈ written rs, Naming.camel c.1 = name
  · obtain ⟨c, listed, rfl⟩ := known
    have key := fileKeyConfig (inside c listed)
    have unbacked : configFile c.1 ∉ backupFiles rs := fun backup =>
      other (backupNamesFiles rs ▸ List.mem_map.mpr ⟨_, backup, key⟩)
    have files := SortedMap.getOfListMap later.entries fileKey (k := configFile c.1)
      fun e there same => by
        obtain ⟨d, mine, file, equal⟩ := run.fileSource inside other there (same.trans key)
        rw [file, apart d mine c listed equal]
    have domains := SortedMap.getOfListMap ((written rs).map fun c => (configFile c.1, c.2))
      fileKey (k := configFile c.1) fun e there same => by
        obtain ⟨d, mine, rfl⟩ := List.mem_map.mp there
        rw [apart d mine c listed (by rw [← fileKeyConfig (inside d mine), same, key])]
    rw [lastFiles inside, ← key, files, domains, SortedMap.ofListEntries, run.lastWrite unbacked,
      SortedMap.getEmpty, Option.or_none]
  · have fromFiles : ¬(SortedMap.ofList (later.entries.map fun e => (fileKey e.1, e.2))).has name := by
      intro named
      obtain ⟨e, there, same⟩ := SortedMap.hasOfListMap.mp named
      obtain ⟨c, mine, _, equal⟩ := run.fileSource inside other there same
      exact known ⟨c, mine, equal⟩
    have fromCalls : ¬(lastSolutions (written rs)).has name := fun named =>
      known (SortedMap.hasOfListMap.mp named)
    rw [SortedMap.has, Option.not_isSome_iff_eq_none] at fromFiles fromCalls
    rw [fromFiles, fromCalls]

theorem backupsNamed {files : SortedMap Solution} (run : Rewrites files rs later) {b : String}
    (made : b ∈ backups rs) :
    ∃ domain tag, fileName b = some (configFile (domain ++ ".backup." ++ tag)) := by
  induction run with
  | done files => exact absurd made List.not_mem_nil
  | @step files next later r rest first more ih =>
    obtain ⟨domain, s, outcome⟩ := r
    cases first with
    | failed nul => exact ih made
    | created clear absent => exact ih made
    | @replaced path b' tag old clear earlier backup =>
      rcases List.mem_cons.mp made with rfl | deep
      · exact ⟨domain, tag, backup⟩
      · exact ih deep

theorem backupsMarked (run : Rewrites .empty rs later) {b : String} (made : b ∈ backups rs) :
    ∃ name ∈ backupNames rs, ".backup.".toList <:+: name.toList := by
  obtain ⟨domain, tag, file⟩ := run.backupsNamed made
  have stem : Path.stem b = some (domain ++ ".backup." ++ tag) := by
    rw [Path.stem, file, Option.map_some, ConfigStem.split (by simp)]
  refine ⟨Naming.camel (domain ++ ".backup." ++ tag), ?_, ?_⟩
  · exact List.mem_filterMap.mpr ⟨b, made, by rw [stem, Option.map_some]⟩
  · have clear : ∀ c ∈ ".backup.".toList, Naming.isSeparator c = false := by
      simpa using List.all_eq_true.mp (show ".backup.".toList.all (!Naming.isSeparator ·) = true by decide)
    exact Naming.camelMark domain.toList "backup.".toList tag.toList clear (by simp)

theorem backupNamesNone (run : Rewrites .empty rs later)
    (distinct : ((written rs).map (·.1)).Nodup) : backupNames rs = [] := by
  have none := run.backupsNone.mpr ⟨distinct, fun _ _ => List.not_mem_nil⟩
  rw [backupNames, none, List.filterMap_nil]

section
variable (run : Rewrites .empty rs later) (inside : ∀ c ∈ written rs, c.1 ≠ "")
  (apart : ∀ c ∈ written rs, ∀ e ∈ written rs, Naming.camel c.1 = Naming.camel e.1 → c.1 = e.1)
include run inside apart

theorem onceLoaded (distinct : ((written rs).map (·.1)).Nodup) :
    SortedMap.ofList (later.entries.map fun e => (fileKey e.1, e.2)) = lastSolutions (written rs) :=
  SortedMap.ext fun name => run.othersLast inside apart
    (by rw [run.backupNamesNone distinct]; exact List.not_mem_nil)

theorem loadedExactly
    (unmarked : ∀ c ∈ written rs, ¬ ".backup.".toList <:+: (Naming.camel c.1).toList) :
    SortedMap.ofList (later.entries.map fun e => (fileKey e.1, e.2)) = lastSolutions (written rs) ↔
      ((written rs).map (·.1)).Nodup := by
  refine ⟨fun same => ?_, run.onceLoaded inside apart⟩
  by_contra again
  have some : backups rs ≠ [] := fun none => again (run.backupsNone.mp none).1
  obtain ⟨b, made⟩ := List.exists_mem_of_ne_nil _ some
  obtain ⟨name, loaded, marked⟩ := run.backupsMarked made
  have there := run.backupsHave loaded
  rw [same] at there
  obtain ⟨c, mine, rfl⟩ := SortedMap.hasOfListMap.mp there
  exact unmarked c mine marked

end
end Rewrites

namespace Workspace

theorem loadedRun {w : Workspace} {directory : String} {calls : List (String × Solution)}
    (empty : w.tree.names directory = .ok []) (segments : ∀ c ∈ calls, Segment c.1) :
    ∃ later, Rewrites .empty (w.writeDomains directory calls).2 later ∧
      written (w.writeDomains directory calls).2 = calls.filter (fun c => Char.ofNat 0 ∉ c.1.toList) ∧
      ((w.writeDomains directory calls).1.loadSolutions directory).2 =
        .ok (SortedMap.ofList (later.entries.map fun e => (fileKey e.1, e.2))) := by
  obtain ⟨k, stored⟩ := Stored.empty empty
  obtain ⟨later, kept, run⟩ := writeDomainsRun stored segments
  exact ⟨later, run, by rw [run.writtenClear, writeDomainsCalls], kept.loaded rfl⟩

theorem domainsLoaded {w : Workspace} {directory : String} {calls : List (String × Solution)}
    (empty : w.tree.names directory = .ok []) (segments : ∀ c ∈ calls, Segment c.1)
    (apart : ∀ c ∈ calls, ∀ e ∈ calls, Naming.camel c.1 = Naming.camel e.1 → c.1 = e.1) :
    let run := w.writeDomains directory calls
    written run.2 = calls.filter (fun c => Char.ofNat 0 ∉ c.1.toList) ∧
      ∃ loaded, (run.1.loadSolutions directory).2 = .ok loaded ∧
        (∀ name ∈ backupNames run.2, loaded.has name) ∧
        (∀ name, name ∉ backupNames run.2 →
          loaded.get? name = (lastSolutions (written run.2)).get? name) ∧
        (((written run.2).map (·.1)).Nodup → loaded = lastSolutions (written run.2)) ∧
        ((∀ c ∈ written run.2, ¬ ".backup.".toList <:+: (Naming.camel c.1).toList) →
          (loaded = lastSolutions (written run.2) ↔ ((written run.2).map (·.1)).Nodup)) := by
  obtain ⟨later, run, calls_, load⟩ := loadedRun empty segments
  have mine {c : String × Solution} (there : c ∈ written (w.writeDomains directory calls).2) : c ∈ calls := by
    rw [calls_] at there
    exact (List.mem_filter.mp there).1
  have inside : ∀ c ∈ written (w.writeDomains directory calls).2, c.1 ≠ "" :=
    fun c there => (segments c (mine there)).nonempty
  have distinct := fun c (there : c ∈ written (w.writeDomains directory calls).2) e
    (also : e ∈ written (w.writeDomains directory calls).2) => apart c (mine there) e (mine also)
  exact ⟨calls_, _, load, fun _ => run.backupsHave, fun _ => run.othersLast inside distinct,
    run.onceLoaded inside distinct, run.loadedExactly inside distinct⟩

def emptyConfigs : Workspace := { tree := Tree.ofList [] [(["configs"], .directory)] }

theorem twoDomainsLoaded :
    let calls := [("sales", Solution.mk .empty), ("tax-office", Solution.mk .empty)]
    emptyConfigs.tree.names "configs" = .ok [] ∧ (∀ c ∈ calls, Segment c.1) ∧
      (∀ c ∈ calls, ∀ e ∈ calls, Naming.camel c.1 = Naming.camel e.1 → c.1 = e.1) ∧
      ((emptyConfigs.writeDomains "configs" calls).1.loadSolutions "configs").2 =
        .ok (lastSolutions calls) := by
  intro calls
  have empty : emptyConfigs.tree.names "configs" = .ok [] := by decide
  have segments : ∀ c ∈ calls, Segment c.1 := by decide
  have apart : ∀ c ∈ calls, ∀ e ∈ calls, Naming.camel c.1 = Naming.camel e.1 → c.1 = e.1 := by decide
  obtain ⟨all, loaded, load, _, _, once, _⟩ := domainsLoaded empty segments apart
  have kept : calls.filter (fun c => Char.ofNat 0 ∉ c.1.toList) = calls := by decide
  rw [all, kept] at once
  exact ⟨empty, segments, apart, load.trans (congrArg Except.ok (once (by decide)))⟩

theorem backupLoadedToo :
    let calls := [("sales", Solution.mk .empty), ("sales", Solution.mk .empty)]
    emptyConfigs.tree.names "configs" = .ok [] ∧ (∀ c ∈ calls, Segment c.1) ∧
      (∀ c ∈ calls, ∀ e ∈ calls, Naming.camel c.1 = Naming.camel e.1 → c.1 = e.1) ∧
      ((emptyConfigs.writeDomains "configs" calls).1.loadSolutions "configs").2 ≠
        .ok (lastSolutions calls) := by
  intro calls
  have empty : emptyConfigs.tree.names "configs" = .ok [] := by decide
  have segments : ∀ c ∈ calls, Segment c.1 := by decide
  have apart : ∀ c ∈ calls, ∀ e ∈ calls, Naming.camel c.1 = Naming.camel e.1 → c.1 = e.1 := by decide
  refine ⟨empty, segments, apart, fun same => ?_⟩
  obtain ⟨later, run, all, load⟩ := loadedRun empty segments
  have kept : calls.filter (fun c => Char.ofNat 0 ∉ c.1.toList) = calls := by decide
  rw [kept] at all
  have exact_ := run.loadedExactly (by rw [all]; decide) (by rw [all]; exact apart) (by rw [all]; decide)
  rw [all] at exact_
  rw [load] at same
  exact absurd (exact_.mp (Except.ok.inj same)) (by decide)

end Workspace
end ApiScreens
