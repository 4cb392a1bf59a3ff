import ApiScreens.Domain.Run
import ApiScreens.Proofs.Output.Preservation
import ApiScreens.Proofs.Solutions.Stored

/-! Configurations written again and again into one directory. Each write is one change of the map of its
files, and a file that was there is kept under the name of its backup. -/
namespace ApiScreens
open Files ApiScreens.Path Solutions

inductive Rewritten (files : SortedMap Solution) (domain : String) (s : Solution) :
    Except WriteError WriteOutcome → SortedMap Solution → Prop where
  | failed {e : WriteError} (nul : Char.ofNat 0 ∈ domain.toList) :
      Rewritten files domain s (.error e) files
  | created {path : String} (clear : Char.ofNat 0 ∉ domain.toList)
      (absent : files.get? (configFile domain) = none) :
      Rewritten files domain s (.ok (.created path)) (files.insert (configFile domain) s)
  | replaced {path b tag : String} {old : Solution} (clear : Char.ofNat 0 ∉ domain.toList)
      (earlier : files.get? (configFile domain) = some old)
      (backup : fileName b = some (configFile (domain ++ ".backup." ++ tag))) :
      Rewritten files domain s (.ok (.overwritten path (some b)))
        ((files.insert (configFile (domain ++ ".backup." ++ tag)) old).insert (configFile domain) s)

theorem IsStampText.clear {tag : String} (stamp : IsStampText tag) {c : Char} (other : ¬ IsStampChar c) :
    c ∉ tag.toList :=
  fun inside => other (stamp c inside)

theorem ConfigStem.backup {domain tag : String} (config : ConfigStem domain) (stamp : IsStampText tag) :
    ConfigStem (domain ++ ".backup." ++ tag) where
  whole := by
    simp only [String.toList_append, List.mem_append, not_or]
    exact ⟨⟨config.whole, by decide⟩, stamp.clear (by decide)⟩
  nonempty := by simp
  clear := by
    simp only [String.toList_append, List.mem_append, not_or]
    exact ⟨⟨config.clear, by decide⟩, stamp.clear (by decide)⟩

theorem backupPathConfig (t : Tree) {directory domain q : String} (config : ConfigStem domain)
    (around : parent (append directory (configFile domain)) = some q) (time : Instant) :
    ∃ tag, IsStampText tag ∧ t.backupPath (append directory (configFile domain)) time.stamp =
      append q (configFile (domain ++ ".backup." ++ tag)) := by
  have component := ConfigStem.component config.toSegment
  have spelled (tag : String) : Path.backup (append directory (configFile domain)) tag =
      append q (configFile (domain ++ ".backup." ++ tag)) := by
    have outer : Path.around (append directory (configFile domain)) = q := by
      rw [Path.around, fileNameAppend component, around]
      rfl
    rw [Path.backup, taggedAround, config.ending, config.stemOf, outer]
    simp [configFile, String.append_assoc]
  unfold Tree.backupPath
  split
  · refine ⟨_, ?_, spelled _⟩
    have hyphen : IsStampText "-" := by decide
    exact ((stampText time).append hyphen).append (.digits (Naming.toStringDigits _))
  · exact ⟨time.stamp, stampText time, spelled _⟩

namespace Workspace
variable {w : Workspace} {directory : String} {k : Location} {files : SortedMap Solution}

theorem makeRoomStored {name q : String} (around : parent (append directory name) = some q)
    (named : q ≠ "") (leads : w.tree.follow q = .ok (.present k .directory)) :
    w.makeRoom (append directory name) = (w, .ok ()) := by
  have kept : (parent (append directory name)).filter (· ≠ "") = some q := by
    rw [around, Option.filter_some, if_pos (by simpa using named)]
  rw [makeRoom, kept]
  simp only [Tree.makeDirectoriesPresent named leads]
  rfl

theorem presentStored (stored : Stored w.tree directory k files) {domain : String}
    (config : ConfigStem domain) :
    w.tree.present (append directory (configFile domain)) = (files.get? (configFile domain)).isSome := by
  have found := stored.behind stored.follow config
  have noSlash : Tree.endsInSlash (append directory (configFile domain)) = false :=
    appendNoSlash (ConfigStem.component config.toSegment)
  unfold Tree.present Tree.locate
  rw [found]
  cases files.get? (configFile domain) <;> simp [noSlash]

theorem writeUnclear {f : GeneratedFile} (room : w.makeRoom f.path = (w, .ok ()))
    (nul : Char.ofNat 0 ∈ f.path.toList) :
    w.write f = (w, .error ⟨.write, f.path, .nulInPath⟩) := by
  have inside : f.path ≠ "" := by
    intro empty
    simp [empty] at nul
  have refused : w.tree.follow f.path = .error .nulInPath := by simp [Tree.follow, inside, nul]
  have absent : w.tree.present f.path = false := by simp [Tree.present, Tree.locate, refused]
  simp [write, room, absent, put, Tree.write, refused]

theorem backUpStored (stored : Stored w.tree directory k files) {domain q : String}
    (config : ConfigStem domain) (around : parent (append directory (configFile domain)) = some q)
    (leads : w.tree.follow q = .ok (.present k .directory)) {old : Solution}
    (earlier : files.get? (configFile domain) = some old) :
    ∃ v b tag, w.backUp (append directory (configFile domain)) = (v, .ok b) ∧
      fileName b = some (configFile (domain ++ ".backup." ++ tag)) ∧
      Stored v.tree directory k (files.insert (configFile (domain ++ ".backup." ++ tag)) old) := by
  obtain ⟨tag, stamp, spelled⟩ := backupPathConfig w.tree config around (w.clock w.readings)
  have backup := config.backup stamp
  obtain ⟨u, written, kept, _⟩ := stored.write leads backup old
  have found := stored.behind stored.follow config
  rw [earlier] at found
  have noSlash : Tree.endsInSlash (append directory (configFile domain)) = false :=
    appendNoSlash (ConfigStem.component config.toSegment)
  have copied : w.tree.copy (append directory (configFile domain))
      (append q (configFile (domain ++ ".backup." ++ tag))) = .ok u := by
    simp [Tree.copy, Tree.locateFile.mpr ⟨found, noSlash⟩, written]
  have named := fileNameAppend (q := q) (ConfigStem.component backup.toSegment)
  generalize append q (configFile (domain ++ ".backup." ++ tag)) = target at spelled copied named
  refine ⟨(w.now.2.withTree u).print ("📦 Backup created: " ++ target), target, tag, ?_, named, kept⟩
  rw [backUp, now]
  simp only [spelled, copied]

theorem replaceBacked {v : Workspace} {f : GeneratedFile} {b : String} (asked : f.options.backup = true)
    (copied : w.backUp f.path = (v, .ok b)) : w.replace f = v.overwrite f (some b) := by
  simp [replace, asked, copied]

theorem putStored (stored : Stored w.tree directory k files) {domain : String}
    (config : ConfigStem domain) (s : Solution) (line : String) (outcome : WriteOutcome) :
    ∃ v, w.put (append directory (configFile domain)) s.toJson.pretty line outcome = (v, .ok outcome) ∧
      Stored v.tree directory k (files.insert (configFile domain) s) := by
  obtain ⟨u, written, later, _⟩ := stored.write stored.follow config s
  exact ⟨(w.withTree u).print line, by simp [put, written], later⟩

def configText (directory domain : String) (s : Solution) : GeneratedFile :=
  ⟨append directory (configFile domain), s.toJson.pretty, {}⟩

theorem writeDomainText (w : Workspace) (directory domain : String) (s : Solution) :
    w.writeDomain directory domain s = w.write (configText directory domain s) := rfl

section
variable {domain q : String} (stored : Stored w.tree directory k files) (config : ConfigStem domain)
  (s : Solution) (room : w.makeRoom (append directory (configFile domain)) = (w, .ok ()))
include stored config room

theorem writeFresh (absent : files.get? (configFile domain) = none) :
    ∃ v, w.write (configText directory domain s) =
        (v, .ok (.created (append directory (configFile domain)))) ∧
      Stored v.tree directory k (files.insert (configFile domain) s) := by
  have free := presentStored stored config
  rw [absent] at free
  obtain ⟨v, done, later⟩ := putStored stored config s _ (.created (append directory (configFile domain)))
  refine ⟨v, ?_, later⟩
  rw [write]
  simp only [configText, room, free]
  exact done

theorem writeAgain (around : parent (append directory (configFile domain)) = some q)
    (leads : w.tree.follow q = .ok (.present k .directory)) {old : Solution}
    (earlier : files.get? (configFile domain) = some old) :
    ∃ v b tag, w.write (configText directory domain s) =
        (v, .ok (.overwritten (append directory (configFile domain)) (some b))) ∧
      fileName b = some (configFile (domain ++ ".backup." ++ tag)) ∧
      Stored v.tree directory k
        ((files.insert (configFile (domain ++ ".backup." ++ tag)) old).insert (configFile domain) s) := by
  have there := presentStored stored config
  rw [earlier] at there
  obtain ⟨u, b, tag, copied, named, kept⟩ := backUpStored stored config around leads earlier
  obtain ⟨v, done, later⟩ := putStored kept config s
    ("✅ Overwritten: " ++ append directory (configFile domain))
    (.overwritten (append directory (configFile domain)) (some b))
  refine ⟨v, b, tag, ?_, named, later⟩
  rw [write]
  simp only [configText, room, there]
  exact (replaceBacked (f := configText directory domain s) rfl copied).trans done

end

theorem writeDomainStep (stored : Stored w.tree directory k files) {domain : String}
    (segment : Segment domain) (s : Solution) :
    ∃ later, Stored (w.writeDomain directory domain s).1.tree directory k later ∧
      Rewritten files domain s (w.writeDomain directory domain s).2 later := by
  have component := ConfigStem.component segment
  obtain ⟨q, around, named, leads⟩ := parentFollow component stored.follow
  have room := makeRoomStored around named leads
  rw [writeDomainText]
  by_cases nul : Char.ofNat 0 ∈ domain.toList
  · have inside : Char.ofNat 0 ∈ (configText directory domain s).path.toList := by
      rw [configText, containsAppend _ _ _ (by decide) (relativeOfWhole component.whole)]
      simp [configFile, nul]
    rw [writeUnclear (f := configText directory domain s) room inside]
    exact ⟨files, stored, .failed nul⟩
  · have config : ConfigStem domain := ⟨segment, nul⟩
    cases known : files.get? (configFile domain) with
    | none =>
      obtain ⟨v, done, later⟩ := writeFresh stored config s room known
      rw [done]
      exact ⟨_, later, .created nul known⟩
    | some old =>
      obtain ⟨v, b, tag, done, backup, later⟩ := writeAgain stored config s room around leads known
      rw [done]
      exact ⟨_, later, .replaced nul known backup⟩

end Workspace

structure DomainWrite where
  domain : String
  solution : Solution
  outcome : Except WriteError WriteOutcome

namespace DomainWrite

def config? (r : DomainWrite) : Option (String × Solution) :=
  match r.outcome with
  | .ok _ => some (r.domain, r.solution)
  | .error _ => none

def backup? (r : DomainWrite) : Option String :=
  match r.outcome with
  | .ok outcome => outcome.backup?
  | .error _ => none

def written (rs : List DomainWrite) : List (String × Solution) := rs.filterMap config?

def backups (rs : List DomainWrite) : List String := rs.filterMap backup?

def backupFiles (rs : List DomainWrite) : List String := (backups rs).filterMap fileName

section
variable (domain : String) (s : Solution) (rest : List DomainWrite)

@[simp] theorem writtenError (e : WriteError) : written (⟨domain, s, .error e⟩ :: rest) = written rest := rfl

@[simp] theorem writtenOk (outcome : WriteOutcome) :
    written (⟨domain, s, .ok outcome⟩ :: rest) = (domain, s) :: written rest := rfl

@[simp] theorem backupsError (e : WriteError) : backups (⟨domain, s, .error e⟩ :: rest) = backups rest := rfl

@[simp] theorem backupsCreated (path : String) :
    backups (⟨domain, s, .ok (.created path)⟩ :: rest) = backups rest := rfl

@[simp] theorem backupsReplaced (path b : String) :
    backups (⟨domain, s, .ok (.overwritten path (some b))⟩ :: rest) = b :: backups rest := rfl

end
end DomainWrite

def Workspace.writeDomains (w : Workspace) (directory : String) :
    List (String × Solution) → Workspace × List DomainWrite
  | [] => (w, [])
  | (domain, s) :: rest =>
      let (v, outcome) := w.writeDomain directory domain s
      let (u, more) := v.writeDomains directory rest
      (u, ⟨domain, s, outcome⟩ :: more)

inductive Rewrites : SortedMap Solution → List DomainWrite → SortedMap Solution → Prop where
  | done (files : SortedMap Solution) : Rewrites files [] files
  | step {files next later : SortedMap Solution} {r : DomainWrite} {rest : List DomainWrite}
      (first : Rewritten files r.domain r.solution r.outcome next) (more : Rewrites next rest later) :
      Rewrites files (r :: rest) later

theorem Workspace.writeDomainsCons (w : Workspace) (directory domain : String) (s : Solution)
    (rest : List (String × Solution)) :
    w.writeDomains directory ((domain, s) :: rest) =
      (((w.writeDomain directory domain s).1.writeDomains directory rest).1,
        ⟨domain, s, (w.writeDomain directory domain s).2⟩ ::
          ((w.writeDomain directory domain s).1.writeDomains directory rest).2) := by
  rw [writeDomains]

theorem Workspace.writeDomainsCalls (w : Workspace) (directory : String) (calls : List (String × Solution)) :
    (w.writeDomains directory calls).2.map (fun r => (r.domain, r.solution)) = calls := by
  induction calls generalizing w with
  | nil => rfl
  | cons call rest ih =>
    obtain ⟨domain, s⟩ := call
    rw [writeDomainsCons, List.map_cons, ih]

theorem Workspace.writeDomainsRun {w : Workspace} {directory : String} {k : Location}
    {files : SortedMap Solution} {calls : List (String × Solution)}
    (stored : Stored w.tree directory k files) (segments : ∀ c ∈ calls, Segment c.1) :
    ∃ later, Stored (w.writeDomains directory calls).1.tree directory k later ∧
      Rewrites files (w.writeDomains directory calls).2 later := by
  induction calls generalizing w files with
  | nil => exact ⟨files, stored, .done files⟩
  | cons call rest ih =>
    obtain ⟨domain, s⟩ := call
    obtain ⟨next, kept, first⟩ := writeDomainStep stored (segments (domain, s) List.mem_cons_self) s
    obtain ⟨later, held, more⟩ := ih kept fun c inside => segments c (List.mem_cons_of_mem _ inside)
    rw [writeDomainsCons]
    exact ⟨later, held, .step first more⟩

namespace Rewrites
open DomainWrite
variable {files later : SortedMap Solution} {rs : List DomainWrite}

theorem writtenClear (run : Rewrites files rs later) :
    written rs = (rs.map fun r => (r.domain, r.solution)).filter fun c => Char.ofNat 0 ∉ c.1.toList := by
  induction run with
  | done files => rfl
  | @step files next later r rest first more ih =>
    obtain ⟨domain, s, outcome⟩ := r
    cases first with
    | failed nul => simp [ih, nul]
    | created clear absent => simp [ih, clear]
    | replaced clear earlier backup => simp [ih, clear]

theorem lastWrite (run : Rewrites files rs later) {name : String} (other : name ∉ backupFiles rs) :
    later.get? name = ((SortedMap.ofList ((written rs).map fun c => (configFile c.1, c.2))).get? name).or
      (files.get? name) := by
  induction run with
  | done files => rfl
  | @step files next later r rest first more ih =>
    obtain ⟨domain, s, outcome⟩ := r
    cases first with
    | failed nul => simpa [backupFiles] using ih (by simpa [backupFiles] using other)
    | created clear absent =>
      rw [ih (by simpa [backupFiles] using other), writtenOk, List.map_cons, SortedMap.getOfListCons,
        SortedMap.getInsert, Option.or_assoc]
      by_cases same : name = configFile domain <;> simp [same]
    | @replaced path b tag old clear earlier backup =>
      have apart : name ≠ configFile (domain ++ ".backup." ++ tag) ∧ name ∉ backupFiles rest := by
        simpa [backupFiles, backup] using other
      rw [ih apart.2, writtenOk, List.map_cons, SortedMap.getOfListCons, SortedMap.getInsert,
        SortedMap.getInsert, if_neg apart.1, Option.or_assoc]
      by_cases same : name = configFile domain <;> simp [same]

theorem keysStay (run : Rewrites files rs later) {name : String} (inside : name ∈ files.keys) :
    name ∈ later.keys := by
  induction run with
  | done files => exact inside
  | @step files next later r rest first more ih =>
    obtain ⟨domain, s, outcome⟩ := r
    cases first with
    | failed nul => exact ih inside
    | created clear absent => exact ih (SortedMap.keyInsert.mpr (.inr inside))
    | replaced clear earlier backup =>
      exact ih (SortedMap.keyInsert.mpr (.inr (SortedMap.keyInsert.mpr (.inr inside))))

theorem backupsStay (run : Rewrites files rs later) {name : String} (inside : name ∈ backupFiles rs) :
    name ∈ later.keys := by
  induction run with
  | done files => exact absurd inside List.not_mem_nil
  | @step files next later r rest first more ih =>
    obtain ⟨domain, s, outcome⟩ := r
    cases first with
    | failed nul => exact ih (by simpa [backupFiles] using inside)
    | created clear absent => exact ih (by simpa [backupFiles] using inside)
    | @replaced path b tag old clear earlier backup =>
      have cases : name = configFile (domain ++ ".backup." ++ tag) ∨ name ∈ backupFiles rest := by
        simpa [backupFiles, backup] using inside
      rcases cases with rfl | deep
      · exact more.keysStay (SortedMap.keyInsert.mpr (.inr (SortedMap.keyInsert.mpr (.inl rfl))))
      · exact ih deep

theorem backupsNone (run : Rewrites files rs later) :
    backups rs = [] ↔ ((written rs).map (·.1)).Nodup ∧ ∀ c ∈ written rs, configFile c.1 ∉ files.keys := by
  induction run with
  | done files => simp [backups, written]
  | @step files next later r rest first more ih =>
    obtain ⟨domain, s, outcome⟩ := r
    cases first with
    | failed nul => simpa using ih
    | created clear absent =>
      rw [backupsCreated, ih, writtenOk, List.map_cons, List.nodup_cons]
      constructor
      · rintro ⟨distinct, apart⟩
        refine ⟨⟨fun again => ?_, distinct⟩, fun c inside => ?_⟩
        · obtain ⟨c, there, rfl⟩ := List.mem_map.mp again
          exact apart c there (SortedMap.keyInsert.mpr (.inl rfl))
        · rcases List.mem_cons.mp inside with rfl | deep
          · exact SortedMap.getNone.mp absent
          · exact fun old => apart c deep (SortedMap.keyInsert.mpr (.inr old))
      · rintro ⟨⟨fresh, distinct⟩, apart⟩
        refine ⟨distinct, fun c inside there => ?_⟩
        rcases SortedMap.keyInsert.mp there with same | old
        · exact fresh (List.mem_map.mpr ⟨c, inside, configFileInjective same⟩)
        · exact apart c (List.mem_cons_of_mem _ inside) old
    | @replaced path b tag old clear earlier backup =>
      have there : configFile domain ∈ files.keys :=
        List.mem_map_of_mem (SortedMap.entryOfGet.mp earlier)
      simp [there]

end Rewrites
end ApiScreens
