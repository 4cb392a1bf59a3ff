import ApiScreens.Output.Batch
import ApiScreens.Proofs.Files.Change
import ApiScreens.Proofs.Output.Free

/-! No content is lost by writing. One write changes the file it reports and, if there is a backup, a place
where nothing was; over a run, what a file held is still held by some file at the end. -/
namespace ApiScreens
open Files

def WriteOptions.Keeps (o : WriteOptions) : Prop := o.overwrite = false ∨ o.backup = true

instance (o : WriteOptions) : Decidable o.Keeps := by unfold WriteOptions.Keeps; infer_instance

def WriteOutcome.backup? : WriteOutcome → Option String
  | overwritten _ backup => backup
  | _ => none

namespace Files.Tree

def HoldsContents (t : Tree) (c : Contents) : Prop := ∃ k, t.fileAt k = some c

/-- What one write may do to the files of a tree, for each outcome it reports. -/
inductive Effect (t u : Tree) (f : GeneratedFile) : Except WriteError WriteOutcome → Prop where
  | failed {e : WriteError} (files : ∀ k, u.fileAt k = t.fileAt k) : Effect t u f (.error e)
  | added {outcome : WriteOutcome} {l : Location} (unbacked : outcome.backup? = none)
      (fresh : t.fileAt l = none)
      (text : u.locate outcome.writtenPath = .ok (.present l (.file (.text f.content))))
      (others : ∀ k, k ≠ l → u.fileAt k = t.fileAt k) : Effect t u f (.ok outcome)
  | replaced {l m : Location} {old : Contents} {b : String} (absent : t.present b = false)
      (fresh : t.at? m = none) (earlier : t.fileAt l = some old)
      (text : u.locate f.path = .ok (.present l (.file (.text f.content))))
      (copy : u.locate b = .ok (.present m (.file old)))
      (others : ∀ k, k ≠ l → k ≠ m → u.fileAt k = t.fileAt k) :
      Effect t u f (.ok (.overwritten f.path (some b)))
  | discarded {l : Location} (asked : ¬f.options.Keeps)
      (text : u.locate f.path = .ok (.present l (.file (.text f.content))))
      (others : ∀ k, k ≠ l → u.fileAt k = t.fileAt k) :
      Effect t u f (.ok (.overwritten f.path none))

end Files.Tree

namespace Workspace
open Files.Tree

theorem makeRoomGrows (w : Workspace) (path : String) : Grows w.tree (w.makeRoom path).1.tree := by
  unfold makeRoom
  split
  · exact Grows.refl _
  · rename_i around _
    have grows := makeDirectoriesGrows w.tree around
    split
    · rename_i made
      rwa [made] at grows
    · rename_i made
      rwa [made] at grows

theorem putDone {w v : Workspace} {path content line : String} {outcome reported : WriteOutcome}
    (done : w.put path content line outcome = (v, .ok reported)) :
    reported = outcome ∧ ∃ place, w.tree.follow path = .ok place ∧
      Replaces w.tree v.tree place.location (.text content) ∧
      v.tree.locate path = .ok (.present place.location (.file (.text content))) := by
  unfold put at done
  split at done
  · rename_i t made
    obtain ⟨place, found, _, noSlash, changed⟩ := writeDone made
    cases done
    exact ⟨rfl, place, found, changed, locateFile.mpr ⟨changed.leads found rfl, noSlash⟩⟩
  · cases done

theorem putFailed {w v : Workspace} {path content line : String} {outcome : WriteOutcome}
    {e : WriteError} (failed : w.put path content line outcome = (v, .error e)) :
    v.tree = w.tree := by
  unfold put at failed
  split at failed <;> cases failed
  rfl

theorem locationFree {t u : Tree} {path : String} {place : Place} {c : Contents}
    (absent : t.present path = false) (found : t.follow path = .ok place)
    (there : u.locate path = .ok (.present place.location (.file c))) :
    t.at? place.location = none := by
  have noSlash := (locateFile.mp there).2
  cases place with
  | free l => exact (followEntry found).1
  | present l e =>
    have here : t.present path = true := presentLocate.mpr ⟨l, e, by
      cases e with
      | file old => exact locateFile.mpr ⟨found, noSlash⟩
      | directory => exact locateDirectory found⟩
    rw [absent] at here
    contradiction

theorem fileAtNone {t : Tree} {l : Location} (free : t.at? l = none) : t.fileAt l = none := by
  simp [fileAt, free]

theorem putFresh {t : Tree} {w v : Workspace} {f : GeneratedFile} {path line : String}
    {outcome : WriteOutcome} {result : Except WriteError WriteOutcome} (grows : Grows t w.tree)
    (absent : w.tree.present path = false) (unbacked : outcome.backup? = none)
    (target : outcome.writtenPath = path)
    (done : w.put path f.content line outcome = (v, result)) : Effect t v.tree f result := by
  cases result with
  | error e => exact .failed fun k => by rw [putFailed done, grows.files k]
  | ok reported =>
    obtain ⟨rfl, place, found, changed, there⟩ := putDone done
    have free := locationFree absent found there
    have none_ : t.fileAt place.location = none := by rw [← grows.files, fileAtNone free]
    refine .added unbacked none_ (by rw [target]; exact there) fun k differs => ?_
    rw [changed.file k, if_neg differs, grows.files k]

theorem backUpDone {w v : Workspace} {path b : String} (done : w.backUp path = (v, .ok b)) :
    w.tree.present b = false ∧ ∃ l m old, w.tree.locate path = .ok (.present l (.file old)) ∧
      w.tree.at? m = none ∧ Replaces w.tree v.tree m old ∧
      v.tree.locate b = .ok (.present m (.file old)) := by
  unfold backUp now at done
  simp only at done
  split at done
  · rename_i t made
    cases done
    obtain ⟨l, old, source, written⟩ := copyDone made
    obtain ⟨place, found, _, noSlash, changed⟩ := writeDone written
    have absent := backupPathFree w.tree path (w.clock w.readings)
    have there := locateFile.mpr ⟨changed.leads found rfl, noSlash⟩
    exact ⟨absent, l, place.location, old, source, locationFree absent found there, changed, there⟩
  · cases done

theorem backUpFailed {w v : Workspace} {path : String} {e : WriteError}
    (failed : w.backUp path = (v, .error e)) : v.tree = w.tree := by
  unfold backUp now at failed
  simp only at failed
  split at failed <;> cases failed
  rfl

theorem presentGrows {t u : Tree} (grows : Grows t u) {p : String} (absent : u.present p = false) :
    t.present p = false := by
  by_contra here
  obtain ⟨k, e, found⟩ := presentLocate.mp (Bool.of_not_eq_false here)
  have later : u.present p = true := presentLocate.mpr ⟨k, e, grows.locate found⟩
  rw [absent] at later
  contradiction

theorem overwriteBacked {t : Tree} {w v u : Workspace} {f : GeneratedFile} {b : String}
    {result : Except WriteError WriteOutcome} (grows : Grows t w.tree)
    (copied : w.backUp f.path = (v, .ok b)) (done : v.overwrite f (some b) = (u, result)) :
    Effect t u.tree f result := by
  obtain ⟨absent, l, m, old, source, free, changed, copy⟩ := backUpDone copied
  obtain ⟨followed, noSlash⟩ := locateFile.mp source
  have entry : w.tree.at? l = some (.file old) := followEntry followed
  have apart : l ≠ m := by
    rintro rfl
    rw [free] at entry
    contradiction
  have still : v.tree.follow f.path = .ok (.present l (.file old)) := changed.others followed apart
  cases result with
  | error e =>
    -- what could be copied can be written
    have possible := writeOfPlace (.text f.content) still trivial noSlash
    simp [overwrite, put, possible] at done
  | ok reported =>
    obtain ⟨rfl, place, found, replaced, there⟩ := putDone done
    rw [still] at found
    cases found
    have copyStays : u.tree.locate b = .ok (.present m (.file old)) := by
      obtain ⟨toCopy, noSlashCopy⟩ := locateFile.mp copy
      exact locateFile.mpr ⟨replaced.others toCopy (Ne.symm apart), noSlashCopy⟩
    have freeBefore : t.at? m = none := by
      cases before : t.at? m with
      | none => rfl
      | some e => rw [grows.entries m e before] at free; contradiction
    refine .replaced (presentGrows grows absent) freeBefore ?_ there copyStays fun k target backup => ?_
    · rw [← grows.files]
      exact fileAtSome.mpr entry
    · rw [replaced.file k, if_neg target, changed.file k, if_neg backup, grows.files k]

theorem replaceEffect {t : Tree} {w u : Workspace} {f : GeneratedFile}
    {result : Except WriteError WriteOutcome} (grows : Grows t w.tree)
    (asked : f.options.overwrite = true) (done : w.replace f = (u, result)) :
    Effect t u.tree f result := by
  unfold replace at done
  split at done
  · split at done
    · rename_i v b copied
      exact overwriteBacked grows copied done
    · rename_i v e failed
      cases done
      exact .failed fun k => by rw [backUpFailed failed, grows.files k]
  · rename_i unbacked
    cases result with
    | error e => exact .failed fun k => by rw [putFailed done, grows.files k]
    | ok reported =>
      obtain ⟨rfl, place, found, changed, there⟩ := putDone done
      refine .discarded (by simp [WriteOptions.Keeps, asked, unbacked]) there fun k differs => ?_
      rw [changed.file k, if_neg differs, grows.files k]

theorem writeEffect (w : Workspace) (f : GeneratedFile) :
    Effect w.tree (w.write f).1.tree f (w.write f).2 := by
  generalize done : w.write f = result
  obtain ⟨u, outcome⟩ := result
  have grows := makeRoomGrows w f.path
  unfold write at done
  split at done
  · rename_i v e refused
    rw [refused] at grows
    cases done
    exact .failed grows.files
  · rename_i v room
    have grows : Grows w.tree v.tree := by rwa [room] at grows
    split at done
    · rename_i free
      have absent : v.tree.present f.path = false := by simpa using free
      exact putFresh grows absent rfl rfl done
    · split at done
      · rename_i asked
        exact replaceEffect grows asked done
      · exact putFresh grows (numberedPathFree v.tree f.path) rfl rfl done

end Workspace

inductive WriteCall where
  | one (f : GeneratedFile)
  | batch (files : List GeneratedFile)

namespace WriteCall

def files : WriteCall → List GeneratedFile
  | one f => [f]
  | batch fs => fs

def run (w : Workspace) : WriteCall → Workspace
  | one f => (w.write f).1
  | batch fs => (w.writeAll fs).1

end WriteCall

namespace Workspace
open Files.Tree

def attempts (w : Workspace) : List GeneratedFile → List (Workspace × GeneratedFile)
  | [] => []
  | f :: rest => (w, f) :: attempts (w.write f).1 rest

def attemptsIn (w : Workspace) : List WriteCall → List (Workspace × GeneratedFile)
  | [] => []
  | call :: rest => w.attempts call.files ++ attemptsIn (call.run w) rest

theorem writeAllAttempts (w : Workspace) (files : List GeneratedFile) :
    w.writeAll files =
      (files.foldl (fun v f => (v.write f).1) w,
       (w.attempts files).foldl (fun report step =>
         report.add step.2.path (step.1.write step.2).2) {}) := by
  unfold writeAll
  generalize ({} : BatchReport) = report
  induction files generalizing w report with
  | nil => rfl
  | cons f rest ih => exact ih (w.write f).1 (report.add f.path (w.write f).2)

theorem runFiles (w : Workspace) (call : WriteCall) :
    call.run w = call.files.foldl (fun v f => (v.write f).1) w := by
  cases call with
  | one f => rfl
  | batch fs => simp [WriteCall.run, WriteCall.files, writeAllAttempts]

theorem effectKeeps {t u : Tree} {f : GeneratedFile} {result : Except WriteError WriteOutcome}
    (effect : Effect t u f result) (keeps : f.options.Keeps) {c : Contents}
    (held : t.HoldsContents c) : u.HoldsContents c := by
  obtain ⟨k, here⟩ := held
  cases effect with
  | failed files => exact ⟨k, (files k).trans here⟩
  | added unbacked fresh text others =>
    refine ⟨k, (others k ?_).trans here⟩
    rintro rfl
    rw [fresh] at here
    contradiction
  | @replaced l m old b absent fresh earlier text copy others =>
    by_cases target : k = l
    · -- the old contents are now in the backup
      subst target
      rw [earlier] at here
      cases here
      exact ⟨m, fileAtSome.mpr (followEntry (locateFollow copy))⟩
    · refine ⟨k, (others k target ?_).trans here⟩
      rintro rfl
      rw [fileAtNone fresh] at here
      contradiction
  | discarded asked text others => exact absurd keeps asked

theorem effectText {t u : Tree} {f : GeneratedFile} {outcome : WriteOutcome}
    (effect : Effect t u f (.ok outcome)) :
    ∃ l, u.locate outcome.writtenPath = .ok (.present l (.file (.text f.content))) := by
  cases effect with
  | added unbacked fresh text others => exact ⟨_, text⟩
  | replaced absent fresh earlier text copy others => exact ⟨_, text⟩
  | discarded asked text others => exact ⟨_, text⟩

theorem effectWritten {t u : Tree} {f : GeneratedFile} {outcome : WriteOutcome}
    (effect : Effect t u f (.ok outcome)) : u.HoldsContents (.text f.content) := by
  obtain ⟨l, text⟩ := effectText effect
  exact ⟨l, fileAtSome.mpr (followEntry (locateFollow text))⟩

theorem writesKeep {files : List GeneratedFile} {w : Workspace}
    (keeps : ∀ f ∈ files, f.options.Keeps) {c : Contents}
    (held : w.tree.HoldsContents c ∨
      ∃ before f outcome, (before, f) ∈ w.attempts files ∧
        (before.write f).2 = .ok outcome ∧ c = .text f.content) :
    (files.foldl (fun v f => (v.write f).1) w).tree.HoldsContents c := by
  induction files generalizing w with
  | nil =>
    rcases held with held | ⟨before, f, outcome, step, _⟩
    · exact held
    · exact absurd step List.not_mem_nil
  | cons f rest ih =>
    have effect := writeEffect w f
    have keep := keeps f List.mem_cons_self
    refine ih (fun g inside => keeps g (List.mem_cons_of_mem _ inside)) ?_
    rcases held with held | ⟨before, g, outcome, step, done, rfl⟩
    · exact .inl (effectKeeps effect keep held)
    · rcases List.mem_cons.mp step with now | later
      · cases now
        rw [done] at effect
        exact .inl (effectWritten effect)
      · exact .inr ⟨before, g, outcome, later, done, rfl⟩

theorem callsKeep {calls : List WriteCall} {w : Workspace}
    (keeps : ∀ call ∈ calls, ∀ f ∈ call.files, f.options.Keeps) {c : Contents}
    (held : w.tree.HoldsContents c ∨
      ∃ before f outcome, (before, f) ∈ w.attemptsIn calls ∧
        (before.write f).2 = .ok outcome ∧ c = .text f.content) :
    (calls.foldl WriteCall.run w).tree.HoldsContents c := by
  induction calls generalizing w with
  | nil =>
    rcases held with held | ⟨before, f, outcome, step, _⟩
    · exact held
    · exact absurd step List.not_mem_nil
  | cons call rest ih =>
    have first := keeps call List.mem_cons_self
    refine ih (fun other inside => keeps other (List.mem_cons_of_mem _ inside)) ?_
    rcases held with held | ⟨before, f, outcome, step, done, rfl⟩
    · exact .inl (runFiles w call ▸ writesKeep first (.inl held))
    · rcases List.mem_append.mp step with here | later
      · exact .inl (runFiles w call ▸ writesKeep first (.inr ⟨before, f, outcome, here, done, rfl⟩))
      · exact .inr ⟨before, f, outcome, later, done, rfl⟩

theorem attemptsFiles {files : List GeneratedFile} {w before : Workspace} {f : GeneratedFile}
    (step : (before, f) ∈ w.attempts files) : f ∈ files := by
  induction files generalizing w with
  | nil => exact absurd step List.not_mem_nil
  | cons g rest ih =>
    rcases List.mem_cons.mp step with now | later
    · cases now
      exact List.mem_cons_self
    · exact List.mem_cons_of_mem _ (ih later)

theorem attemptsInFiles {calls : List WriteCall} {w before : Workspace} {f : GeneratedFile}
    (step : (before, f) ∈ w.attemptsIn calls) : ∃ call ∈ calls, f ∈ call.files := by
  induction calls generalizing w with
  | nil => exact absurd step List.not_mem_nil
  | cons call rest ih =>
    rcases List.mem_append.mp step with here | later
    · exact ⟨call, List.mem_cons_self, attemptsFiles here⟩
    · obtain ⟨other, inside, found⟩ := ih later
      exact ⟨other, List.mem_cons_of_mem _ inside, found⟩

theorem nothingLost {w : Workspace} {calls : List WriteCall}
    (keeps : ∀ call ∈ calls, ∀ f ∈ call.files, f.options.Keeps) :
    (∀ c, w.tree.HoldsContents c → (calls.foldl WriteCall.run w).tree.HoldsContents c) ∧
      (∀ before f outcome, (before, f) ∈ w.attemptsIn calls → (before.write f).2 = .ok outcome →
        (calls.foldl WriteCall.run w).tree.HoldsContents (.text f.content)) ∧
      ∀ before f, (before, f) ∈ w.attemptsIn calls →
        match (before.write f).2 with
        | .error _ => ∀ k, (before.write f).1.tree.fileAt k = before.tree.fileAt k
        | .ok outcome => ∃ l,
            (before.write f).1.tree.locate outcome.writtenPath =
              .ok (.present l (.file (.text f.content))) ∧
            match outcome.backup? with
            | none => before.tree.fileAt l = none ∧
                ∀ k, k ≠ l → (before.write f).1.tree.fileAt k = before.tree.fileAt k
            | some b => before.tree.present b = false ∧ ∃ m old,
                before.tree.at? m = none ∧ before.tree.fileAt l = some old ∧
                (before.write f).1.tree.locate b = .ok (.present m (.file old)) ∧
                ∀ k, k ≠ l → k ≠ m →
                  (before.write f).1.tree.fileAt k = before.tree.fileAt k := by
  refine ⟨fun c held => callsKeep keeps (.inl held), fun before f outcome step done =>
    callsKeep keeps (.inr ⟨before, f, outcome, step, done, rfl⟩), fun before f step => ?_⟩
  obtain ⟨call, inside, mine⟩ := attemptsInFiles step
  have keep := keeps call inside f mine
  have effect := writeEffect before f
  revert effect
  generalize (before.write f).1.tree = u
  generalize (before.write f).2 = result
  intro effect
  cases effect with
  | failed files => exact files
  | @added outcome l unbacked fresh text others =>
    refine ⟨l, text, ?_⟩
    simp only [unbacked]
    exact ⟨fresh, others⟩
  | @replaced l m old b absent fresh earlier text copy others =>
    exact ⟨l, text, absent, m, old, fresh, earlier, copy, others⟩
  | discarded asked text others => exact absurd keep asked

theorem reportNotLost :
    let calls : List WriteCall :=
      [.one ⟨"page.tsx", "second", {}⟩, .batch [⟨"page.tsx", "third", ⟨false, false⟩⟩]]
    let w : Workspace := { tree := Tree.ofList [] [(["page.tsx"], .file (.text "first"))] }
    (∀ call ∈ calls, ∀ f ∈ call.files, f.options.Keeps) ∧ w.tree.HoldsContents (.text "first") ∧
      (calls.foldl WriteCall.run w).tree.HoldsContents (.text "first") := by
  intro calls w
  have keeps : ∀ call ∈ calls, ∀ f ∈ call.files, f.options.Keeps := by decide
  have held : w.tree.HoldsContents (.text "first") := ⟨["page.tsx"], by decide⟩
  exact ⟨keeps, held, (nothingLost keeps).1 _ held⟩

end Workspace
end ApiScreens
