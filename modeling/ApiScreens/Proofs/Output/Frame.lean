import ApiScreens.Output.Batch
import ApiScreens.Proofs.Output.Replace

/-! What a write leaves alone, whatever its options are and whether it succeeds: directories stay where they are,
and a file changes only if the path of the write leads to it. -/
namespace ApiScreens
open Files

theorem Files.Tree.Spares.narrow {apart closer : Location → Prop} {t u : Tree} (spares : Spares apart t u)
    (files : ∀ k, ¬closer k → u.fileAt k = t.fileAt k) : Spares closer t u :=
  ⟨spares.base, spares.directories, spares.stay, files⟩

def WriteOptions.Lands (o : WriteOptions) (path written : String) : Prop :=
  written = path ∨ o.overwrite = false ∧ ∃ n, written = Path.numbered path n

theorem WriteOptions.Lands.overwritten {o : WriteOptions} {path written : String} (lands : o.Lands path written)
    (asked : o.overwrite = true) : written = path :=
  lands.resolve_right fun beside => by simp [asked] at beside

namespace Workspace
open Files.Tree

theorem writeSteps {R : Workspace → Workspace → Prop} (trans : ∀ {u v w}, R u v → R v w → R u w) {f : GeneratedFile}
    (room : ∀ v, R v (v.makeRoom f.path).1) (backUp : ∀ v, R v (v.backUp f.path).1)
    (put : ∀ v path line outcome, path = f.path ∨ path = v.tree.numberedPath f.path →
      R v (v.put path f.content line outcome).1) (w : Workspace) : R w (w.write f).1 := by
  have start := room w
  unfold write
  generalize w.makeRoom f.path = made at start
  obtain ⟨v, outcome⟩ := made
  cases outcome with
  | error e => exact start
  | ok _ =>
    simp only
    split_ifs
    · exact trans start (put v _ _ _ (.inl rfl))
    · refine trans start ?_
      unfold replace
      split_ifs
      · have copied := backUp v
        generalize v.backUp f.path = result at copied
        obtain ⟨u, reported⟩ := result
        cases reported with
        | error e => exact copied
        | ok b => exact trans copied (put u _ _ _ (.inl rfl))
      · exact put v _ _ _ (.inl rfl)
    · exact trans start (put v _ _ _ (.inr rfl))

section
variable (w : Workspace)

theorem putSpares (path content line : String) (outcome : WriteOutcome) :
    Spares (fun _ => True) w.tree (w.put path content line outcome).1.tree := by
  generalize done : w.put path content line outcome = result
  obtain ⟨v, reported⟩ := result
  cases reported with
  | error e =>
    rw [putFailed done]
    exact .refl _ _
  | ok reported =>
    obtain ⟨_, place, _, replaces, _⟩ := putDone done
    exact (Spares.ofReplaces replaces).weaken fun _ _ => trivial

theorem backUpSpares (path : String) : Spares (fun _ => True) w.tree (w.backUp path).1.tree := by
  generalize done : w.backUp path = result
  obtain ⟨v, reported⟩ := result
  cases reported with
  | error e =>
    rw [backUpFailed done]
    exact .refl _ _
  | ok b =>
    obtain ⟨_, _, _, _, _, _, replaces, _⟩ := backUpDone done
    exact (Spares.ofReplaces replaces).weaken fun _ _ => trivial

theorem writeSpares (f : GeneratedFile) :
    Spares (fun k => w.tree.fileAt k = none ∨ k = Disk.locationOf w.tree.base f.path) w.tree
      (w.write f).1.tree := by
  have frame : Spares (fun _ => True) w.tree (w.write f).1.tree :=
    writeSteps (R := fun v u => Spares (fun _ => True) v.tree u.tree) .trans (fun v => .ofGrows (v.makeRoomGrows _))
      (fun v => v.backUpSpares _) (fun v _ _ _ _ => v.putSpares _ _ _ _) w
  refine frame.narrow fun k other => ?_
  have held : w.tree.fileAt k ≠ none := fun none => other (.inl none)
  have target {l : Location} {c : Contents}
      (there : (w.write f).1.tree.locate f.path = .ok (.present l (.file c))) : k ≠ l := by
    intro same
    have place : l = Disk.locationOf (w.write f).1.tree.base f.path :=
      Disk.followLocation (locateFollow there)
    rw [frame.base] at place
    exact other (.inr (same.trans place))
  have effect := writeEffect w f
  generalize (w.write f).1.tree = u at effect target
  generalize (w.write f).2 = result at effect
  cases effect with
  | failed files => exact files k
  | added unbacked fresh text others =>
    refine others k fun same => held ?_
    rw [same, fresh]
  | replaced absent fresh earlier text copy others =>
    refine others k (target text) fun same => held ?_
    rw [same, fileAtNone fresh]
  | discarded asked text others => exact others k (target text)

theorem writeElsewhere {f : GeneratedFile} {l : Location} {c : Contents} (held : w.tree.fileAt l = some c)
    (other : l ≠ Disk.locationOf w.tree.base f.path) : Spares (· ≠ l) w.tree (w.write f).1.tree := by
  refine (w.writeSpares f).weaken fun k may same => ?_
  rw [same] at may
  cases may with
  | inl none =>
    rw [held] at none
    contradiction
  | inr here => exact other here

end

theorem putOutcome {v : Workspace} {path content line : String} {reported outcome : WriteOutcome}
    (done : (v.put path content line reported).2 = .ok outcome) : outcome = reported :=
  (putDone (v := (v.put path content line reported).1) (Prod.ext rfl done)).1

theorem writtenAs {w : Workspace} {f : GeneratedFile} {outcome : WriteOutcome} (done : (w.write f).2 = .ok outcome) :
    outcome = .created f.path ∨ (f.options.overwrite = true ∧ ∃ backup, outcome = .overwritten f.path backup) ∨
      f.options.overwrite = false ∧ ∃ n, outcome = .renamed f.path (Path.numbered f.path n) := by
  unfold write at done
  generalize w.makeRoom f.path = made at done
  obtain ⟨v, room⟩ := made
  cases room with
  | error e => contradiction
  | ok _ =>
    simp only at done
    split_ifs at done with _ asked
    · exact .inl (putOutcome done)
    · unfold replace at done
      split_ifs at done
      · generalize v.backUp f.path = copied at done
        obtain ⟨u, backup⟩ := copied
        cases backup with
        | error e => contradiction
        | ok b => exact .inr (.inl ⟨asked, _, putOutcome done⟩)
      · exact .inr (.inl ⟨asked, _, putOutcome done⟩)
    · exact .inr (.inr ⟨by simpa using asked, _, putOutcome done⟩)

theorem writtenLands {w : Workspace} {f : GeneratedFile} {outcome : WriteOutcome}
    (done : (w.write f).2 = .ok outcome) : f.options.Lands f.path outcome.writtenPath := by
  obtain same | ⟨_, _, same⟩ | ⟨kept, n, same⟩ := writtenAs done
  · exact .inl (by rw [same]; rfl)
  · exact .inl (by rw [same]; rfl)
  · exact .inr ⟨kept, n, by rw [same]; rfl⟩

theorem writeAllKeeps {I : Tree → Prop} {files : List GeneratedFile}
    (each : ∀ f ∈ files, ∀ v : Workspace, I v.tree → I (v.write f).1.tree) (w : Workspace) (start : I w.tree) :
    I (w.writeAll files).1.tree := by
  rw [writeAllAttempts]
  induction files generalizing w with
  | nil => exact start
  | cons f rest ih =>
    exact ih (fun g inside => each g (List.mem_cons_of_mem _ inside)) _ (each f List.mem_cons_self w start)

end Workspace
end ApiScreens
