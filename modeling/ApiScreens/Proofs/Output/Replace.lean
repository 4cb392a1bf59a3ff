import ApiScreens.Proofs.Output.Preservation
import ApiScreens.Proofs.Path.Location
import ApiScreens.Solutions.Directory

/-! Texts that replace a file without a backup. Nothing else is touched: directories stay, and so do all files
at other locations. -/
namespace ApiScreens
open Files

namespace Files.Tree

structure Spares (apart : Location → Prop) (t u : Tree) : Prop where
  base : u.base = t.base
  directories : ∀ k, t.at? k = some .directory → u.at? k = some .directory
  stay : ∀ k c, t.fileAt k = some c → ∃ d, u.fileAt k = some d
  files : ∀ k, ¬apart k → u.fileAt k = t.fileAt k

namespace Spares
variable {apart : Location → Prop} {t u v : Tree}

theorem refl (apart : Location → Prop) (t : Tree) : Spares apart t t :=
  ⟨rfl, fun _ here => here, fun _ c here => ⟨c, here⟩, fun _ _ => rfl⟩

theorem trans (first : Spares apart t u) (second : Spares apart u v) : Spares apart t v where
  base := second.base.trans first.base
  directories k here := second.directories k (first.directories k here)
  stay k c here := by
    obtain ⟨d, there⟩ := first.stay k c here
    exact second.stay k d there
  files k other := (second.files k other).trans (first.files k other)

theorem ofGrows (grows : Grows t u) : Spares apart t u where
  base := grows.base
  directories k here := grows.entries k _ here
  stay k c here := ⟨c, (grows.files k).trans here⟩
  files k _ := grows.files k

theorem ofReplaces {l : Location} {c : Contents} (replaces : Replaces t u l c) : Spares (· = l) t u where
  base := replaces.base
  directories := replaces.directories
  stay k d here := by
    rw [replaces.file k]
    split
    · exact ⟨c, rfl⟩
    · exact ⟨d, here⟩
  files k other := by rw [replaces.file k, if_neg other]

theorem weaken {wider : Location → Prop} (spares : Spares apart t u) (wide : ∀ k, apart k → wider k) :
    Spares wider t u :=
  ⟨spares.base, spares.directories, spares.stay, fun k other => spares.files k fun here => other (wide k here)⟩

variable {p : String} {k : Location}

theorem locate {e : Entry} (spares : Spares apart t u) (found : t.locate p = .ok (.present k e)) :
    ∃ f, u.locate p = .ok (.present k f) ∧ (¬apart k → f = e) := by
  have followed := locateFollow found
  have here : t.at? k = some e := followEntry followed
  cases e with
  | directory =>
    refine ⟨.directory, locateDirectory ?_, fun _ => rfl⟩
    exact followAt spares.base spares.directories followed (spares.directories k here)
  | file c =>
    obtain ⟨d, there⟩ := spares.stay k c (fileAtSome.mpr here)
    have led := followAt spares.base spares.directories followed (fileAtSome.mp there)
    refine ⟨.file d, locateFile.mpr ⟨led, (locateFile.mp found).2⟩, fun other => ?_⟩
    rw [spares.files k other, fileAtSome.mpr here] at there
    rw [Option.some.inj there]

theorem locateText {s : Contents} (spares : Spares apart t u) (other : ¬apart k)
    (found : t.locate p = .ok (.present k (.file s))) : u.locate p = .ok (.present k (.file s)) := by
  obtain ⟨f, there, same⟩ := spares.locate found
  rw [there, same other]

end Spares

theorem readTextExactly {t : Tree} {p s : String} :
    t.readText p = .ok s ↔ ∃ k, t.locate p = .ok (.present k (.file (.text s))) := by
  unfold readText read
  cases t.locate p with
  | error e => simp
  | ok place =>
    cases place with
    | free l => simp
    | present l e =>
      cases e with
      | directory => simp
      | file c => cases c <;> simp

end Files.Tree

namespace Workspace
open Files.Tree

theorem replaceDone {w v : Workspace} {path text : String} {outcome : WriteOutcome}
    (done : w.replaceText path text = (v, .ok outcome)) :
    Spares (· = Disk.locationOf w.tree.base path) w.tree v.tree ∧
      v.tree.locate path =
        .ok (.present (Disk.locationOf w.tree.base path) (.file (.text text))) := by
  have grows := makeRoomGrows w path
  unfold replaceText write at done
  generalize w.makeRoom path = made at grows done
  obtain ⟨room, outcome_⟩ := made
  have put {line : String} {reported : WriteOutcome}
      (put : room.put path text line reported = (v, .ok outcome)) :
      Spares (· = Disk.locationOf w.tree.base path) w.tree v.tree ∧
        v.tree.locate path =
          .ok (.present (Disk.locationOf w.tree.base path) (.file (.text text))) := by
    obtain ⟨_, place, found, replaces, there⟩ := putDone put
    have here : place.location = Disk.locationOf w.tree.base path := by
      rw [Disk.followLocation found, grows.base]
    rw [here] at replaces there
    exact ⟨.trans (.ofGrows grows) (.ofReplaces replaces), there⟩
  cases outcome_ with
  | error e => cases done
  | ok _ =>
    dsimp only at done
    split at done
    · exact put done
    · exact put done

end Workspace
end ApiScreens
