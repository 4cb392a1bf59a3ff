import ApiScreens.Proofs.Files.Change
import ApiScreens.Proofs.Output.Frame
import ApiScreens.Proofs.Path.Ending

/-! Writes told apart by the last character of the name they leave behind. A file, its backups and its numbered
siblings end as the path of the write does, or in a mark; files whose names end otherwise stay as they are. -/
namespace ApiScreens
open Files ApiScreens.Path

def Files.EndsIn (c : Char) (l : Location) : Prop :=
  ∃ name, l.getLast? = some name ∧ name.toList.getLast? = some c

structure Unmarked (c : Char) : Prop where
  stamp : ¬IsStampChar c
  dot : c ≠ '.'
  line : c ≠ '_'

section
variable {p : String} {c d : Char} (last : p.toList.getLast? = some c) (closing : Closing c) (differs : c ≠ d)
  (unmarked : Unmarked d)
include last closing differs unmarked

theorem taggedOther (mark : Char) (line : mark ≠ '.') {front tag : String} (inside : mark ∈ front.toList)
    (whole : '/' ∉ front.toList) (other : front.toList.getLast? ≠ some d) (stamp : IsStampText tag) :
    ∃ name, fileName (tagged p (front ++ tag)) = some name ∧ name.toList.getLast? ≠ some d := by
  have clear : '/' ∉ (front ++ tag).toList := by
    rw [String.toList_append, List.mem_append, not_or]
    exact ⟨whole, fun slash => absurd (stamp _ slash) (by decide)⟩
  obtain ⟨name, named, ends⟩ := taggedEnds last closing clear (d := mark)
    (by rw [String.toList_append]; exact List.mem_append_left _ inside) line
  refine ⟨name, named, fun same => ?_⟩
  rw [same] at ends
  cases ends with
  | inl own => exact differs (Option.some.inj own).symm
  | inr tail =>
    rw [String.toList_append, List.getLast?_append] at tail
    cases final : tag.toList.getLast? with
    | none =>
      rw [final] at tail
      exact other tail.symm
    | some e =>
      rw [final] at tail
      have here := stamp e (List.mem_of_getLast? final)
      exact unmarked.stamp (Option.some.inj tail ▸ here)

theorem numberedOther (t : Tree) :
    ∃ name, fileName (t.numberedPath p) = some name ∧ name.toList.getLast? ≠ some d := by
  refine taggedOther last closing differs unmarked '_' (by decide) (by decide) (by decide) ?_
    (.digits (Naming.toStringDigits _))
  exact fun same => unmarked.line (Option.some.inj same).symm

theorem backupOther (t : Tree) (time : Instant) :
    ∃ name, fileName (t.backupPath p time.stamp) = some name ∧ name.toList.getLast? ≠ some d := by
  have spelled {tag : String} (stamp : IsStampText tag) :
      ∃ name, fileName (Path.backup p tag) = some name ∧ name.toList.getLast? ≠ some d := by
    refine taggedOther last closing differs unmarked 'b' (by decide) (by decide) (by decide) ?_ stamp
    exact fun same => unmarked.dot (Option.some.inj same).symm
  unfold Tree.backupPath
  split
  · have hyphen : IsStampText "-" := by decide
    exact spelled (((stampText time).append hyphen).append (.digits (Naming.toStringDigits _)))
  · exact spelled (stampText time)

end

namespace Workspace
open Files.Tree
variable (w : Workspace)

omit w in
theorem replacesOther {t u : Tree} {path name : String} {l : Location} {c : Contents} {d : Char}
    (replaces : Replaces t u l c) (there : u.locate path = .ok (.present l (.file c)))
    (named : fileName path = some name) (other : name.toList.getLast? ≠ some d) :
    Spares (fun k => ¬EndsIn d k) t u := by
  refine (Spares.ofReplaces replaces).weaken fun k here ends => ?_
  obtain ⟨own, final, same⟩ := ends
  rw [here, locatedName named there] at final
  exact other (Option.some.inj final ▸ same)

theorem putOther {path name : String} {d : Char} (named : fileName path = some name)
    (other : name.toList.getLast? ≠ some d) (content line : String) (outcome : WriteOutcome) :
    Spares (fun k => ¬EndsIn d k) w.tree (w.put path content line outcome).1.tree := by
  generalize done : w.put path content line outcome = result
  obtain ⟨v, reported⟩ := result
  cases reported with
  | error e =>
    rw [putFailed done]
    exact .refl _ _
  | ok reported =>
    obtain ⟨_, place, _, replaces, there⟩ := putDone done
    exact replacesOther replaces there named other

theorem backUpTarget {v : Workspace} {path b : String} (done : w.backUp path = (v, .ok b)) :
    b = w.tree.backupPath path (w.clock w.readings).stamp := by
  unfold backUp now at done
  simp only at done
  split at done
  · cases done
    rfl
  · cases done

section
variable {c d : Char} (closing : Closing c) (differs : c ≠ d) (unmarked : Unmarked d)
include closing differs unmarked

theorem backUpOther {path : String} (last : path.toList.getLast? = some c) :
    Spares (fun k => ¬EndsIn d k) w.tree (w.backUp path).1.tree := by
  generalize done : w.backUp path = result
  obtain ⟨v, reported⟩ := result
  cases reported with
  | error e =>
    rw [backUpFailed done]
    exact .refl _ _
  | ok b =>
    obtain ⟨name, named, other⟩ := backupOther last closing differs unmarked w.tree (w.clock w.readings)
    rw [← w.backUpTarget done] at named
    obtain ⟨_, l, m, old, _, _, replaces, there⟩ := backUpDone done
    exact replacesOther replaces there named other

theorem writeOther {f : GeneratedFile} (last : f.path.toList.getLast? = some c) :
    Spares (fun k => ¬EndsIn d k) w.tree (w.write f).1.tree := by
  obtain ⟨name, named, ends⟩ := fileNameEnds last closing
  have other : name.toList.getLast? ≠ some d := by simpa [ends] using differs
  refine writeSteps (R := fun v u => Spares (fun k => ¬EndsIn d k) v.tree u.tree) .trans
    (fun v => .ofGrows (v.makeRoomGrows _)) (fun v => v.backUpOther closing differs unmarked last) ?_ w
  rintro v path line outcome (rfl | rfl)
  · exact v.putOther named other _ _ _
  · obtain ⟨_, beside, apart⟩ := numberedOther last closing differs unmarked v.tree
    exact v.putOther beside apart _ _ _

end

variable {w} (named : w.tree.WellNamed)
include named

theorem makeRoomNamed (path : String) : (w.makeRoom path).1.tree.WellNamed := by
  unfold makeRoom
  split
  · exact named
  · rename_i around _
    have made := named.makeDirectories around
    generalize w.tree.makeDirectories around = result at made
    obtain ⟨t, failed⟩ := result
    cases failed <;> exact made

theorem putNamed (path content line : String) (outcome : WriteOutcome) :
    (w.put path content line outcome).1.tree.WellNamed := by
  unfold put
  split
  · rename_i t done
    exact named.write done
  · exact named

theorem backUpNamed (path : String) : (w.backUp path).1.tree.WellNamed := by
  unfold backUp now
  simp only
  split
  · rename_i t done
    exact named.copy done
  · exact named

theorem writeNamed (f : GeneratedFile) : (w.write f).1.tree.WellNamed :=
  writeSteps (R := fun v u => v.tree.WellNamed → u.tree.WellNamed) (fun first second here => second (first here))
    (fun _ here => makeRoomNamed here _) (fun _ here => backUpNamed here _)
    (fun _ _ _ _ _ here => putNamed here _ _ _ _) w named

end Workspace
end ApiScreens
