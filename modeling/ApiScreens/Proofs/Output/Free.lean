import ApiScreens.Output.Write
import ApiScreens.Proofs.Clock
import ApiScreens.Proofs.Files.Walk
import ApiScreens.Proofs.Naming.Free
import ApiScreens.Proofs.Path.Sibling

/-! Siblings that nothing is at. A tree has fewer entries than there are numbers, so the search for a free
sibling ends at one, however many are taken. -/
namespace ApiScreens.Files.Tree
open ApiScreens.Path

theorem taggedSearch (t : Tree) (p : String) (tag : Nat → String)
    (injective : Function.Injective tag) (whole : ∀ n, '/' ∉ (tag n).toList) {c : Char}
    (inside : ∀ n, c ∈ (tag n).toList) (mark : c ≠ '.') :
    Naming.Search (fun n => !t.present (tagged p (tag n))) 1
      (Naming.leastFree t.entries.length fun n => !t.present (tagged p (tag n))) := by
  obtain ⟨l, within⟩ := followWithin t (around p)
  let name (n : Nat) : String := (stem p).getD "" ++ tag n ++ ending p
  have component (n : Nat) : Component (name n) := taggedComponent p (whole n) (inside n) mark
  have distinct : Function.Injective fun n => l ++ [name n] := by
    intro m n same
    have names : name m = name n := by simpa using same
    exact injective (taggedInjective p names)
  have occupied (n : Nat) (taken : (!t.present (tagged p (tag n))) = false) :
      l ++ [name n] ∈ t.entries.map (·.1) := by
    have here : t.present (tagged p (tag n)) = true := by simpa using taken
    rw [taggedAround] at here
    obtain ⟨k, e, found⟩ := presentLocate.mp here
    have followed := locateFollow found
    have at_ : k = l ++ [name n] := within _ _ (component n) followed
    have entry : t.at? k = some e := followEntry followed
    rw [at_] at entry
    exact (atListed (by simp)).mp (by simp [entry])
  have search := Naming.leastFreeSearch (t.entries.map (·.1)) (fun n => l ++ [name n]) distinct
    (fun n => !t.present (tagged p (tag n))) occupied
  rwa [List.length_map] at search

theorem numberClear (n : Nat) : '/' ∉ (toString n).toList :=
  fun slash => absurd (Naming.toStringDigits n _ slash) (by decide)

theorem numberedSearch (t : Tree) (p : String) :
    ∃ n, Naming.Search (fun n => !t.present (Path.numbered p n)) 1 n ∧ t.numberedPath p = Path.numbered p n := by
  refine ⟨_, ?_, rfl⟩
  refine taggedSearch t p (fun n => "_" ++ toString n) (fun m n same => ?_) (fun n => ?_) (c := '_')
    (fun n => by simp) (by decide)
  · exact Naming.toStringInjective ((String.append_right_inj _).mp same)
  · simp only [String.toList_append, List.mem_append, not_or]
    exact ⟨by simp, numberClear n⟩

theorem numberedPathFree (t : Tree) (p : String) : t.present (t.numberedPath p) = false := by
  obtain ⟨n, search, same⟩ := numberedSearch t p
  rw [same]
  simpa using (Naming.searchExactly.mp search).2.1

def timed (stamp : String) : Nat → String
  | 0 => stamp
  | n + 1 => stamp ++ "-" ++ toString (n + 1)

theorem timedClear (time : Instant) (n : Nat) : '/' ∉ (timed time.stamp n).toList := by
  cases n with
  | zero => exact stampWhole time
  | succ n =>
    simp only [timed, String.toList_append, List.mem_append, not_or]
    exact ⟨⟨stampWhole time, by simp⟩, numberClear (n + 1)⟩

theorem backupTagClear (time : Instant) (n : Nat) : '/' ∉ (".backup." ++ timed time.stamp n).toList := by
  simp only [String.toList_append, List.mem_append, not_or]
  exact ⟨by simp, timedClear time n⟩

theorem backupSearch (t : Tree) (p : String) (time : Instant) :
    ∃ n, Naming.Search (fun n => !t.present (Path.backup p (timed time.stamp n))) 0 n ∧
      t.backupPath p time.stamp = Path.backup p (timed time.stamp n) := by
  unfold backupPath
  split
  · rename_i taken
    have search := taggedSearch t p (fun n => ".backup." ++ (time.stamp ++ "-" ++ toString n))
      (fun m n same => Naming.toStringInjective ((String.append_right_inj _).mp ((String.append_right_inj _).mp same)))
      (fun n => by
        simp only [String.toList_append, List.mem_append, not_or]
        exact ⟨by simp, ⟨stampWhole time, by simp⟩, numberClear n⟩)
      (c := 'b') (fun n => by simp) (by decide)
    have positive := Naming.leastFreePositive t.entries.length fun n =>
      !t.present (Path.backup p (time.stamp ++ "-" ++ toString n))
    have spelled {n : Nat} (positive : 1 ≤ n) : timed time.stamp n = time.stamp ++ "-" ++ toString n := by
      obtain ⟨m, rfl⟩ := Nat.exists_eq_add_of_le' positive
      rfl
    refine ⟨_, .further (by simpa [timed] using taken) (search.congr fun n least => ?_), ?_⟩
    · rw [spelled least]
      rfl
    · exact congrArg (Path.backup p) (spelled positive).symm
  · rename_i free
    exact ⟨0, .here (by simpa [timed] using free), rfl⟩

theorem backupPathFree (t : Tree) (p : String) (time : Instant) :
    t.present (t.backupPath p time.stamp) = false := by
  obtain ⟨n, search, same⟩ := backupSearch t p time
  rw [same]
  simpa using (Naming.searchExactly.mp search).2.1

end ApiScreens.Files.Tree
