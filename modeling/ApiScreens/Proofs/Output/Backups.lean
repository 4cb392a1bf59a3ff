import ApiScreens.Proofs.Clock
import ApiScreens.Proofs.Output.Ending
import ApiScreens.Proofs.Output.Frame

/-! Backups in the order in which they are made. Each has a later time than the one before, or the same time and a
higher number; how far their names keep that order is read off the times and the numbers. Names are compared as texts,
character by character, which is how their bytes compare too. -/
namespace ApiScreens
open Files ApiScreens.Path

structure Mark where
  time : Instant
  count : Nat
  deriving DecidableEq, Repr

namespace Mark

def path (p : String) (m : Mark) : String := backup p (Tree.timed m.time.stamp m.count)

def name (p : String) (m : Mark) : String :=
  (stem p).getD "" ++ (".backup." ++ Tree.timed m.time.stamp m.count) ++ ending p

theorem pathNamed (p : String) (m : Mark) : fileName (m.path p) = some (m.name p) := by
  have component := taggedComponent p (Tree.backupTagClear m.time m.count) (c := 'b') (by simp) (by decide)
  rw [path, backup, taggedAround, fileNameAppend component]
  rfl

def Earlier (a b : Mark) : Prop :=
  a.time.nanoseconds < b.time.nanoseconds ∨ a.time = b.time ∧ a.count < b.count

/-- What it takes for the name of a backup to stand before that of a later one. If their times differ, the last
decimal place that the earlier time is spelled with has ticked; else the later number is the greater text. A hyphen
in front of a number stands below the dot of an extension, but behind a name that has none. -/
def Ascends (p : String) (a b : Mark) : Prop :=
  if a.time = b.time then
    if a.count = 0 then extension p = none else toString a.count < toString b.count
  else a.time.Ticked b.time

instance (p : String) (a b : Mark) : Decidable (a.Ascends p b) := by unfold Ascends; infer_instance

end Mark

theorem frontOrder (s x y : List Char) : s ++ x < s ++ y ↔ x < y := by
  induction s with
  | nil => rfl
  | cons c s ih => rw [List.cons_append, List.cons_append, List.cons_lt_cons_self, ih]

theorem dotBelow {c : Char} (digit : c.isDigit) : '.' < c := by
  have zero : '0' ≤ c := by
    simp only [Char.isDigit, Bool.and_eq_true, decide_eq_true_eq] at digit
    exact digit.1
  exact Std.lt_of_lt_of_le (by decide) zero

theorem digitsOrder (p : String) {s t : List Char} (left : ∀ c ∈ s, c.isDigit) (right : ∀ c ∈ t, c.isDigit) :
    s ++ (ending p).toList < t ++ (ending p).toList ↔ s < t := by
  have start : (ending p).toList = [] ∨ ∃ rest, (ending p).toList = '.' :: rest := by
    unfold ending
    cases extension p with
    | none => exact .inl rfl
    | some ext => exact .inr ⟨ext.toList, by simp⟩
  generalize (ending p).toList = e at start
  induction s generalizing t with
  | nil =>
    cases t with
    | nil => simp
    | cons d t =>
      have above := dotBelow (right d List.mem_cons_self)
      rcases start with rfl | ⟨rest, rfl⟩
      · simp
      · simp [List.cons_lt_cons_iff, above]
  | cons c s ih =>
    cases t with
    | nil =>
      have above := dotBelow (left c List.mem_cons_self)
      rcases start with rfl | ⟨rest, rfl⟩
      · simp
      · have other : c ≠ '.' := fun same => absurd above (same ▸ Char.lt_irrefl c)
        have never : ¬c < '.' := Char.not_lt.mpr (Std.le_of_lt above)
        simp [List.cons_lt_cons_iff, other, never]
    | cons d t =>
      have rest := ih (fun c inside => left c (List.mem_cons_of_mem _ inside))
        (fun c inside => right c (List.mem_cons_of_mem _ inside))
      simp only [List.cons_append, List.cons_lt_cons_iff, rest]

theorem timedOrder (p : String) {t : Instant} {m n : Nat} (fewer : m < n) :
    Tree.timed t.stamp m ++ ending p < Tree.timed t.stamp n ++ ending p ↔
      if m = 0 then extension p = none else toString m < toString n := by
  obtain ⟨k, rfl⟩ := Nat.exists_eq_add_one_of_ne_zero (Nat.ne_of_gt (Nat.zero_lt_of_lt fewer))
  rw [String.lt_iff, Tree.timed]
  cases m with
  | zero =>
    simp only [Tree.timed, String.toList_append, List.append_assoc, frontOrder, if_true, ending]
    cases extension p with
    | none => simp
    | some ext =>
      simp [List.cons_lt_cons_iff]
  | succ m =>
    simp only [Tree.timed, String.toList_append, List.append_assoc, frontOrder,
      digitsOrder p (Naming.toStringDigits _) (Naming.toStringDigits _), String.lt_iff]
    simp

namespace Mark

theorem nameOrder (p : String) {a b : Mark} (earlier : a.Earlier b) (dated : b.time.Dated) :
    a.name p < b.name p ↔ a.Ascends p b := by
  have fronts : a.name p < b.name p ↔
      Tree.timed a.time.stamp a.count ++ ending p < Tree.timed b.time.stamp b.count ++ ending p := by
    simp only [name, String.lt_iff, String.toList_append, List.append_assoc, frontOrder]
  have spelled (m : Mark) : ∃ more, Tree.timed m.time.stamp m.count ++ ending p = m.time.stamp ++ more := by
    cases m.count with
    | zero => exact ⟨_, rfl⟩
    | succ n => exact ⟨_, by rw [Tree.timed, String.append_assoc, String.append_assoc]⟩
  rw [fronts]
  unfold Ascends
  obtain sooner | ⟨same, fewer⟩ := earlier
  · have other : a.time ≠ b.time := fun same => by simp [same] at sooner
    obtain ⟨x, first⟩ := spelled a
    obtain ⟨y, second⟩ := spelled b
    rw [if_neg other, first, second, Instant.stampOrder dated sooner]
  · rw [if_pos same, same, timedOrder p fewer]

end Mark

namespace Workspace
open Files.Tree

structure Follows (w v : Workspace) : Prop where
  tree : Spares (fun _ => True) w.tree v.tree
  clock : v.clock = w.clock
  readings : w.readings ≤ v.readings

namespace Follows
variable {u v w : Workspace}

theorem trans (first : Follows u v) (second : Follows v w) : Follows u w :=
  ⟨first.tree.trans second.tree, second.clock.trans first.clock, first.readings.trans second.readings⟩

theorem present (later : Follows w v) {p : String} (here : w.tree.present p = true) : v.tree.present p = true := by
  obtain ⟨k, e, found⟩ := presentLocate.mp here
  obtain ⟨f, there, _⟩ := later.tree.locate found
  exact presentLocate.mpr ⟨k, f, there⟩

end Follows

section
variable (w : Workspace)

theorem makeRoomClock (path : String) :
    (w.makeRoom path).1.clock = w.clock ∧ (w.makeRoom path).1.readings = w.readings := by
  unfold makeRoom
  split
  · exact ⟨rfl, rfl⟩
  · split <;> exact ⟨rfl, rfl⟩

theorem makeRoomFollows (path : String) : Follows w (w.makeRoom path).1 :=
  ⟨.ofGrows (w.makeRoomGrows path), (w.makeRoomClock path).1, (w.makeRoomClock path).2.ge⟩

theorem putFollows (path content line : String) (outcome : WriteOutcome) :
    Follows w (w.put path content line outcome).1 := by
  refine ⟨w.putSpares _ _ _ _, ?_, ?_⟩
  · unfold put
    split <;> rfl
  · unfold put
    split <;> exact le_refl _

theorem backUpFollows (path : String) : Follows w (w.backUp path).1 := by
  refine ⟨w.backUpSpares path, ?_, ?_⟩
  · unfold backUp now
    dsimp only
    split <;> rfl
  · unfold backUp now
    dsimp only
    split <;> exact Nat.le_succ _

theorem writeFollows (f : GeneratedFile) : Follows w (w.write f).1 :=
  writeSteps .trans (fun v => v.makeRoomFollows _) (fun v => v.backUpFollows _) (fun v _ _ _ _ => v.putFollows _ _ _ _) w

end

theorem writeBacksUp {w : Workspace} {f : GeneratedFile} {outcome : WriteOutcome} {b : String}
    (done : (w.write f).2 = .ok outcome) (made : outcome.backup? = some b) :
    ∃ v u, Follows w v ∧ v.readings = w.readings ∧ v.backUp f.path = (u, .ok b) ∧ Follows u (w.write f).1 := by
  have room := w.makeRoomFollows f.path
  have unread := (w.makeRoomClock f.path).2
  unfold write at done ⊢
  generalize w.makeRoom f.path = moved at room unread done
  obtain ⟨v, result⟩ := moved
  cases result with
  | error e => contradiction
  | ok _ =>
    simp only at done ⊢
    split_ifs at done ⊢
    · simp [putOutcome done, WriteOutcome.backup?] at made
    · unfold replace at done ⊢
      split_ifs at done ⊢
      · cases copied : v.backUp f.path with
        | mk u backup =>
          rw [copied] at done
          cases backup with
          | error e => contradiction
          | ok c =>
            have same : c = b := by simpa [putOutcome done, WriteOutcome.backup?] using made
            exact ⟨v, u, room, unread, by rw [copied, same], u.putFollows _ _ _ _⟩
      · simp [putOutcome done, WriteOutcome.backup?] at made
    · simp [putOutcome done, WriteOutcome.backup?] at made

structure Behind (p : String) (a : Mark) (w : Workspace) : Prop where
  past : ∀ n, w.readings ≤ n → a.time.nanoseconds ≤ (w.clock n).nanoseconds
  taken : ∀ m ≤ a.count, w.tree.present (Mark.path p ⟨a.time, m⟩) = true

namespace Behind
variable {p : String} {a : Mark} {w : Workspace} (behind : Behind p a w)
include behind

theorem follows {v : Workspace} (later : Follows w v) : Behind p a v where
  past n read := by
    rw [later.clock]
    exact behind.past n (later.readings.trans read)
  taken m small := later.present (behind.taken m small)

theorem earlier {n : Nat} (free : w.tree.present (Mark.path p ⟨w.now.1, n⟩) = false) : a.Earlier ⟨w.now.1, n⟩ := by
  obtain sooner | same := Nat.lt_or_eq_of_le (behind.past w.readings (le_refl _))
  · exact .inl sooner
  · have time : a.time = w.now.1 := congrArg Instant.mk same
    refine .inr ⟨time, Nat.lt_of_not_le fun small => ?_⟩
    have here := behind.taken n small
    rw [time, free] at here
    contradiction

end Behind

theorem backupMarked {w : Workspace} (steady : Monotone fun n => (w.clock n).nanoseconds) {f : GeneratedFile}
    {outcome : WriteOutcome} {b : String} (done : (w.write f).2 = .ok outcome) (made : outcome.backup? = some b) :
    ∃ n, b = Mark.path f.path ⟨w.now.1, n⟩ ∧ w.tree.present b = false ∧
      Behind f.path ⟨w.now.1, n⟩ (w.write f).1 := by
  obtain ⟨v, u, before, unread, copied, after⟩ := writeBacksUp done made
  have time : v.clock v.readings = w.now.1 := by rw [before.clock, unread]; rfl
  obtain ⟨n, search, spelled⟩ := backupSearch v.tree f.path (v.clock v.readings)
  have target := (v.backUpTarget copied).trans spelled
  obtain ⟨absent, _, m, _, _, _, _, there⟩ := backUpDone copied
  have copying := v.backUpFollows f.path
  rw [copied] at copying
  have whole := before.trans (copying.trans after)
  rw [time] at search target
  refine ⟨n, target, ?_, ⟨fun k read => ?_, fun k small => ?_⟩⟩
  · by_contra here
    rw [before.present (Bool.of_not_eq_false here)] at absent
    contradiction
  · rw [whole.clock]
    exact steady (whole.readings.trans read)
  · obtain earlier | rfl := Nat.lt_or_eq_of_le small
    · have taken := (Naming.searchExactly.mp search).2.2 k (Nat.zero_le k) earlier
      exact (copying.trans after).present (by simpa [Mark.path] using taken)
    · have here : u.tree.present b = true := presentLocate.mpr ⟨m, _, there⟩
      rw [target] at here
      exact after.present here

def backedUp (p : String) (step : Workspace × GeneratedFile) : Option (Instant × String) :=
  if step.2.path = p then
    ((step.1.write step.2).2.toOption.bind WriteOutcome.backup?).map fun b => (step.1.now.1, b)
  else none

theorem backedUpDone {p : String} {w : Workspace} {f : GeneratedFile} {backup : Instant × String}
    (made : backedUp p (w, f) = some backup) :
    f.path = p ∧ backup.1 = w.now.1 ∧ ∃ outcome, (w.write f).2 = .ok outcome ∧ outcome.backup? = some backup.2 := by
  unfold backedUp at made
  split at made
  · rename_i same
    obtain ⟨b, found, rfl⟩ := Option.map_eq_some_iff.mp made
    refine ⟨same, rfl, ?_⟩
    cases result : (w.write f).2 with
    | error e => simp [result, Except.toOption] at found
    | ok outcome => exact ⟨outcome, rfl, by simpa [result, Except.toOption] using found⟩
  · contradiction

def backups (w : Workspace) (p : String) (files : List GeneratedFile) : List (Instant × String) :=
  (w.attempts files).filterMap (backedUp p)

theorem backupsMarked {w : Workspace} (steady : Monotone fun n => (w.clock n).nanoseconds) (p : String)
    (files : List GeneratedFile) :
    ∃ marks : List Mark, w.backups p files = marks.map (fun m => (m.time, m.path p)) ∧
      marks.Pairwise Mark.Earlier ∧ ∀ a, Behind p a w → ∀ m ∈ marks, a.Earlier m := by
  induction files generalizing w with
  | nil => exact ⟨[], rfl, .nil, fun _ _ _ inside => absurd inside List.not_mem_nil⟩
  | cons f rest ih =>
    have later := w.writeFollows f
    obtain ⟨marks, spelled, ordered, behind⟩ := ih (w := (w.write f).1) (by rwa [later.clock])
    have kept : ∀ a, Behind p a w → ∀ m ∈ marks, a.Earlier m := fun a here => behind a (here.follows later)
    cases made : backedUp p (w, f) with
    | none =>
      refine ⟨marks, ?_, ordered, kept⟩
      rw [← spelled, backups, attempts, List.filterMap_cons_none made]
      rfl
    | some backup =>
      obtain ⟨rfl, time, outcome, done, reported⟩ := backedUpDone made
      obtain ⟨n, target, free, first⟩ := backupMarked steady done reported
      rw [target] at free
      refine ⟨⟨w.now.1, n⟩ :: marks, ?_, .cons (behind _ first) ordered, fun a here m inside => ?_⟩
      · rw [backups, attempts, List.filterMap_cons_some made, List.map_cons, ← target, ← time, ← spelled]
        rfl
      · rcases List.mem_cons.mp inside with rfl | more
        · exact here.earlier free
        · exact kept a here m more

theorem backupsSpelled {w : Workspace} (steady : Monotone fun n => (w.clock n).nanoseconds) (p : String)
    (files : List GeneratedFile) :
    ∃ marks : List Mark, w.backups p files = marks.map (fun m => (m.time, m.path p)) ∧
      (∀ m ∈ marks, fileName (m.path p) = some (m.name p)) ∧
      marks.Pairwise fun a b => a.Earlier b ∧ (b.time.Dated → (a.name p < b.name p ↔ a.Ascends p b)) := by
  obtain ⟨marks, spelled, ordered, _⟩ := backupsMarked steady p files
  exact ⟨marks, spelled, fun m _ => m.pathNamed p, ordered.imp fun earlier => ⟨earlier, Mark.nameOrder p earlier⟩⟩

def rewritten (clock : Nat → Instant) : Workspace where
  tree := Tree.ofList [] [(["order.json"], .file (.text "first"))]
  clock := clock

theorem spacedBackupsSorted :
    let w := rewritten fun n => ⟨n * 1500000000 + 500000000⟩
    let files := ["second", "third"].map (GeneratedFile.mk "order.json" · {})
    Monotone (fun n => (w.clock n).nanoseconds) ∧
      ∃ marks : List Mark, marks.length = 2 ∧
        w.backups "order.json" files = marks.map (fun m => (m.time, m.path "order.json")) ∧
        marks.Pairwise fun a b => a.name "order.json" < b.name "order.json" := by
  intro w files
  have steady : Monotone fun n => (w.clock n).nanoseconds :=
    monotone_nat_of_le_succ fun n => Nat.add_le_add_right (Nat.mul_le_mul_right _ (Nat.le_succ n)) _
  obtain ⟨marks, spelled, _, ordered⟩ := backupsSpelled steady "order.json" files
  have read : (w.backups "order.json" files).map (·.1) = [⟨500000000⟩, ⟨2000000000⟩] := by decide +kernel
  have times : marks.map (·.time) = [⟨500000000⟩, ⟨2000000000⟩] := by
    rw [← read, spelled, List.map_map]
    rfl
  have ticked : marks.Pairwise fun a b => b.time.Dated ∧ a.time ≠ b.time ∧ a.time.Ticked b.time := by
    have all : (marks.map (·.time)).Pairwise fun s t => t.Dated ∧ s ≠ t ∧ s.Ticked t := by
      rw [times]
      decide +kernel
    exact List.pairwise_map.mp all
  refine ⟨steady, marks, by simpa using congrArg List.length times, spelled, ?_⟩
  refine (ordered.and ticked).imp fun both => ?_
  obtain ⟨⟨_, exactly⟩, dated, other, later⟩ := both
  exact (exactly dated).mpr (by rwa [Mark.Ascends, if_neg other])

theorem halfSecondUnsorted :
    let w := rewritten fun n => ⟨min n 1 * 500000000⟩
    let files := ["second", "third", "fourth"].map (GeneratedFile.mk "order.json" · {})
    Monotone (fun n => (w.clock n).nanoseconds) ∧
      w.backups "order.json" files =
        [(⟨0⟩, "order.backup.1970-01-01T00-00-00Z.json"),
          (⟨500000000⟩, "order.backup.1970-01-01T00-00-00-5Z.json"),
          (⟨500000000⟩, "order.backup.1970-01-01T00-00-00-5Z-1.json")] ∧
      ¬(w.backups "order.json" files).Pairwise (fun a b => a.2 < b.2) ∧
      (w.backups "order.json" files).Pairwise fun a b => b.2 < a.2 := by
  intro w files
  have made : w.backups "order.json" files =
      [(⟨0⟩, "order.backup.1970-01-01T00-00-00Z.json"),
        (⟨500000000⟩, "order.backup.1970-01-01T00-00-00-5Z.json"),
        (⟨500000000⟩, "order.backup.1970-01-01T00-00-00-5Z-1.json")] := by decide +kernel
  refine ⟨monotone_nat_of_le_succ fun n => ?_, made, ?_, ?_⟩
  · exact Nat.mul_le_mul_right _ (min_le_min_right 1 (Nat.le_succ n))
  · rw [made]
    decide +kernel
  · rw [made]
    decide +kernel

end Workspace
end ApiScreens
