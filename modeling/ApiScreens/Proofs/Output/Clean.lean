import ApiScreens.Output.Batch
import ApiScreens.Proofs.Output.Ending

/-! Writes one after another of which none fails. A text stays where it was put unless a later write is asked to
replace what is there. -/
namespace ApiScreens
open Files ApiScreens.Path

namespace Workspace
open Files.Tree

section
variable {w : Workspace} {f : GeneratedFile}

theorem overwrittenAsked {path : String} {backup : Option String}
    (done : (w.write f).2 = .ok (.overwritten path backup)) : f.options.overwrite = true := by
  obtain same | ⟨asked, _⟩ | ⟨_, _, same⟩ := writtenAs done
  · contradiction
  · exact asked
  · contradiction

theorem writeBesideSpares (kept : f.options.overwrite = false) :
    Spares (fun k => w.tree.fileAt k = none) w.tree (w.write f).1.tree := by
  have effect := w.writeEffect f
  have frame := w.writeSpares f
  generalize reported : (w.write f).2 = result at effect
  refine frame.narrow fun k held => ?_
  generalize (w.write f).1.tree = u at effect
  cases effect with
  | failed files => exact files k
  | added unbacked fresh text others => exact others k fun same => held (same ▸ fresh)
  | replaced => simp [overwrittenAsked reported] at kept
  | discarded => simp [overwrittenAsked reported] at kept

theorem writtenPlace {c d : Char} (last : f.path.toList.getLast? = some c) (closing : Closing c) (differs : c ≠ d)
    (unmarked : Unmarked d) {outcome : WriteOutcome} (done : (w.write f).2 = .ok outcome) :
    ∃ l, (w.write f).1.tree.locate outcome.writtenPath = .ok (.present l (.file (.text f.content))) ∧
      ¬EndsIn d l := by
  have effect := w.writeEffect f
  have frame := w.writeOther closing differs unmarked last
  have own {l : Location} {e : Contents} (text : (w.write f).1.tree.locate f.path = .ok (.present l (.file e))) :
      ¬EndsIn d l := by
    obtain ⟨name, named, ends⟩ := fileNameEnds last closing
    intro other
    obtain ⟨last, final, same⟩ := other
    rw [locatedName named text] at final
    rw [← Option.some.inj final, ends] at same
    exact differs (Option.some.inj same)
  rw [done] at effect
  generalize (w.write f).1.tree = u at effect frame own
  cases effect with
  | added unbacked fresh text others =>
    refine ⟨_, text, fun ends => ?_⟩
    -- where no write of this path can reach there is no new file
    have there := fileAtSome.mpr (followEntry (locateFollow text))
    rw [frame.files _ (not_not.mpr ends), fresh] at there
    contradiction
  | replaced absent fresh earlier text copy others => exact ⟨_, text, own text⟩
  | discarded asked text others => exact ⟨_, text, own text⟩

end

inductive Written : Tree → List GeneratedFile → Tree → Prop where
  | done (t : Tree) : Written t [] t
  | step {v : Workspace} {u : Tree} {f : GeneratedFile} {rest : List GeneratedFile} {outcome : WriteOutcome}
      (done : (v.write f).2 = .ok outcome) (more : Written (v.write f).1.tree rest u) :
      Written v.tree (f :: rest) u

namespace Written
variable {t u : Tree} {files : List GeneratedFile}

theorem append {m : Tree} {more : List GeneratedFile} (first : Written t files m) (second : Written m more u) :
    Written t (files ++ more) u := by
  induction first with
  | done t => exact second
  | step done _ ih => exact .step done (ih second)

theorem base (run : Written t files u) : u.base = t.base := by
  induction run with
  | done t => rfl
  | @step v u f rest outcome done more ih => exact ih.trans (v.writeSpares f).base

theorem split {more : List GeneratedFile} (run : Written t (files ++ more) u) :
    ∃ m, Written t files m ∧ Written m more u := by
  induction files generalizing t with
  | nil => exact ⟨t, .done t, run⟩
  | cons f rest ih =>
    cases run with
    | step done later =>
      obtain ⟨m, first, second⟩ := ih later
      exact ⟨m, .step done first, second⟩

theorem spares (run : Written t files u) {l : Location} {c : Contents} (held : t.fileAt l = some c)
    (others : ∀ f ∈ files, f.options.overwrite = true → l ≠ Disk.locationOf t.base f.path) :
    Spares (· ≠ l) t u := by
  induction run with
  | done t => exact .refl _ _
  | @step v u f rest outcome done more ih =>
    have first : Spares (· ≠ l) v.tree (v.write f).1.tree := by
      cases asked : f.options.overwrite with
      | true => exact v.writeElsewhere held (others f List.mem_cons_self asked)
      | false =>
        refine (writeBesideSpares asked).weaken fun k fresh same => ?_
        rw [same, held] at fresh
        contradiction
    refine first.trans (ih ((first.files l (by simp)).trans held) fun g inside asked => ?_)
    rw [first.base]
    exact others g (List.mem_cons_of_mem _ inside) asked

theorem readable {before after : List GeneratedFile} {f : GeneratedFile} (run : Written t (before ++ f :: after) u)
    {c d : Char} (last : f.path.toList.getLast? = some c) (closing : Closing c) (differs : c ≠ d)
    (unmarked : Unmarked d)
    (others : ∀ l, ¬EndsIn d l → (f.options.overwrite = true → l = Disk.locationOf t.base f.path) →
      ∀ g ∈ after, g.options.overwrite = true → l ≠ Disk.locationOf t.base g.path) :
    ∃ path, f.options.Lands f.path path ∧ u.readText path = .ok f.content := by
  obtain ⟨m, first, later⟩ := run.split
  have start := first.base
  cases later with
  | @step v _ _ _ outcome done more =>
    obtain ⟨l, text, apart⟩ := writtenPlace last closing differs unmarked done
    have frame := (v.writeSpares f).base
    have held := fileAtSome.mpr (followEntry (locateFollow text))
    have own (asked : f.options.overwrite = true) : l = Disk.locationOf t.base f.path := by
      rw [(writtenLands done).overwritten asked] at text
      have place : l = Disk.locationOf (v.write f).1.tree.base f.path := Disk.followLocation (locateFollow text)
      rw [place, frame, start]
    have rest := more.spares held fun g inside asked => by
      rw [frame, start]
      exact others l apart own g inside asked
    exact ⟨outcome.writtenPath, writtenLands done,
      readTextExactly.mpr ⟨l, rest.locateText (by simp) text⟩⟩

end Written

theorem writeAllWritten {w : Workspace} {files : List GeneratedFile} (clean : (w.writeAll files).2.failed = 0) :
    Written w.tree files (w.writeAll files).1.tree := by
  rw [writeAllAttempts] at clean ⊢
  suffices general : ∀ report : BatchReport, ((w.attempts files).foldl (fun report step =>
      report.add step.2.path (step.1.write step.2).2) report).failed = 0 → report.failed = 0 ∧
      Written w.tree files (files.foldl (fun v f => (v.write f).1) w).tree from (general _ clean).2
  clear clean
  induction files generalizing w with
  | nil => exact fun report clean => ⟨clean, .done _⟩
  | cons f rest ih =>
    intro report clean
    obtain ⟨counted, more⟩ := ih _ clean
    cases done : (w.write f).2 with
    | error e => simp [done, BatchReport.add] at counted
    | ok outcome => exact ⟨by simpa [done, BatchReport.add] using counted, .step done more⟩

end Workspace
end ApiScreens
