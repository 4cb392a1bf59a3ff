import ApiScreens.Document.Text
import ApiScreens.Proofs.Json.Outline

/-! Descriptions as they are read. Neither reader repeats a name in an object, so a description that was read
lists every path once. -/
namespace ApiScreens
open Json (Value Members)

namespace Yaml

theorem integerLeaf {n : Int} {v : Value} {depth : Nat} (read : integerValue n = some v) : v.Fits depth := by
  unfold integerValue at read
  split at read <;> try contradiction
  cases read
  constructor

theorem floatLeaf {text : String} {v : Value} {depth : Nat} (read : float? text = some v) : v.Fits depth := by
  unfold float? at read
  split at read
  · cases read
    constructor
  · obtain ⟨x, _, rfl⟩ := Option.map_eq_some_iff.mp read
    constructor

theorem untaggedLeaf {text : String} {v : Value} {depth : Nat} (read : untagged text = some v) : v.Fits depth := by
  unfold untagged at read
  split at read
  · cases read
    constructor
  · split at read
    · cases read
      constructor
    · exact integerLeaf read
    · split at read
      · cases read
        constructor
      · cases number : float? text with
        | none =>
          rw [number] at read
          cases read
          constructor
        | some w =>
          rw [number] at read
          cases read
          exact floatLeaf number

theorem scalarLeaf {tag : Option String} {plain : Bool} {text : String} {v : Value} {depth : Nat}
    (read : scalarValue tag plain text = some v) : v.Fits depth := by
  unfold scalarValue at read
  split at read
  · split at read
    · exact untaggedLeaf read
    · cases read
      constructor
  · split at read
    · contradiction
    · split at read
      · obtain ⟨b, _, rfl⟩ := Option.map_eq_some_iff.mp read
        constructor
      · split at read
        · obtain ⟨n, _, made⟩ := Option.bind_eq_some_iff.mp read
          exact integerLeaf made
        · split at read
          · exact floatLeaf read
          · split at read
            · split at read <;> try contradiction
              cases read
              constructor
            · cases read
              constructor

section
variable {α β : Type} {left after : Nat}

theorem followingBind {x : Following α} {f : α → Following β} {b : β} :
    (x >>= f).run left = some (b, after) ↔
      ∃ a between, x.run left = some (a, between) ∧ (f a).run between = some (b, after) := by
  simp [StateT.run_bind, Option.bind_eq_some_iff]

theorem followingPure {a b : α} (ran : (pure a : Following α).run left = some (b, after)) : a = b := by
  simp only [StateT.run_pure, Option.pure_def, Option.some.injEq, Prod.mk.injEq] at ran
  exact ran.1

theorem followingMap {f : α → β} {x : Following α} {b : β} (ran : (f <$> x).run left = some (b, after)) :
    ∃ a, x.run left = some (a, after) ∧ f a = b := by
  simp only [StateT.run_map, Option.map_eq_map, Option.map_eq_some_iff, Prod.exists, Prod.mk.injEq] at ran
  obtain ⟨a, _, here, same, rfl⟩ := ran
  exact ⟨a, here, same⟩

theorem followingLift {x : Option α} {a : α} (ran : (x : Following α).run left = some (a, after)) :
    x = some a := by
  simp only [StateT.run_monadLift, monadLift_self, Option.bind_eq_bind, Option.bind_eq_some_iff] at ran
  obtain ⟨_, here, rfl, _⟩ := ran
  exact here

theorem followingFails {a : α} : (failure : Following α).run left ≠ some (a, after) := by
  simp

theorem followingAll {f : α → Following β} {P : β → Prop}
    (each : ∀ a b {left after : Nat}, (f a).run left = some (b, after) → P b) {l : List α}
    {results : List β} (ran : (l.mapM f).run left = some (results, after)) :
    ∀ b ∈ results, P b := by
  induction l generalizing left after results with
  | nil =>
    rw [List.mapM_nil] at ran
    rw [← followingPure ran]
    exact fun _ inside => absurd inside List.not_mem_nil
  | cons a rest ih =>
    rw [List.mapM_cons] at ran
    obtain ⟨b, _, here, ran⟩ := followingBind.mp ran
    obtain ⟨more, _, later, ran⟩ := followingBind.mp ran
    rw [← followingPure ran]
    exact List.forall_mem_cons.mpr ⟨each a b here, ih later⟩

end

theorem valueFits (nodes : List (Nat × NumberedNode)) (depth : Nat) (n : NumberedNode) {left after : Nat}
    {v : Value} (read : (value nodes depth n).run left = some (v, after)) : v.Fits depth := by
  induction depth generalizing n left after v with
  | zero =>
    obtain ⟨node, _, _, ran⟩ := followingBind.mp read
    cases node with
    | scalar p plain text => exact scalarLeaf (followingLift ran)
    | _ => exact absurd ran followingFails
  | succ depth ih =>
    obtain ⟨node, _, _, ran⟩ := followingBind.mp read
    cases node with
    | scalar p plain text => exact scalarLeaf (followingLift ran)
    | sequence p items =>
      dsimp only at ran
      split at ran
      · exact absurd ran followingFails
      · obtain ⟨values, items, rfl⟩ := followingMap ran
        exact .array (followingAll (fun item _ _ _ here => ih item here) items)
    | mapping p entries =>
      dsimp only at ran
      split at ran
      · exact absurd ran followingFails
      · obtain ⟨pairs, _, members, ran⟩ := followingBind.mp ran
        rw [← followingPure ran]
        have each : ∀ m ∈ pairs, m.2.Fits depth := by
          refine followingAll (fun entry m _ _ step => ?_) members
          obtain ⟨k, _, _, step⟩ := followingBind.mp step
          obtain ⟨w, _, here, step⟩ := followingBind.mp step
          rw [← followingPure step]
          exact ih entry.2 here
        exact .object (Members.pairsNodup pairs) fun m inside => each m (Members.memberPairs inside)
    | _ => exact absurd ran followingFails

theorem parseFits {text : String} {v : Value} (read : parse text = some v) : v.Fits depthLimit := by
  unfold parse at read
  obtain ⟨ts, _, read⟩ := Option.bind_eq_some_iff.mp read
  obtain ⟨node, _, read⟩ := Option.bind_eq_some_iff.mp read
  cases node with
  | none =>
    cases read
    constructor
  | some n =>
    obtain ⟨⟨linked, _⟩, _, read⟩ := Option.bind_eq_some_iff.mp read
    obtain ⟨⟨w, _⟩, made, read⟩ := Option.bind_eq_some_iff.mp read
    cases read
    exact valueFits _ _ _ made

end Yaml

namespace Document

theorem pathsNodup {doc : Document} (distinct : doc.root.Distinct) : (Members.keys doc.paths).Nodup := by
  unfold paths
  cases root : doc.root.get? "paths" with
  | none => exact List.nodup_nil
  | some table =>
    cases table with
    | object ms => exact (Value.distinctMembers (Value.memberDistinct distinct root)).1
    | _ => exact List.nodup_nil

theorem readFits {text origin : String} {doc : Document} (read : parse text origin = .ok doc) :
    ∃ depth, doc.root.Fits depth := by
  unfold parse at read
  split at read <;> try contradiction
  rename_i root found
  split at read <;> try contradiction
  cases read
  unfold valueOf at found
  split at found
  · exact ⟨_, Value.parseFits found⟩
  · exact ⟨_, Yaml.parseFits found⟩

theorem readPathsNodup {text origin : String} {doc : Document} (read : parse text origin = .ok doc) :
    (Members.keys doc.paths).Nodup :=
  let ⟨_, fits⟩ := readFits read
  pathsNodup (Value.fitsDistinct fits)

end Document
end ApiScreens
