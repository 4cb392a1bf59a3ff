import ApiScreens.Document
import ApiScreens.Proofs.Json.Members
import ApiScreens.Proofs.Text.Pieces

/-! What references reach. Two descriptions that differ in their paths only resolve alike whatever does not
refer to a path, and what they find there does not refer to one either. -/
namespace ApiScreens
open Json (Value Members)

namespace Json.Value

mutual
def references : Value → List String
  | .array items => itemReferences items
  | .object ms => memberReferences ms
  | .null | .bool _ | .number _ | .string _ => []
def itemReferences : List Value → List String
  | [] => []
  | x :: rest => x.references ++ itemReferences rest
def memberReferences : List (String × Value) → List String
  | [] => []
  | (name, v) :: rest =>
      (if name = "$ref" then v.string?.toList else []) ++ v.references ++ memberReferences rest
end

def Pathless (v : Value) : Prop := ∀ r ∈ v.references, ¬"#/paths".toList <+: r.toList

instance (v : Value) : Decidable v.Pathless := by
  unfold Pathless
  infer_instance

theorem itemReferred {items : List Value} {x : Value} (inside : x ∈ items) {r : String}
    (refers : r ∈ x.references) : r ∈ (array items).references := by
  induction items with
  | nil => exact absurd inside List.not_mem_nil
  | cons y rest ih =>
    rcases List.mem_cons.mp inside with rfl | later
    · exact List.mem_append_left _ refers
    · exact List.mem_append_right _ (ih later)

theorem memberReferred {ms : Members} {m : String × Value} (inside : m ∈ ms) {r : String}
    (refers : r ∈ m.2.references ∨ m = ("$ref", .string r)) : r ∈ (object ms).references := by
  induction ms with
  | nil => exact absurd inside List.not_mem_nil
  | cons p rest ih =>
    rcases List.mem_cons.mp inside with rfl | later
    · refine List.mem_append_left _ ?_
      rcases refers with deep | rfl
      · exact List.mem_append_right _ deep
      · exact List.mem_append_left _ List.mem_cons_self
    · exact List.mem_append_right _ (ih later)

variable {v w : Value}

theorem pathlessMember (pathless : v.Pathless) {ms : Members} (members : v.members? = some ms)
    {m : String × Value} (inside : m ∈ ms) : m.2.Pathless := by
  cases v with
  | object _ =>
    cases members
    exact fun r refers => pathless r (memberReferred inside (.inl refers))
  | _ => contradiction

theorem pathlessItem (pathless : v.Pathless) {xs : List Value} (items : v.items? = some xs) {x : Value}
    (inside : x ∈ xs) : x.Pathless := by
  cases v with
  | array _ =>
    cases items
    exact fun r refers => pathless r (itemReferred inside refers)
  | _ => contradiction

theorem pathlessGet (pathless : v.Pathless) {key : String} (found : v.get? key = some w) : w.Pathless := by
  cases v with
  | object ms => exact pathlessMember pathless rfl (Members.memberGet found)
  | _ => contradiction

end Json.Value

namespace Document

theorem referencePathless {schema : Value} (pathless : schema.Pathless) {r : String}
    (refers : reference? schema = some r) : ¬"#/paths".toList <+: r.toList := by
  obtain ⟨v, found, text⟩ := Option.bind_eq_some_iff.mp refers
  cases schema with
  | object ms =>
    cases v with
    | string s =>
      cases text
      exact pathless r (Value.memberReferred (Members.memberGet found) (.inr rfl))
    | _ => contradiction
  | _ => contradiction

theorem unescapeWhole {key plain : List Char} (read : unescapeKey key = plain) (slash : '/' ∉ plain)
    (tilde : '~' ∉ plain) : key = plain := by
  induction key using unescapeKey.induct generalizing plain with
  | case1 rest _ => exact absurd (read ▸ List.mem_cons_self) slash
  | case2 rest _ => exact absurd (read ▸ List.mem_cons_self) tilde
  | case3 c rest no one ih =>
    rw [unescapeKey] at read
    · subst read
      exact congrArg (c :: ·) (ih rfl (fun inside => slash (List.mem_cons_of_mem _ inside))
        fun inside => tilde (List.mem_cons_of_mem _ inside))
    · exact no
    · exact one
  | case4 => exact read

theorem referenceKeysNonempty (r : String) : referenceKeys r ≠ some [] := by
  intro keys
  -- a text has at least one piece
  obtain ⟨pointer, _, split⟩ := Option.map_eq_some_iff.mp keys
  exact Text.piecesNonempty pointer (List.map_eq_nil_iff.mp split)

theorem referenceFirst {r : String} {rest : List String} (keys : referenceKeys r = some ("paths" :: rest)) :
    "#/paths".toList <+: r.toList := by
  obtain ⟨pointer, after, split⟩ := Option.map_eq_some_iff.mp keys
  have nonempty : Text.pieces (· == '/') pointer ≠ [] := Text.piecesNonempty pointer
  obtain ⟨p, more, cut⟩ := List.exists_cons_of_ne_nil nonempty
  rw [cut, List.map_cons] at split
  have first : unescapeKey p = "paths".toList := by
    rw [← (List.cons.inj split).1, String.toList_ofList]
  have whole : p = "paths".toList := unescapeWhole first (by decide) (by decide)
  obtain ⟨behind, rfl, _⟩ := Text.piecesHead cut
  rw [← Text.afterExactly.mp after, whole]
  exact ⟨behind, rfl⟩

/-- The descriptions differ in their paths only, and one of them refers to no path. -/
structure Outside (d e : Document) : Prop where
  same : ∀ key, key ≠ "paths" → d.root.get? key = e.root.get? key
  pathless : d.root.Pathless

structure Shared (x y : Option Value) : Prop where
  same : x = y
  pathless : ∀ v, x = some v → v.Pathless

namespace Shared
variable {x y : Option Value}

theorem nothing : Shared none none := ⟨rfl, fun _ found => nomatch found⟩

theorem value {v : Value} (pathless : v.Pathless) : Shared (some v) (some v) :=
  ⟨rfl, fun _ found => Option.some.inj found ▸ pathless⟩

theorem bind (shared : Shared x y) {f g : Value → Option Value}
    (each : ∀ v : Value, v.Pathless → Shared (f v) (g v)) : Shared (x.bind f) (y.bind g) := by
  cases shared.same
  cases x with
  | none => exact nothing
  | some v => exact each v (shared.pathless v rfl)

theorem or {a b : Option Value} (shared : Shared x y) (other : Shared a b) : Shared (x.or a) (y.or b) := by
  cases shared.same
  cases x with
  | none => exact other
  | some v => exact shared

theorem get {v : Value} (pathless : v.Pathless) (key : String) : Shared (v.get? key) (v.get? key) :=
  ⟨rfl, fun _ found => Value.pathlessGet pathless found⟩

theorem descend {v : Value} (pathless : v.Pathless) (path : List String) :
    Shared (Document.descend v path) (Document.descend v path) := by
  induction path generalizing v with
  | nil => exact value pathless
  | cons key rest ih => exact (get pathless key).bind fun _ found => ih found

theorem responseSchema {operation : Value} (pathless : operation.Pathless) :
    Shared (Document.responseSchema operation) (Document.responseSchema operation) := by
  unfold Document.responseSchema
  refine (get pathless _).bind fun responses here => ?_
  refine ((get here _).or (.get here _)).bind fun response here => ?_
  refine (get here _).bind fun content here => ?_
  exact ((get here _).or (.get here _)).bind fun media here => .get here _

end Shared

namespace Outside
variable {d e : Document} (outside : Outside d e)
include outside

theorem resolveRef {r : String} (clear : ¬"#/paths".toList <+: r.toList) :
    Shared (d.resolveRef r) (e.resolveRef r) := by
  unfold Document.resolveRef
  cases keys : referenceKeys r with
  | none => exact .nothing
  | some path =>
    cases path with
    | nil => exact absurd keys (referenceKeysNonempty r)
    | cons key rest =>
      have apart : key ≠ "paths" := fun same => clear (referenceFirst (same ▸ keys))
      have root : Shared (d.root.get? key) (e.root.get? key) :=
        ⟨outside.same key apart, fun _ found => Value.pathlessGet outside.pathless found⟩
      exact root.bind fun _ pathless => .descend pathless rest

variable {schema : Value} (pathless : schema.Pathless)
include pathless

theorem follow (depth : Nat) : Shared (d.follow depth schema) (e.follow depth schema) := by
  induction depth generalizing schema with
  | zero => exact .nothing
  | succ depth ih =>
    unfold Document.follow
    cases refers : reference? schema with
    | none => exact .value pathless
    | some r => exact (outside.resolveRef (referencePathless pathless refers)).bind fun _ found => ih found

theorem resolveSchema : Shared (d.resolveSchema schema) (e.resolveSchema schema) :=
  outside.follow pathless refDepth

theorem requestSchema : Shared (d.requestSchema schema) (e.requestSchema schema) :=
  (Shared.descend pathless _).bind fun _ found => outside.resolveSchema found

theorem itemSchema : Shared (d.itemSchema schema) (e.itemSchema schema) :=
  (Shared.get pathless _).bind fun _ found => outside.resolveSchema found

theorem dataRecord : Shared (d.dataRecord schema) (e.dataRecord schema) := by
  unfold Document.dataRecord
  cases content : property? schema "content" with
  | none =>
    dsimp only
    split
    · exact outside.itemSchema pathless
    · exact .value pathless
  | some c =>
    have inner : c.Pathless := (Shared.descend pathless _).pathless c content
    refine (outside.resolveSchema inner).bind fun resolved found => ?_
    split
    · exact outside.itemSchema found
    · split
      · exact outside.itemSchema pathless
      · exact .value pathless

theorem recordSchema : Shared (d.recordSchema schema) (e.recordSchema schema) := by
  have root := (Shared.responseSchema pathless).bind fun _ found => outside.resolveSchema found
  refine root.bind fun record found => ?_
  cases data : property? record "data" with
  | none =>
    dsimp only
    split
    · exact outside.itemSchema found
    · exact .value found
  | some inner =>
    have deeper : inner.Pathless := (Shared.descend found _).pathless inner data
    exact (outside.resolveSchema deeper).bind fun _ within => outside.dataRecord within

end Outside
end Document
end ApiScreens
