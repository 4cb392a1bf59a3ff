import ApiScreens.Proofs.Document.Chains
import ApiScreens.Proofs.Document.Text
import ApiScreens.Proofs.Entity

/-! Descriptions in which no object names a member twice, as those that were read. What the program finds in one is a
part of it, so that no schema that it comes to repeats the name of a property. -/
namespace ApiScreens
open Json (Value Members)

namespace Json.Value

def NamesOnce (v : Value) : Prop := ∃ depth, v.Fits depth

variable {v w : Value}

theorem onceMembers {ms : Members} (once : v.NamesOnce) (members : v.members? = some ms) :
    ms.keys.Nodup ∧ ∀ m ∈ ms, m.2.NamesOnce := by
  obtain ⟨depth, fits⟩ := once
  cases v with
  | object _ =>
    cases members
    obtain ⟨names, each⟩ := fitsMembers fits
    exact ⟨names, fun m inside => ⟨depth - 1, each m inside⟩⟩
  | _ => contradiction

theorem onceItem {xs : List Value} (once : v.NamesOnce) (items : v.items? = some xs) : ∀ x ∈ xs, x.NamesOnce := by
  obtain ⟨_, fits⟩ := once
  cases fits with
  | array each =>
    cases items
    exact fun x inside => ⟨_, each x inside⟩
  | _ => contradiction

theorem onceGet {key : String} (once : v.NamesOnce) (found : v.get? key = some w) : w.NamesOnce := by
  cases v with
  | object ms => exact (onceMembers once rfl).2 _ (Members.memberGet found)
  | _ => contradiction

end Json.Value

namespace Document

def Once (x : Option Value) : Prop := ∀ v, x = some v → v.NamesOnce

namespace Once
variable {x y : Option Value} {v : Value}

theorem nothing : Once none := fun _ found => nomatch found

theorem value (once : v.NamesOnce) : Once (some v) := fun _ found => Option.some.inj found ▸ once

theorem get (once : v.NamesOnce) (key : String) : Once (v.get? key) := fun _ => Value.onceGet once

theorem bind (once : Once x) {f : Value → Option Value} (each : ∀ v : Value, v.NamesOnce → Once (f v)) :
    Once (x.bind f) := by
  cases x with
  | none => exact nothing
  | some v => exact each v (once v rfl)

theorem or (left : Once x) (right : Once y) : Once (x.or y) := by
  cases x with
  | none => exact right
  | some v => exact left

theorem descend (once : v.NamesOnce) (path : List String) : Once (Document.descend v path) := by
  induction path generalizing v with
  | nil => exact value once
  | cons key rest ih => exact (get once key).bind fun _ here => ih here

theorem responseSchema (once : v.NamesOnce) : Once (Document.responseSchema v) := by
  unfold Document.responseSchema
  refine (get once _).bind fun responses here => ?_
  refine ((get here _).or (.get here _)).bind fun response here => ?_
  refine (get here _).bind fun content here => ?_
  exact ((get here _).or (.get here _)).bind fun media here => .get here _

end Once

section
variable {doc : Document} (root : doc.root.NamesOnce) {v : Value}
include root

theorem onceReference (r : String) : Once (doc.resolveRef r) := by
  unfold resolveRef
  cases referenceKeys r with
  | none => exact .nothing
  | some keys => exact .descend root keys

theorem onceLeads {hops : Nat} {w : Value} (once : v.NamesOnce) (way : doc.Leads hops v w) : w.NamesOnce := by
  induction way with
  | here => exact once
  | hop _ resolves _ ih => exact ih (onceReference root _ _ resolves)

theorem onceResolved (once : v.NamesOnce) : Once (doc.resolveSchema v) := fun _ found =>
  let ⟨_, _, way, _⟩ := followExactly.mp found
  onceLeads root once way

theorem onceRequest (once : v.NamesOnce) : Once (doc.requestSchema v) :=
  (Once.descend once _).bind fun _ here => onceResolved root here

theorem onceItems (once : v.NamesOnce) : Once (doc.itemSchema v) :=
  (Once.get once _).bind fun _ here => onceResolved root here

theorem onceData (once : v.NamesOnce) : Once (doc.dataRecord v) := by
  have bare : Once (if isArraySchema v then doc.itemSchema v else some v) := by
    split
    · exact onceItems root once
    · exact .value once
  unfold dataRecord
  split
  · exact bare
  · rename_i content found
    refine (onceResolved root (Once.descend once _ _ found)).bind fun target here => ?_
    split
    · exact onceItems root here
    · exact bare

theorem onceRecord (once : v.NamesOnce) : Once (doc.recordSchema v) := by
  unfold recordSchema
  refine ((Once.responseSchema once).bind fun _ here => onceResolved root here).bind fun answer here => ?_
  split
  · rename_i data found
    exact (onceResolved root (Once.descend here _ _ found)).bind fun _ there => onceData root there
  · split
    · exact onceItems root here
    · exact .value here

theorem onceSearch {e : Endpoint} (once : e.operation.NamesOnce) : Once (e.searchSchema doc) := by
  unfold Endpoint.searchSchema
  cases parameters : (e.operation.get? "parameters").bind Value.items? with
  | none => exact .nothing
  | some ps =>
    obtain ⟨list, found, items⟩ := Option.bind_eq_some_iff.mp parameters
    have each : ∀ p ∈ ps, p.NamesOnce := Value.onceItem (Value.onceGet once found) items
    have first (test : Value → Bool) : Once (ps.find? test) := fun p here => each p (List.mem_of_find?_eq_some here)
    refine (first _).bind fun parameter here => ?_
    exact (Once.get here _).bind fun _ there => onceResolved root there

theorem onceListed {e : Endpoint} (has : doc.Has e) : e.operation.NamesOnce := by
  obtain ⟨item, listed, found⟩ := has
  unfold paths at listed
  cases paths : (doc.root.get? "paths").bind Value.members? with
  | none =>
    rw [paths] at listed
    exact absurd listed List.not_mem_nil
  | some table =>
    rw [paths] at listed
    obtain ⟨value, here, members⟩ := Option.bind_eq_some_iff.mp paths
    exact Value.onceGet ((Value.onceMembers (Value.onceGet root here) members).2 _ listed) found

end

theorem readOnce {text origin : String} {doc : Document} (read : parse text origin = .ok doc) : doc.root.NamesOnce :=
  readFits read

end Document
end ApiScreens
