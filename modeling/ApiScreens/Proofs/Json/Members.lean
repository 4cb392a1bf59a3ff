import ApiScreens.Document
import ApiScreens.Json.Value
import Mathlib.Data.List.Basic

/-! Values by induction, members by their lookups, and the values that paths of member names lead to. Where a value is
changed in one place, what the place holds is changed and what is found elsewhere is not. -/
namespace ApiScreens
open Json (Value Members)

namespace Json

@[elab_as_elim]
theorem Value.byParts {P : Value → Prop} (null : P .null) (bool : ∀ b, P (.bool b))
    (number : ∀ n, P (.number n)) (string : ∀ s, P (.string s))
    (array : ∀ items : List Value, (∀ x ∈ items, P x) → P (.array items))
    (object : ∀ members : Members, (∀ m ∈ members, P m.2) → P (.object members)) (v : Value) : P v :=
  @Value.rec P (fun items => ∀ x ∈ items, P x) (fun members => ∀ m ∈ members, P m.2) (fun m => P m.2)
    null bool number string array object (fun _ inside => absurd inside List.not_mem_nil)
    (fun _ _ here more => List.forall_mem_cons.mpr ⟨here, more⟩) (fun _ inside => absurd inside List.not_mem_nil)
    (fun _ _ here more => List.forall_mem_cons.mpr ⟨here, more⟩) (fun _ _ here => here) v

namespace Members

theorem getCons (k : String) (w : Value) (rest : Members) (key : String) :
    get? ((k, w) :: rest) key = if k = key then some w else get? rest key := by
  rw [get?, List.lookup_cons]
  by_cases same : k = key
  · simp [same]
  · have differs : (key == k) = false := by simpa using Ne.symm same
    simp [same, differs, get?]

theorem memberGet {ms : Members} {key : String} {v : Value} (found : ms.get? key = some v) : (key, v) ∈ ms := by
  induction ms with
  | nil => contradiction
  | cons m rest ih =>
    obtain ⟨name, w⟩ := m
    rw [getCons] at found
    split at found
    · rename_i same
      cases found
      rw [same]
      exact List.mem_cons_self
    · exact List.mem_cons_of_mem _ (ih found)

theorem getAbsent {ms : Members} {key : String} (absent : key ∉ ms.keys) : ms.get? key = none := by
  cases found : ms.get? key with
  | none => rfl
  | some v => exact absurd (List.mem_map_of_mem (f := Prod.fst) (memberGet found)) absent

theorem memberFound {ms : Members} (distinct : ms.keys.Nodup) {key : String} {v : Value}
    (inside : (key, v) ∈ ms) : ms.get? key = some v := by
  induction ms with
  | nil => exact absurd inside List.not_mem_nil
  | cons m rest ih =>
    obtain ⟨name, w⟩ := m
    obtain ⟨fresh, more⟩ := List.nodup_cons.mp distinct
    rw [getCons]
    rcases List.mem_cons.mp inside with same | later
    · obtain ⟨rfl, rfl⟩ := Prod.mk.inj same
      exact if_pos rfl
    · have differs : name ≠ key := fun same => fresh (List.mem_map.mpr ⟨(key, v), later, same.symm⟩)
      rw [if_neg differs, ih more later]

theorem getSet (ms : Members) (key k : String) (v : Value) :
    (ms.set key v).get? k = if k = key then some v else ms.get? k := by
  induction ms with
  | nil =>
    rw [set, getCons]
    exact if_congr eq_comm rfl rfl
  | cons m rest ih =>
    obtain ⟨name, w⟩ := m
    unfold set
    split
    · rename_i same
      subst same
      rw [getCons, getCons]
      by_cases other : name = k
      · simp [other]
      · simp [other, Ne.symm other]
    · rename_i differs
      rw [getCons, getCons, ih]
      by_cases here : name = k
      · subst here
        simp [differs]
      · simp [here]

theorem setSplit {ms : Members} {key : String} {v : Value} (found : ms.get? key = some v) :
    ∃ before after, ms = before ++ (key, v) :: after ∧ (∀ m ∈ before, m.1 ≠ key) ∧
      ∀ w, ms.set key w = before ++ (key, w) :: after := by
  induction ms with
  | nil => contradiction
  | cons m rest ih =>
    obtain ⟨name, u⟩ := m
    rw [getCons] at found
    split at found
    · rename_i same
      cases found
      subst same
      exact ⟨[], rest, rfl, List.forall_mem_nil _, fun w => if_pos rfl⟩
    · rename_i differs
      obtain ⟨before, after, rfl, others, replaced⟩ := ih found
      refine ⟨(name, u) :: before, after, rfl, List.forall_mem_cons.mpr ⟨differs, others⟩, fun w => ?_⟩
      rw [set, if_neg differs, replaced w, List.cons_append]

theorem setSame {ms : Members} {key : String} {v : Value} (found : ms.get? key = some v) : ms.set key v = ms := by
  obtain ⟨before, after, shape, _, replaced⟩ := setSplit found
  rw [replaced v, shape]

theorem keysSet (ms : Members) (key : String) (v : Value) : ms.keys <+: (ms.set key v).keys := by
  induction ms with
  | nil => exact List.nil_prefix
  | cons m rest ih =>
    obtain ⟨name, w⟩ := m
    unfold set
    split
    · exact List.prefix_refl _
    · exact List.prefix_cons_inj name |>.mpr ih

end Members

namespace Value

def at? (v : Value) : List String → Option Value
  | [] => some v
  | name :: rest => (v.get? name).bind (at? · rest)

theorem atAppend (v : Value) (path rest : List String) :
    v.at? (path ++ rest) = (v.at? path).bind (at? · rest) := by
  induction path generalizing v with
  | nil => rfl
  | cons name path ih =>
    simp only [List.cons_append, at?, Option.bind_assoc]
    exact congrArg _ (funext fun w => ih w)

@[simp] theorem atNil (v : Value) : v.at? [] = some v := rfl

@[simp] theorem atCons (ms : Members) (name : String) (rest : List String) :
    (object ms).at? (name :: rest) = (ms.get? name).bind (at? · rest) := rfl

theorem objectOrLeaf (v : Value) : (∃ ms, v = .object ms) ∨ v.isObject = false := by
  cases v with
  | object ms => exact .inl ⟨ms, rfl⟩
  | _ => exact .inr rfl

theorem getOther {v : Value} (key : String) (leaf : v.isObject = false) : v.get? key = none := by
  cases v <;> first | rfl | simp [isObject, members?] at leaf

theorem atOther {v : Value} {path : List String} (leaf : v.isObject = false) (deeper : path ≠ []) :
    v.at? path = none := by
  cases path with
  | nil => exact absurd rfl deeper
  | cons name rest => rw [at?, getOther name leaf, Option.bind_none]

theorem atEmpty {path : List String} (deeper : path ≠ []) : (object []).at? path = none := by
  cases path with
  | nil => exact absurd rfl deeper
  | cons name rest => rfl

end Value
end Json

namespace Json.Value

def adjust (f : Value → Value) : (place : List String) → Value → Value
  | [], v => f v
  | key :: rest, .object ms =>
      match Members.get? ms key with
      | some v => .object (Members.set ms key (adjust f rest v))
      | none => .object ms
  | _ :: _, v => v

variable {f : Value → Value} {v : Value} {key : String} {rest : List String}

theorem getAdjust (f : Value → Value) (key : String) (rest : List String) (v : Value) (k : String) :
    (v.adjust f (key :: rest)).get? k = if k = key then (v.get? key).map (adjust f rest) else v.get? k := by
  cases v with
  | object ms =>
    rw [adjust]
    cases found : Members.get? ms key with
    | none =>
      have absent : (object ms).get? key = none := found
      rw [absent, Option.map_none]
      by_cases same : k = key
      · rw [if_pos same, same]
        exact absent
      · rw [if_neg same]
    | some w =>
      have present : (object ms).get? key = some w := found
      rw [present, Option.map_some]
      exact Members.getSet ms key k _
  | _ => simp [adjust, get?]

theorem getAdjusted : (v.adjust f (key :: rest)).get? key = (v.get? key).map (adjust f rest) := by
  rw [getAdjust, if_pos rfl]

theorem getElsewhere {k : String} (other : k ≠ key) : (v.adjust f (key :: rest)).get? k = v.get? k := by
  rw [getAdjust, if_neg other]

end Json.Value

namespace Document
open Json.Value

variable {f : Value → Value} {v : Value} {place : List String}

theorem descendOne (v : Value) (key : String) : descend v [key] = v.get? key := by
  simp [descend]

theorem descendAppend (v : Value) (place rest : List String) :
    descend v (place ++ rest) = (descend v place).bind (descend · rest) := by
  induction place generalizing v with
  | nil => rfl
  | cons key place ih =>
    simp only [List.cons_append, descend, Option.bind_assoc]
    exact congrArg _ (funext ih)

theorem descendAdjust (f : Value → Value) (place rest : List String) (v : Value) :
    descend (v.adjust f (place ++ rest)) place = (descend v place).map (adjust f rest) := by
  induction place generalizing v with
  | nil => rfl
  | cons key place ih =>
    rw [List.cons_append, descend, getAdjusted, descend]
    cases v.get? key with
    | none => rfl
    | some w => exact ih w

theorem adjustSame (same : ∀ w, descend v place = some w → f w = w) : v.adjust f place = v := by
  induction place generalizing v with
  | nil => exact same v rfl
  | cons key place ih =>
    cases v with
    | object ms =>
      rw [adjust]
      cases found : Members.get? ms key with
      | none => rfl
      | some w =>
        have inner : w.adjust f place = w := ih fun u there => same u (by
          rw [descend, Value.get?, found]
          exact there)
        dsimp only
        rw [inner, Members.setSame found]
    | _ => rfl

end Document
end ApiScreens
