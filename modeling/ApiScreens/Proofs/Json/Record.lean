import ApiScreens.Json.Record
import ApiScreens.Proofs.Json.RoundTrip
import Mathlib.Data.List.Forall2

/-! Records read back. Fields that are written under different names are each found again, an absent one as
absent, so that a record reads back if its fields do. The leaves read in one way only, a list reads item by item, and
named fields are those that an object gives at most once. -/
namespace ApiScreens.Json

def writtenMembers (ms : Members) : List (String × Written) := ms.map fun m => (m.1, Written.ofValue m.2)

theorem ofMembersMap (ms : Members) :
    Written.ofMembers ms = ms.map fun m => (some m.1, Written.ofValue m.2) := by
  induction ms with
  | nil => rfl
  | cons m rest ih =>
    obtain ⟨key, v⟩ := m
    simp [Written.ofMembers, ih]

theorem ofValuesMap (xs : List Value) : Written.ofValues xs = xs.map Written.ofValue := by
  induction xs with
  | nil => rfl
  | cons x rest ih => simp [Written.ofValues, ih]

theorem mapMSome {α β : Type} {f : α → Option β} {g : α → β} {l : List α}
    (each : ∀ x ∈ l, f x = some (g x)) : l.mapM f = some (l.map g) := by
  induction l with
  | nil => rfl
  | cons x rest ih =>
    have more := ih fun y inside => each y (List.mem_cons_of_mem _ inside)
    simp [each x List.mem_cons_self, more]

theorem membersOfObject (ms : Members) :
    (Written.ofValue (.object ms)).members? = some (writtenMembers ms) := by
  rw [Written.ofValue, ofMembersMap, Written.members?, List.mapM_map]
  exact mapMSome fun _ _ => rfl

theorem givenAbsent {fs : List (String × Option Value)} {key : String} (absent : key ∉ fs.map (·.1)) :
    given (writtenMembers (present fs)) key = [] := by
  simp only [given, List.map_eq_nil_iff, List.filter_eq_nil_iff, decide_eq_true_eq]
  intro m inside same
  obtain ⟨n, listed, rfl⟩ := List.mem_map.mp inside
  obtain ⟨f, there, made⟩ := List.mem_filterMap.mp listed
  obtain ⟨v, _, rfl⟩ := Option.map_eq_some_iff.mp made
  exact absent (List.mem_map.mpr ⟨f, there, same⟩)

theorem givenCons {f : String × Option Value} {fs : List (String × Option Value)} (key : String) :
    given (writtenMembers (present (f :: fs))) key =
      (if f.1 = key then (f.2.map Written.ofValue).toList else []) ++
        given (writtenMembers (present fs)) key := by
  obtain ⟨name, v⟩ := f
  simp only [present, List.filterMap_cons]
  cases v with
  | none => simp
  | some v => by_cases same : name = key <;> simp [given, writtenMembers, same]

theorem givenPresent {fs : List (String × Option Value)} (distinct : (fs.map (·.1)).Nodup)
    {f : String × Option Value} (inside : f ∈ fs) :
    given (writtenMembers (present fs)) f.1 = (f.2.map Written.ofValue).toList := by
  induction fs with
  | nil => exact absurd inside List.not_mem_nil
  | cons g rest ih =>
    obtain ⟨fresh, more⟩ := List.nodup_cons.mp distinct
    rw [givenCons]
    rcases List.mem_cons.mp inside with rfl | deep
    · rw [if_pos rfl, givenAbsent fresh, List.append_nil]
    · have other : g.1 ≠ f.1 := fun same => fresh (List.mem_map.mpr ⟨f, deep, same.symm⟩)
      rw [if_neg other, List.nil_append, ih more deep]

theorem namedPresent (fs gs : List (String × Option Value)) (distinct : (fs.map (·.1)).Nodup)
    (inside : ∀ g ∈ gs, g ∈ fs) :
    namedFields (gs.map (·.1)) (writtenMembers (present fs)) =
      some (gs.map fun g => g.2.map Written.ofValue) := by
  rw [namedFields, List.mapM_map]
  refine mapMSome fun g listed => ?_
  simp only [Function.comp_apply, givenPresent distinct (inside g listed)]
  cases g.2 <;> rfl

theorem fieldsPresent {names : List String} {fs : List (String × Option Value)}
    (same : fs.map (·.1) = names) (distinct : names.Nodup) :
    (Written.ofValue (.object (present fs))).fields names =
      some (fs.map fun f => f.2.map Written.ofValue) := by
  subst same
  have named := namedPresent fs fs distinct fun _ inside => inside
  have members := membersOfObject (present fs)
  rw [Written.ofValue] at members ⊢
  simp only [Written.fields, members, Option.bind_some, named]

theorem presentAll (ms : Members) : present (ms.map fun m => (m.1, some m.2)) = ms := by
  rw [present, List.filterMap_map]
  exact List.filterMap_some

theorem fieldsWritten {names : List String} {ms : Members} (same : ms.map (·.1) = names)
    (distinct : names.Nodup) :
    (Written.ofValue (.object ms)).fields names = some (ms.map fun m => some (Written.ofValue m.2)) := by
  have fields := @fieldsPresent names (ms.map fun m => (m.1, some m.2))
    (by simpa [Function.comp_def] using same) distinct
  rw [presentAll] at fields
  simpa [Function.comp_def] using fields

theorem namedWritten (ms ns : Members) (distinct : (ms.map (·.1)).Nodup) (inside : ∀ n ∈ ns, n ∈ ms) :
    namedFields (ns.map (·.1)) (writtenMembers ms) =
      some (ns.map fun n => some (Written.ofValue n.2)) := by
  have named := namedPresent (ms.map fun m => (m.1, some m.2)) (ns.map fun n => (n.1, some n.2))
    (by simpa [Function.comp_def] using distinct) fun g listed => by
      obtain ⟨n, there, rfl⟩ := List.mem_map.mp listed
      exact List.mem_map.mpr ⟨n, inside n there, rfl⟩
  rw [presentAll] at named
  simpa [Function.comp_def] using named

theorem valuesRead {depth : Nat} {items : List Value}
    (each : ∀ x ∈ items, ((Written.ofValue x).value? depth).isSome) :
    (Written.values? depth (Written.ofValues items)).isSome := by
  induction items with
  | nil => rfl
  | cons x rest ih =>
    obtain ⟨v, first⟩ := Option.isSome_iff_exists.mp (each x List.mem_cons_self)
    obtain ⟨vs, others⟩ := Option.isSome_iff_exists.mp
      (ih fun y inside => each y (List.mem_cons_of_mem _ inside))
    simp [Written.ofValues, Written.values?, first, others]

theorem pairsRead {depth : Nat} {ms : Members}
    (each : ∀ m ∈ ms, ((Written.ofValue m.2).value? depth).isSome) :
    (Written.pairs? depth (Written.ofMembers ms)).isSome := by
  induction ms with
  | nil => rfl
  | cons m rest ih =>
    obtain ⟨key, x⟩ := m
    obtain ⟨v, first⟩ := Option.isSome_iff_exists.mp (each (key, x) List.mem_cons_self)
    obtain ⟨more, others⟩ := Option.isSome_iff_exists.mp
      (ih fun y inside => each y (List.mem_cons_of_mem _ inside))
    simp [Written.ofMembers, Written.pairs?, first, others]

theorem arrayRead {depth : Nat} {items : List Value}
    (each : ∀ x ∈ items, ((Written.ofValue x).value? depth).isSome) :
    ((Written.ofValue (.array items)).value? (depth + 1)).isSome := by
  simpa [Written.ofValue, Written.value?] using valuesRead each

theorem objectRead {depth : Nat} {ms : Members}
    (each : ∀ m ∈ ms, ((Written.ofValue m.2).value? depth).isSome) :
    ((Written.ofValue (.object ms)).value? (depth + 1)).isSome := by
  simpa [Written.ofValue, Written.value?] using pairsRead each

@[simp] theorem stringRead (depth : Nat) (s : String) :
    ((Written.ofValue (.string s)).value? depth).isSome := rfl

@[simp] theorem naturalRead (depth n : Nat) : ((Written.ofValue (.ofNat n)).value? depth).isSome := rfl

theorem memberPresent {fs : List (String × Option Value)} {m : String × Value} :
    m ∈ present fs ↔ (m.1, some m.2) ∈ fs := by
  obtain ⟨key, v⟩ := m
  simp only [present, List.mem_filterMap, Option.map_eq_some_iff, Prod.mk.injEq]
  constructor
  · rintro ⟨⟨name, field⟩, listed, w, rfl, rfl, rfl⟩
    exact listed
  · intro listed
    exact ⟨_, listed, v, rfl, rfl, rfl⟩

theorem presentNames (fs : List (String × Option Value)) : (Members.keys (present fs)).Sublist (fs.map (·.1)) := by
  induction fs with
  | nil => exact .slnil
  | cons f rest ih =>
    obtain ⟨name, v⟩ := f
    cases v with
    | none => exact ih.cons name
    | some v => exact ih.cons_cons name

theorem presentEach {P : Value → Prop} {fs : List (String × Option Value)}
    (each : ∀ f ∈ fs, ∀ v, f.2 = some v → P v) : ∀ m ∈ present fs, P m.2 :=
  fun _ inside => each _ (memberPresent.mp inside) _ rfl

theorem namedSame {names : List String} {ms ns : List (String × Written)}
    (same : ∀ name ∈ names, given ms name = given ns name) :
    namedFields names ms = namedFields names ns := by
  unfold namedFields
  induction names with
  | nil => rfl
  | cons name rest ih =>
    rw [List.mapM_cons, List.mapM_cons, same name List.mem_cons_self,
      ih fun other listed => same other (List.mem_cons_of_mem _ listed)]

theorem fieldsBeside {names : List String} {ms more : Members} (beside : ∀ m ∈ more, m.1 ∉ names) :
    (Written.ofValue (.object (ms ++ more))).fields names = (Written.ofValue (.object ms)).fields names := by
  have same : ∀ name ∈ names,
      given (writtenMembers (ms ++ more)) name = given (writtenMembers ms) name := by
    intro name listed
    have none : more.filter (fun m => m.1 = name) = [] := by
      refine List.filter_eq_nil_iff.mpr fun m inside named => beside m inside ?_
      rwa [of_decide_eq_true named]
    simp [given, writtenMembers, List.filter_map, Function.comp_def, none]
  have whole := membersOfObject (ms ++ more)
  have part := membersOfObject ms
  rw [Written.ofValue] at whole part ⊢
  rw [Written.ofValue]
  simp only [Written.fields, whole, part, Option.bind_some, namedSame same]

theorem mapMExactly {α β : Type} {f : α → Option β} {l : List α} {ys : List β} :
    l.mapM f = some ys ↔ List.Forall₂ (fun x y => f x = some y) l ys := by
  induction l generalizing ys with
  | nil => simp [eq_comm]
  | cons x rest ih =>
    simp only [List.mapM_cons, Option.bind_eq_bind, Option.bind_eq_some_iff, Option.pure_def, Option.some.injEq, ih,
      List.forall₂_cons_left_iff]
    constructor
    · rintro ⟨y, first, more, others, rfl⟩
      exact ⟨y, more, first, others, rfl⟩
    · rintro ⟨y, more, first, others, rfl⟩
      exact ⟨y, first, more, others, rfl⟩

theorem pairOf {α β : Type} {r : α → β → Prop} {l : List α} {ys : List β} (each : List.Forall₂ r l ys) {x : α}
    (inside : x ∈ l) : ∃ y ∈ ys, r x y := by
  induction each with
  | nil => exact absurd inside List.not_mem_nil
  | cons first _ ih =>
    rcases List.mem_cons.mp inside with rfl | deep
    · exact ⟨_, List.mem_cons_self, first⟩
    · obtain ⟨y, there, related⟩ := ih deep
      exact ⟨y, List.mem_cons_of_mem _ there, related⟩

namespace Written

def natural (n : Nat) : Written := .number (some (.integer n))

theorem stringExactly {w : Written} {s : String} : w.string? = some s ↔ w = .string (some s) := by
  cases w <;> simp [string?]

theorem naturalExactly {bound : Nat} {w : Written} {n : Nat} :
    w.natural? bound = some n ↔ n < bound ∧ w = .natural n := by
  unfold natural? natural
  split
  · rename_i i
    simp only [Option.ite_none_right_eq_some, Option.some.injEq, number.injEq, Numeral.integer.injEq]
    omega
  · rename_i other
    simp only [reduceCtorEq, false_iff, not_and]
    exact fun _ same => other n same

theorem u32Exactly {w : Written} {n : UInt32} : w.u32? = some n ↔ w = .natural n.toNat := by
  simp only [u32?, Option.map_eq_some_iff, naturalExactly]
  constructor
  · rintro ⟨k, ⟨below, rfl⟩, rfl⟩
    have same : (UInt32.ofNat k).toNat = k := UInt32.toNat_ofNat_of_lt' below
    rw [same]
  · rintro rfl
    exact ⟨n.toNat, ⟨n.toNat_lt, rfl⟩, UInt32.ofNat_toNat⟩

theorem listExactly {α : Type} {read : Written → Option α} {w : Written} {xs : List α} :
    w.list? read = some xs ↔ ∃ items, w = .array items ∧ List.Forall₂ (fun x y => read x = some y) items xs := by
  cases w <;> simp [list?, mapMExactly]

end Written

theorem namedExactly {names : List String} {ms : List (String × Written)} {fields : List (Option Written)} :
    namedFields names ms = some fields ↔ List.Forall₂ (fun name f => given ms name = f.toList) names fields := by
  rw [namedFields, mapMExactly]
  refine iff_of_eq (congrArg (List.Forall₂ · names fields) (funext fun name => funext fun f => propext ?_))
  rcases given ms name with _ | ⟨w, _ | ⟨v, rest⟩⟩ <;> cases f <;> simp [eq_comm]

section
variable {α : Type} {read : Written → Option α} {ms : List (String × Written)} {name : String} {x : α}

theorem neededExactly {field : Option Written} :
    needed read field = some x ↔ ∃ w, field = some w ∧ read w = some x :=
  Option.bind_eq_some_iff

theorem givenNeeded : (∃ f : Option Written, given ms name = f.toList ∧ needed read f = some x) ↔
    ∃ w, given ms name = [w] ∧ read w = some x := by
  simp [Option.exists, needed]

theorem givenDefaulted {default : α} :
    (∃ f : Option Written, given ms name = f.toList ∧ defaulted default read f = some x) ↔
      (given ms name = [] ∧ x = default) ∨ ∃ w, given ms name = [w] ∧ read w = some x := by
  simp only [Option.exists, Option.toList_none, Option.toList_some, defaulted, Option.some.injEq]
  exact or_congr_left (and_congr_right fun _ => eq_comm)

end

theorem givenFilter {names : List String} (ms : List (String × Written)) {name : String} (apart : name ∉ names) :
    given (ms.filter fun m => m.1 ∉ names) name = given ms name := by
  rw [given, given, List.filter_filter]
  refine congrArg (List.map Prod.snd) (List.filter_congr fun m _ => ?_)
  by_cases same : m.1 = name
  · simp [same, apart]
  · simp [same]

end ApiScreens.Json
