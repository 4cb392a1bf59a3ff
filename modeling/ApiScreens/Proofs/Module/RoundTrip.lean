import ApiScreens.Module.Json
import ApiScreens.Proofs.Json.Record
import ApiScreens.Proofs.SortedMap

/-! A configuration reads back as the solution that it was written for. Every record does so field by field,
and its numbers have 32 or 64 bits. -/
namespace ApiScreens
open Json

section
variable {α : Type} {read : Written → Option α} {write : α → Value}

@[simp] theorem neededSome (w : Written) : needed read (some w) = read w := rfl

@[simp] theorem defaultedSome (default : α) (w : Written) : defaulted default read (some w) = read w := rfl

theorem nullableOther {w : Written} (differs : w ≠ .null) : nullable read (some w) = (read w).map some := by
  cases w <;> first | rfl | exact absurd rfl differs

theorem writtenOther {v : Value} (differs : v ≠ .null) : Written.ofValue v ≠ .null := by
  cases v <;> simp [Written.ofValue] at differs ⊢

theorem nullableMap (each : ∀ x, read (Written.ofValue (write x)) = some x)
    (differs : ∀ x, write x ≠ .null) (field : Option α) :
    nullable read (field.map (Written.ofValue ∘ write)) = some field := by
  cases field with
  | none => rfl
  | some x =>
    rw [Option.map_some, Function.comp_apply, nullableOther (writtenOther (differs x)), each, Option.map_some]

theorem listMap (each : ∀ x, read (Written.ofValue (write x)) = some x) (l : List α) :
    Written.list? read (Written.ofValue (.array (l.map write))) = some l := by
  rw [Written.ofValue, ofValuesMap, Written.list?, List.map_map, List.mapM_map]
  have all := mapMSome (f := read ∘ Written.ofValue ∘ write) (g := id) (l := l) fun x _ => each x
  rwa [List.map_id] at all

end

@[simp] theorem stringText (s : String) : Written.string? (Written.ofValue (.string s)) = some s := rfl

@[simp] theorem boolText (b : Bool) : Written.bool? (Written.ofValue (.bool b)) = some b := rfl

@[simp] theorem constantText (s : String) : Written.constant? (Written.ofValue (.string s)) = some s := rfl

theorem naturalText {n bound : Nat} (below : n < bound) :
    Written.natural? bound (Written.ofValue (.ofNat n)) = some n := by
  simp [Written.natural?, Written.ofValue, Value.ofNat, below]

theorem u32Text (n : UInt32) : Written.u32? (Written.ofValue (.ofNat n.toNat)) = some n := by
  have below : n.toNat < Number.twoTo 32 := n.toNat_lt
  simp [Written.u32?, naturalText below]

theorem u64Text (n : UInt64) : Written.u64? (Written.ofValue (.ofNat n.toNat)) = some n := by
  have below : n.toNat < Number.twoTo 64 := n.toNat_lt
  simp [Written.u64?, naturalText below]

@[simp] theorem switchText (on : Bool) :
    defaulted false Written.bool? ((switch on).map Written.ofValue) = some on := by
  cases on <;> rfl

@[simp] theorem optionalText (field : Option String) :
    nullable Written.string? (field.map (Written.ofValue ∘ Value.string)) = some field :=
  nullableMap stringText (by simp) field

@[simp] theorem optional32 (field : Option UInt32) :
    nullable Written.u32? (field.map (Written.ofValue ∘ fun n => Value.ofNat n.toNat)) = some field :=
  nullableMap u32Text (by simp [Value.ofNat]) field

@[simp] theorem optional64 (field : Option UInt64) :
    nullable Written.u64? (field.map (Written.ofValue ∘ fun n => Value.ofNat n.toNat)) = some field :=
  nullableMap u64Text (by simp [Value.ofNat]) field

@[simp] theorem PageKind.readCode (k : PageKind) :
    PageKind.read (Written.ofValue (.string k.code)) = some k := by
  cases k <;> rfl

@[simp] theorem ActionKind.readCode (k : ActionKind) :
    ActionKind.read (Written.ofValue (.string k.code)) = some k := by
  cases k <;> rfl

@[simp] theorem ActionMode.readCode (m : ActionMode) :
    ActionMode.read (Written.ofValue (.string m.code)) = some m := by
  cases m <;> rfl

theorem SelectOption.readJson (o : SelectOption) : read (Written.ofValue o.toJson) = some o := by
  rw [read, toJson, fieldsWritten (by rfl) (by decide)]
  simp

-- For any value that reads as the size: the kernel would count a known one up to its bound.
theorem Column.readSized (c : Column) {size : Value}
    (known : Written.u32? (Written.ofValue size) = some c.size) :
    read (Written.ofValue (.object <| present
      [("accessorKey", some (.string c.accessorKey)), ("header", some (.string c.header)),
       ("size", some size), ("minSize", c.minSize.map fun n => .ofNat n.toNat)])) = some c := by
  rw [read, fieldsPresent (by rfl) (by decide)]
  simp [known]

theorem Column.readJson (c : Column) : read (Written.ofValue c.toJson) = some c :=
  c.readSized (u32Text c.size)

@[simp] theorem optionalChoices (field : Option (List SelectOption)) :
    nullable (Written.list? SelectOption.read)
      (field.map (Written.ofValue ∘ fun os => Value.array (os.map SelectOption.toJson))) = some field :=
  nullableMap (listMap SelectOption.readJson) (by simp) field

theorem FormField.readJson (f : FormField) : read (Written.ofValue f.toJson) = some f := by
  rw [read, toJson, fieldsPresent (by rfl) (by decide)]
  simp

theorem SearchField.readJson (f : SearchField) : read (Written.ofValue f.toJson) = some f := by
  rw [read, toJson, fieldsPresent (by rfl) (by decide)]
  simp

theorem TableControl.readJson (t : TableControl) : read (Written.ofValue t.toJson) = some t := by
  rw [read, toJson, fieldsWritten (by rfl) (by decide)]
  simp

theorem Action.readJson (a : Action) : read (Written.ofValue a.toJson) = some a := by
  rw [read, toJson, fieldsPresent (by rfl) (by decide)]
  simp [listMap FormField.readJson]

theorem Menu.readJson (m : Menu) : read (Written.ofValue m.toJson) = some m := by
  rw [read, toJson, fieldsWritten (by rfl) (by decide)]
  simp

theorem CustomSelect.readJson (c : CustomSelect) : read (Written.ofValue c.toJson) = some c := by
  rw [read, toJson, fieldsPresent (by rfl) (by decide)]
  simp

theorem Column.shallow (c : Column) (depth : Nat) :
    ((Written.ofValue c.toJson).value? (depth + 1)).isSome := by
  refine objectRead fun m inside => ?_
  obtain ⟨key, v⟩ := m
  simp only [memberPresent, List.mem_cons, Prod.mk.injEq, Option.some.injEq, List.not_mem_nil, or_false]
    at inside
  rcases inside with ⟨_, rfl⟩ | ⟨_, rfl⟩ | ⟨_, rfl⟩ | ⟨_, least⟩
  · exact stringRead _ _
  · exact stringRead _ _
  · exact naturalRead _ _
  · obtain ⟨n, _, rfl⟩ := Option.map_eq_some_iff.mp least.symm
    exact naturalRead _ _

namespace TabLayout

theorem columnsShallow (cs : List Column) (depth : Nat) :
    ((Written.ofValue (columns cs)).value? (depth + 2)).isSome := by
  refine arrayRead fun v inside => ?_
  obtain ⟨c, _, rfl⟩ := List.mem_map.mp inside
  exact c.shallow depth

theorem membersShallow (l : TabLayout) (depth : Nat) {m : String × Value} (inside : m ∈ l.members) :
    ((Written.ofValue m.2).value? (depth + 2)).isSome := by
  cases l with
  | masterDetail master detail masterHook detailHook =>
    simp only [members, List.mem_cons, List.not_mem_nil, or_false] at inside
    rcases inside with rfl | rfl | rfl | rfl
    · exact columnsShallow _ _
    · exact columnsShallow _ _
    · exact stringRead _ _
    · exact stringRead _ _
  | single cs hook =>
    simp only [members, List.mem_cons, List.not_mem_nil, or_false] at inside
    rcases inside with rfl | rfl
    · exact columnsShallow _ _
    · exact stringRead _ _

@[simp] theorem readColumns (cs : List Column) :
    Written.list? Column.read (Written.ofValue (columns cs)) = some cs :=
  listMap Column.readJson cs

theorem readMembers (l : TabLayout) : read (writtenMembers l.members) = some l := by
  cases l with
  | masterDetail master detail masterHook detailHook =>
    have named := namedWritten (masterDetail master detail masterHook detailHook).members _
      (by simp [members]) (fun _ inside => inside)
    simp only [members, List.map_cons, List.map_nil] at named
    simp [read, readMasterDetail, members, named]
  | single cs hook =>
    have named := namedWritten (single cs hook).members _ (by simp [members])
      (fun _ inside => inside)
    simp only [members, List.map_cons, List.map_nil] at named
    have absent : readMasterDetail (writtenMembers (single cs hook).members) = none := by
      simp [readMasterDetail, namedFields, given, writtenMembers, members, needed]
    simp only [read, absent, Option.none_or]
    simp [readSingle, members, named]

theorem membersApart (l : TabLayout) {m : String × Value} (inside : m ∈ l.members) :
    m.1 ∉ Tab.fieldNames := by
  have names : l.members.map (·.1) ⊆
      ["masterColumns", "detailColumns", "masterDataHook", "detailDataHook", "columns", "dataHook"] := by
    cases l <;> simp [members]
  have apart : ∀ name ∈ ["masterColumns", "detailColumns", "masterDataHook", "detailDataHook", "columns",
      "dataHook"], name ∉ Tab.fieldNames := by decide
  exact apart m.1 (names (List.mem_map_of_mem inside))

theorem membersNodup (l : TabLayout) : (l.members.map (·.1)).Nodup := by
  cases l <;> simp [members]

end TabLayout

@[simp] theorem readSearch (fields : List String) :
    readSearchFields (Written.ofValue (.object [("fields", textList fields)])) = some fields := by
  rw [readSearchFields, fieldsWritten (by rfl) (by decide)]
  simp [textList, listMap stringText]

namespace Tab

def ownMembers (t : Tab) : Members :=
  [("id", .string t.id), ("name", .string t.name), ("type", .string t.kind.code),
   ("path", .string t.path), ("pageName", .string t.pageName), ("icon", .string t.icon),
   ("default", .bool t.isDefault), ("tableControl", t.tableControl.toJson),
   ("searchOptions", .object [("fields", textList t.searchFields)]),
   ("searchSlotFields", .array (t.searchSlot.map SearchField.toJson))]

theorem ownNames (t : Tab) : t.ownMembers.map (·.1) = fieldNames := rfl

theorem toJsonMembers (t : Tab) : t.toJson = .object (t.ownMembers ++ t.layout.members) := rfl

theorem namesNodup (t : Tab) : ((t.ownMembers ++ t.layout.members).map (·.1)).Nodup := by
  rw [List.map_append, ownNames]
  refine List.nodup_append.mpr ⟨by decide, t.layout.membersNodup, ?_⟩
  rintro name own other there rfl
  obtain ⟨m, inside, rfl⟩ := List.mem_map.mp there
  exact t.layout.membersApart inside own

theorem restMembers (t : Tab) :
    (writtenMembers (t.ownMembers ++ t.layout.members)).filter (fun m => m.1 ∉ fieldNames) =
      writtenMembers t.layout.members := by
  simp only [writtenMembers, List.map_append, List.filter_append]
  have own : (t.ownMembers.map fun m => (m.1, Written.ofValue m.2)).filter
      (fun m => decide (m.1 ∉ fieldNames)) = [] := by
    refine List.filter_eq_nil_iff.mpr fun m inside => ?_
    obtain ⟨n, listed, rfl⟩ := List.mem_map.mp inside
    have named : n.1 ∈ fieldNames := t.ownNames ▸ List.mem_map_of_mem listed
    simpa using named
  have rest : (t.layout.members.map fun m => (m.1, Written.ofValue m.2)).filter
      (fun m => decide (m.1 ∉ fieldNames)) = t.layout.members.map fun m => (m.1, Written.ofValue m.2) := by
    refine List.filter_eq_self.mpr fun m inside => ?_
    obtain ⟨n, listed, rfl⟩ := List.mem_map.mp inside
    simpa using t.layout.membersApart listed
  rw [own, rest, List.nil_append]

theorem readJson (t : Tab) : read (Written.ofValue t.toJson) = some t := by
  have named := namedWritten _ t.ownMembers t.namesNodup fun _ inside =>
    List.mem_append_left _ inside
  have depths : (writtenMembers t.layout.members).all (fun m => (m.2.value? depthLeft).isSome) = true := by
    refine List.all_eq_true.mpr fun m inside => ?_
    obtain ⟨n, listed, rfl⟩ := List.mem_map.mp inside
    exact t.layout.membersShallow 120 listed
  have listed : (t.ownMembers.map fun m => some (Written.ofValue m.2)) =
      [some (.ofValue (.string t.id)), some (.ofValue (.string t.name)),
       some (.ofValue (.string t.kind.code)), some (.ofValue (.string t.path)),
       some (.ofValue (.string t.pageName)), some (.ofValue (.string t.icon)),
       some (.ofValue (.bool t.isDefault)), some (.ofValue t.tableControl.toJson),
       some (.ofValue (.object [("fields", textList t.searchFields)])),
       some (.ofValue (.array (t.searchSlot.map SearchField.toJson)))] := rfl
  rw [ownNames, listed] at named
  rw [toJsonMembers, read, membersOfObject]
  -- The fields are read one inside the other, so simp would walk the rest twice at each of them.
  dsimp only [Option.bind_eq_bind, Option.bind_some]
  rw [restMembers, depths, named, guard, if_pos rfl]
  dsimp only [Option.pure_def, Option.bind_some, neededSome, stringText, defaultedSome, boolText]
  rw [PageKind.readCode, TableControl.readJson, readSearch, listMap SearchField.readJson,
    TabLayout.readMembers]
  rfl

end Tab

theorem Module.readJson (m : Module) : read (Written.ofValue m.toJson) = some m := by
  have menu := nullableMap Menu.readJson (by simp [Menu.toJson]) m.menu
  have select := nullableMap CustomSelect.readJson (by simp [CustomSelect.toJson]) m.customSelect
  rw [read, toJson, fieldsPresent (by rfl) (by decide)]
  simp [listMap Tab.readJson, listMap Action.readJson, menu, select]

namespace Solution

theorem readModulesJson (m : SortedMap Module) :
    readModules (Written.ofValue (.object (m.entries.map fun e => (e.1, e.2.toJson)))) = some m := by
  have pairs := mapMSome (l := m.entries) (g := id)
    (f := fun e => (Module.read (Written.ofValue e.2.toJson)).map fun r => (e.1, r))
    fun e _ => by simp [Module.readJson]
  rw [List.map_id] at pairs
  rw [readModules, membersOfObject, writtenMembers, List.map_map]
  simp only [Option.bind_eq_bind, Option.bind_some, List.mapM_map, Function.comp_def, pairs,
    SortedMap.ofListEntries]

theorem readJson (s : Solution) : read (Written.ofValue s.toJson) = some s := by
  rw [read, toJson, fieldsWritten (by rfl) (by decide)]
  simp [readModulesJson]

end Solution

section
open Value (Spelled)

attribute [simp] Value.Spelled.string Value.Spelled.bool

@[simp] theorem spelled32 (n : UInt32) : (Value.ofNat n.toNat).Spelled := by
  have more : 2 ^ 32 < Number.twoTo 64 := by decide
  exact .ofNat (Nat.lt_trans n.toNat_lt more)

@[simp] theorem spelled64 (n : UInt64) : (Value.ofNat n.toNat).Spelled := by
  have below : n.toNat < Number.twoTo 64 := n.toNat_lt
  exact .ofNat below

theorem spelledList {α : Type} {write : α → Value} (each : ∀ x, (write x).Spelled) (l : List α) :
    (Value.array (l.map write)).Spelled :=
  .array fun v inside => by
    obtain ⟨x, _, rfl⟩ := List.mem_map.mp inside
    exact each x

theorem spelledPresent {fs : List (String × Option Value)}
    (each : ∀ f ∈ fs, ∀ v, f.2 = some v → v.Spelled) : (Value.object (present fs)).Spelled :=
  .object fun _ inside => each _ (memberPresent.mp inside) _ rfl

theorem SelectOption.spelled (o : SelectOption) : o.toJson.Spelled :=
  .object (by simp)

theorem Column.spelled (c : Column) : c.toJson.Spelled :=
  spelledPresent (by simp)

theorem FormField.spelled (f : FormField) : f.toJson.Spelled :=
  spelledPresent (by simp [spelledList SelectOption.spelled, switch])

theorem SearchField.spelled (f : SearchField) : f.toJson.Spelled :=
  spelledPresent (by simp [spelledList SelectOption.spelled])

theorem TableControl.spelled (t : TableControl) : t.toJson.Spelled :=
  .object (by simp)

theorem TabLayout.spelled (l : TabLayout) {m : String × Value} (inside : m ∈ l.members) :
    m.2.Spelled := by
  have columns (cs : List Column) : (columns cs).Spelled := spelledList Column.spelled cs
  revert m
  cases l <;> simp [members, columns]

theorem Tab.spelled (t : Tab) : t.toJson.Spelled := by
  have search : (Value.object [("fields", textList t.searchFields)]).Spelled :=
    .object (by simp [textList, spelledList Value.Spelled.string])
  have own : ∀ m ∈ t.ownMembers, m.2.Spelled := by
    simp [ownMembers, TableControl.spelled, spelledList SearchField.spelled, search]
  exact .object fun m inside => (List.mem_append.mp inside).elim (own m) t.layout.spelled

theorem Action.spelled (a : Action) : a.toJson.Spelled :=
  spelledPresent (by simp [spelledList FormField.spelled])

theorem Menu.spelled (m : Menu) : m.toJson.Spelled :=
  .object (by simp)

theorem CustomSelect.spelled (c : CustomSelect) : c.toJson.Spelled :=
  spelledPresent (by simp)

theorem Module.spelled (m : Module) : m.toJson.Spelled :=
  spelledPresent (by simp [spelledList Tab.spelled, spelledList Action.spelled, Menu.spelled,
    CustomSelect.spelled, switch])

theorem Solution.spelled (s : Solution) : s.toJson.Spelled := by
  have modules : (Value.object (s.modules.entries.map fun e => (e.1, e.2.toJson))).Spelled := by
    refine .object fun m inside => ?_
    obtain ⟨e, _, rfl⟩ := List.mem_map.mp inside
    exact e.2.spelled
  refine .object fun m inside => ?_
  rw [List.mem_singleton.mp inside]
  exact modules

end

theorem Solution.parsePretty (s : Solution) : parse s.toJson.pretty = some s := by
  rw [parse, readPretty s.spelled, Option.bind_some, readJson]

theorem Solution.readsBack (s : Solution) :
    ofJson s.toJson = some s ∧ parse s.toJson.pretty = some s :=
  ⟨s.readJson, s.parsePretty⟩

end ApiScreens
