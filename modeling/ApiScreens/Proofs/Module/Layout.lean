import ApiScreens.Proofs.Json.Record
import ApiScreens.Proofs.Module.RoundTrip

/-! The tables that a configuration gives to a tab. A master and a detail table are read if the columns and the hooks of
both are given, each once and well. A tab gets a single table otherwise, from what is given for one and from defaults,
also where it asks for two. -/
namespace ApiScreens
open Json

def Column.Spelled (w : Written) (c : Column) : Prop :=
  ∃ least, w.fields ["accessorKey", "header", "size", "minSize"] =
      some [some (.string c.accessorKey), some (.string c.header), some (.natural c.size.toNat), least] ∧
    least.getD .null = (c.minSize.map fun n => Written.natural n.toNat).getD .null

theorem leastExactly {least : Option Written} {n : Option UInt32} : nullable Written.u32? least = some n ↔
    least.getD .null = (n.map fun n => Written.natural n.toNat).getD .null := by
  unfold nullable
  split
  · cases n <;> simp [Written.natural]
  · cases n <;> simp [Written.natural]
  · rename_i w other
    have there : w ≠ .null := other
    cases n <;> simp [Written.u32Exactly, there]

-- For any number that reads as the size: the kernel would count a known one up to its bound.
theorem Column.readNumbered {w size : Written} {least : Option Written} {c : Column}
    (fields : w.fields ["accessorKey", "header", "size", "minSize"] =
      some [some (.string c.accessorKey), some (.string c.header), some size, least])
    (known : size.u32? = some c.size) (bound : nullable Written.u32? least = some c.minSize) : read w = some c := by
  simp [read, fields, needed, Written.string?, known, bound]

theorem Column.readExactly {w : Written} {c : Column} : read w = some c ↔ Spelled w c := by
  constructor
  · intro made
    obtain ⟨fields, listed, rest⟩ := Option.bind_eq_some_iff.mp made
    split at rest
    · rename_i key header size least
      simp only [Option.bind_eq_bind, Option.bind_eq_some_iff, neededExactly, Written.stringExactly,
        Written.u32Exactly, Option.some.injEq] at rest
      obtain ⟨_, ⟨_, rfl, rfl⟩, _, ⟨_, rfl, rfl⟩, _, ⟨_, rfl, rfl⟩, _, bound, rfl⟩ := rest
      exact ⟨least, listed, leastExactly.mp bound⟩
    · contradiction
  · rintro ⟨least, listed, bound⟩
    exact readNumbered listed (Written.u32Exactly.mpr rfl) (leastExactly.mpr bound)

def Column.AllSpelled (w : Written) (cs : List Column) : Prop :=
  ∃ items, w = .array items ∧ List.Forall₂ Column.Spelled items cs

theorem columnsExactly {w : Written} {cs : List Column} :
    w.list? Column.read = some cs ↔ Column.AllSpelled w cs := by
  simp only [Written.listExactly, Column.readExactly, Column.AllSpelled]

namespace TabLayout
variable {ms : List (String × Written)} {l : TabLayout}

@[mk_iff pairedIff]
structure Paired (ms : List (String × Written)) (master detail : List Column) (masterHook detailHook : String) :
    Prop where
  master : ∃ w, given ms "masterColumns" = [w] ∧ Column.AllSpelled w master
  detail : ∃ w, given ms "detailColumns" = [w] ∧ Column.AllSpelled w detail
  masterHook : given ms "masterDataHook" = [.string masterHook]
  detailHook : given ms "detailDataHook" = [.string detailHook]

def Both (ms : List (String × Written)) : Prop :=
  ∃ master detail masterHook detailHook, Paired ms master detail masterHook detailHook

@[mk_iff aloneIff]
structure Alone (ms : List (String × Written)) (cs : List Column) (hook : String) : Prop where
  columns : (given ms "columns" = [] ∧ cs = []) ∨ ∃ w, given ms "columns" = [w] ∧ Column.AllSpelled w cs
  hook : (given ms "dataHook" = [] ∧ hook = "") ∨ given ms "dataHook" = [.string hook]

theorem pairExactly : readMasterDetail ms = some l ↔
    ∃ master detail masterHook detailHook, l = .masterDetail master detail masterHook detailHook ∧
      Paired ms master detail masterHook detailHook := by
  constructor
  · intro made
    obtain ⟨fields, named, rest⟩ := Option.bind_eq_some_iff.mp made
    have members := namedExactly.mp named
    simp only [List.forall₂_cons_left_iff, List.forall₂_nil_left_iff] at members
    obtain ⟨_, _, first, ⟨_, _, second, ⟨_, _, third, ⟨_, _, fourth, rfl, rfl⟩, rfl⟩, rfl⟩, rfl⟩ := members
    simp only [Option.bind_eq_bind, Option.bind_eq_some_iff, Option.some.injEq] at rest
    obtain ⟨_, master, _, detail, _, masterHook, _, detailHook, rfl⟩ := rest
    have master := givenNeeded.mp ⟨_, first, master⟩
    have detail := givenNeeded.mp ⟨_, second, detail⟩
    have masterHook := givenNeeded.mp ⟨_, third, masterHook⟩
    have detailHook := givenNeeded.mp ⟨_, fourth, detailHook⟩
    simp only [columnsExactly, Written.stringExactly, exists_eq_right] at master detail masterHook detailHook
    exact ⟨_, _, _, _, rfl, master, detail, masterHook, detailHook⟩
  · rintro ⟨_, _, _, _, rfl, ⟨_, first, master⟩, ⟨_, second, detail⟩, third, fourth⟩
    have named : namedFields ["masterColumns", "detailColumns", "masterDataHook", "detailDataHook"] ms =
        some [some _, some _, some _, some _] :=
      namedExactly.mpr (.cons first (.cons second (.cons third (.cons fourth .nil))))
    simp [readMasterDetail, named, needed, columnsExactly.mpr master, columnsExactly.mpr detail, Written.string?]

theorem singleExactly : readSingle ms = some l ↔ ∃ cs hook, l = .single cs hook ∧ Alone ms cs hook := by
  constructor
  · intro made
    obtain ⟨fields, named, rest⟩ := Option.bind_eq_some_iff.mp made
    have members := namedExactly.mp named
    simp only [List.forall₂_cons_left_iff, List.forall₂_nil_left_iff] at members
    obtain ⟨_, _, first, ⟨_, _, second, rfl, rfl⟩, rfl⟩ := members
    simp only [Option.bind_eq_bind, Option.bind_eq_some_iff, Option.some.injEq] at rest
    obtain ⟨cs, columns, hook, named, rfl⟩ := rest
    have columns := givenDefaulted.mp ⟨_, first, columns⟩
    have named := givenDefaulted.mp ⟨_, second, named⟩
    simp only [columnsExactly, Written.stringExactly, exists_eq_right] at columns named
    exact ⟨cs, hook, rfl, columns, named⟩
  · rintro ⟨cs, hook, rfl, columns, named⟩
    simp only [← columnsExactly] at columns
    obtain ⟨f, first, columns⟩ := givenDefaulted.mpr columns
    obtain ⟨g, second, named⟩ :=
      givenDefaulted.mpr (named.imp_right fun there => ⟨_, there, Written.stringExactly.mpr rfl⟩)
    have fields : namedFields ["columns", "dataHook"] ms = some [f, g] :=
      namedExactly.mpr (.cons first (.cons second .nil))
    simp [readSingle, fields, columns, named]

theorem pairNone : readMasterDetail ms = none ↔ ¬Both ms := by
  rw [Option.eq_none_iff_forall_ne_some]
  constructor
  · rintro none ⟨_, _, _, _, paired⟩
    exact none _ (pairExactly.mpr ⟨_, _, _, _, rfl, paired⟩)
  · intro none l made
    obtain ⟨_, _, _, _, _, paired⟩ := pairExactly.mp made
    exact none ⟨_, _, _, _, paired⟩

theorem layoutExactly : read ms = some l ↔
    (∃ master detail masterHook detailHook, l = .masterDetail master detail masterHook detailHook ∧
        Paired ms master detail masterHook detailHook) ∨
      (¬Both ms ∧ ∃ cs hook, l = .single cs hook ∧ Alone ms cs hook) := by
  rw [read, Option.or_eq_some_iff, pairExactly, singleExactly, pairNone]

theorem pairedExactly (made : read ms = some l) {master detail : List Column} {masterHook detailHook : String} :
    l = .masterDetail master detail masterHook detailHook ↔ Paired ms master detail masterHook detailHook := by
  constructor
  · rintro rfl
    rcases layoutExactly.mp made with ⟨_, _, _, _, same, paired⟩ | ⟨_, _, _, other, _⟩
    · cases same
      exact paired
    · exact nomatch other
  · intro paired
    exact Option.some.inj (made.symm.trans (layoutExactly.mpr (.inl ⟨_, _, _, _, rfl, paired⟩)))

theorem aloneExactly (made : read ms = some l) {cs : List Column} {hook : String} :
    l = .single cs hook ↔ Alone ms cs hook ∧ ¬Both ms := by
  constructor
  · rintro rfl
    rcases layoutExactly.mp made with ⟨_, _, _, _, other, _⟩ | ⟨none, _, _, same, alone⟩
    · exact nomatch other
    · cases same
      exact ⟨alone, none⟩
  · rintro ⟨alone, none⟩
    exact Option.some.inj (made.symm.trans (layoutExactly.mpr (.inr ⟨none, _, _, rfl, alone⟩)))

theorem pairedRest {master detail : List Column} {masterHook detailHook : String} :
    Paired (ms.filter fun m => m.1 ∉ Tab.fieldNames) master detail masterHook detailHook ↔
      Paired ms master detail masterHook detailHook := by
  rw [pairedIff, pairedIff, givenFilter ms (by decide), givenFilter ms (by decide), givenFilter ms (by decide),
    givenFilter ms (by decide)]

theorem aloneRest {cs : List Column} {hook : String} :
    Alone (ms.filter fun m => m.1 ∉ Tab.fieldNames) cs hook ↔ Alone ms cs hook := by
  rw [aloneIff, aloneIff, givenFilter ms (by decide), givenFilter ms (by decide)]

end TabLayout

theorem PageKind.readExactly {w : Written} {k : PageKind} : read w = some k ↔ w.constant? = some k.code := by
  constructor
  · intro made
    obtain ⟨code, written, known⟩ := Option.bind_eq_some_iff.mp made
    unfold ofCode at known
    split at known <;> cases known
    · exact written
    · exact written
  · intro written
    cases k <;> simp [read, written, code, ofCode]

namespace Tab
variable {ms : List (String × Written)} {t : Tab}

def layoutNames : List String := ["masterColumns", "detailColumns", "masterDataHook", "detailDataHook"]

/-- A tab object asks for a master and a detail table by its type, or by any member that belongs to them. -/
def Asks (ms : List (String × Written)) : Prop :=
  (∃ w ∈ given ms "type", w.constant? = some "masterDetailPage") ∨ ∃ name ∈ layoutNames, given ms name ≠ []

structure Spelled (ms : List (String × Written)) (t : Tab) : Prop where
  kind : ∃ w, given ms "type" = [w] ∧ w.constant? = some t.kind.code
  paired : ∀ master detail masterHook detailHook,
    t.layout = .masterDetail master detail masterHook detailHook ↔
      TabLayout.Paired ms master detail masterHook detailHook
  alone : ∀ cs hook, t.layout = .single cs hook ↔ TabLayout.Alone ms cs hook ∧ ¬TabLayout.Both ms

theorem readSpelled {x : Written} (made : read x = some t) : ∃ ms, x.members? = some ms ∧ Spelled ms t := by
  obtain ⟨ms, object, rest⟩ := Option.bind_eq_some_iff.mp made
  obtain ⟨_, _, rest⟩ := Option.bind_eq_some_iff.mp rest
  obtain ⟨fields, named, rest⟩ := Option.bind_eq_some_iff.mp rest
  have members := namedExactly.mp named
  split at rest
  · simp only [Option.bind_eq_bind, Option.bind_eq_some_iff, Option.some.injEq] at rest
    obtain ⟨_, _, _, _, kind, typed, _, _, _, _, _, _, _, _, _, _, _, _, _, _, layout, tables, rfl⟩ := rest
    simp only [fieldNames, List.forall₂_cons] at members
    obtain ⟨w, spelled, read⟩ := givenNeeded.mp ⟨_, members.2.2.1, typed⟩
    refine ⟨ms, object, ⟨w, spelled, PageKind.readExactly.mp read⟩, ?_, ?_⟩
    · exact fun _ _ _ _ => (TabLayout.pairedExactly tables).trans TabLayout.pairedRest
    · intro cs hook
      simpa only [TabLayout.aloneRest, TabLayout.Both, TabLayout.pairedRest] using TabLayout.aloneExactly tables
  · contradiction

theorem Spelled.asks (spelled : Spelled ms t) (typed : t.kind = .masterDetail) : Asks ms := by
  obtain ⟨w, given, code⟩ := spelled.kind
  rw [typed] at code
  exact .inl ⟨w, given ▸ List.mem_singleton_self w, code⟩

def Kept (x : Written) : Prop :=
  ∃ ms t, x.members? = some ms ∧ read x = some t ∧
    (Asks ms → ∃ master detail masterHook detailHook, t.layout = .masterDetail master detail masterHook detailHook)

def Complete (x : Written) : Prop :=
  ∃ ms, x.members? = some ms ∧ (Asks ms → TabLayout.Both ms)

theorem keptExactly {x : Written} (made : read x = some t) : Kept x ↔ Complete x := by
  obtain ⟨ms, object, spelled⟩ := readSpelled made
  constructor
  · rintro ⟨other, u, members, again, kept⟩
    cases object.symm.trans members
    cases made.symm.trans again
    refine ⟨ms, object, fun asks => ?_⟩
    obtain ⟨master, detail, masterHook, detailHook, layout⟩ := kept asks
    exact ⟨_, _, _, _, (spelled.paired ..).mp layout⟩
  · rintro ⟨other, members, complete⟩
    cases object.symm.trans members
    refine ⟨ms, t, object, made, fun asks => ?_⟩
    obtain ⟨master, detail, masterHook, detailHook, paired⟩ := complete asks
    exact ⟨_, _, _, _, (spelled.paired ..).mpr paired⟩

end Tab

def Module.tabObjects (w : Written) : List Written :=
  match w.fields ["name", "path", "route", "pageType", "tabs", "actions", "menuOptions", "fieldApi",
      "customSelect"] with
  | some [_, _, _, _, some (.array items), _, _, _, _] => items
  | _ => []

theorem Module.readTabs {w : Written} {m : Module} (made : read w = some m) :
    List.Forall₂ (fun x t => Tab.read x = some t) (tabObjects w) m.tabs := by
  obtain ⟨fields, listed, rest⟩ := Option.bind_eq_some_iff.mp made
  unfold tabObjects
  rw [listed]
  split at rest
  · rename_i tabs _ _ _ _
    simp only [Option.bind_eq_bind, Option.bind_eq_some_iff, Option.some.injEq] at rest
    obtain ⟨_, _, _, _, _, _, _, _, items, read, _, _, _, _, _, _, _, _, rfl⟩ := rest
    cases tabs with
    | none =>
      cases read
      exact .nil
    | some x =>
      obtain ⟨xs, rfl, each⟩ := Written.listExactly.mp read
      exact each
  · contradiction

namespace Solution

def moduleObjects (w : Written) : List (String × Written) :=
  match w.fields ["modules"] with
  | some [some modules] => modules.members?.getD []
  | _ => []

theorem readObjects {w : Written} {s : Solution} (made : read w = some s) :
    ∃ modules, s.modules = .ofList modules ∧
      List.Forall₂ (fun p q => q.1 = p.1 ∧ Module.read p.2 = some q.2) (moduleObjects w) modules := by
  obtain ⟨fields, listed, rest⟩ := Option.bind_eq_some_iff.mp made
  unfold moduleObjects
  rw [listed]
  split at rest
  · rename_i field
    obtain ⟨map, read, rfl⟩ := Option.map_eq_some_iff.mp rest
    cases field with
    | none =>
      cases read
      exact ⟨[], rfl, .nil⟩
    | some x =>
      obtain ⟨members, object, rest⟩ := Option.bind_eq_some_iff.mp read
      obtain ⟨modules, all, last⟩ := Option.bind_eq_some_iff.mp rest
      cases last
      refine ⟨modules, rfl, ?_⟩
      simp only [object, Option.getD_some]
      refine (mapMExactly.mp all).imp fun p q each => ?_
      obtain ⟨m, made, rfl⟩ := Option.map_eq_some_iff.mp each
      exact ⟨rfl, made⟩
  · contradiction

theorem layoutsRead {text : String} {s : Solution} (accepted : parse text = some s) :
    ∃ w modules, Written.read text.toList = some w ∧ s.modules = .ofList modules ∧
      List.Forall₂ (fun p q => q.1 = p.1 ∧
          List.Forall₂ (fun x t => ∃ ms, x.members? = some ms ∧ Tab.Spelled ms t) (Module.tabObjects p.2) q.2.tabs)
        (moduleObjects w) modules ∧
      ((∀ p ∈ moduleObjects w, ∀ x ∈ Module.tabObjects p.2, Tab.Kept x) ↔
        ∀ p ∈ moduleObjects w, ∀ x ∈ Module.tabObjects p.2, Tab.Complete x) := by
  obtain ⟨w, written, made⟩ := Option.bind_eq_some_iff.mp accepted
  obtain ⟨modules, kept, each⟩ := readObjects made
  refine ⟨w, modules, written, kept, ?_, ?_⟩
  · refine each.imp fun p q same => ⟨same.1, ?_⟩
    exact (Module.readTabs same.2).imp fun _ _ => Tab.readSpelled
  · have every : ∀ p ∈ moduleObjects w, ∀ x ∈ Module.tabObjects p.2, Tab.Kept x ↔ Tab.Complete x := by
      intro p inside x listed
      obtain ⟨q, _, _, module⟩ := pairOf each inside
      obtain ⟨t, _, tab⟩ := pairOf (Module.readTabs module) listed
      exact Tab.keptExactly tab
    exact forall_congr' fun p => forall_congr' fun inside => forall_congr' fun x => forall_congr' fun listed =>
      every p inside x listed

theorem parseSpelled {v : Value} (spelled : v.Spelled) : parse v.pretty = ofJson v := by
  rw [parse, readPretty spelled, Option.bind_some, ofJson]

def ordersObject (kind : PageKind) (members : Members) : Value := .object <|
  [("id", .string "list"), ("name", .string "Orders"), ("type", .string kind.code),
   ("path", .string "/shop/order/list"), ("pageName", .string "OrderListPage")] ++ members

def ordersConfig (tab : Value) : Value :=
  .object [("modules", .object [("order", .object
    [("name", .string "Orders"), ("path", .string "shop/order"), ("route", .string "/shop/order"),
     ("tabs", .array [tab])])])]

theorem ordersSpelled (kind : PageKind) {members : Members} (spelled : ∀ m ∈ members, m.2.Spelled) :
    (ordersConfig (ordersObject kind members)).Spelled := by
  have tab : (ordersObject kind members).Spelled := .object (by simpa [or_imp, forall_and] using spelled)
  have tabs : (Value.array [ordersObject kind members]).Spelled := .array (by simpa using tab)
  have module : (Value.object
      [("name", .string "Orders"), ("path", .string "shop/order"), ("route", .string "/shop/order"),
       ("tabs", .array [ordersObject kind members])]).Spelled := .object (by simpa using tabs)
  have modules : (Value.object [("order", _)]).Spelled := .object (by simpa using module)
  exact .object (by simpa using modules)

def ordersTab (kind : PageKind) (layout : TabLayout) : Tab :=
  { id := "list", name := "Orders", kind := kind, path := "/shop/order/list", pageName := "OrderListPage", icon := "",
    isDefault := false, tableControl := {}, searchFields := [], searchSlot := [], layout := layout }

def ordersModule (kind : PageKind) (layout : TabLayout) : Module :=
  { name := "Orders", path := "shop/order", route := "/shop/order", pageKind := .single,
    tabs := [ordersTab kind layout], actions := [], menu := none, fieldApi := false, customSelect := none }

def numberedOrders : TabLayout :=
  .masterDetail [⟨"no", "No", 80, none⟩] [⟨"item", "Item", 120, none⟩] "useOrderMaster" "useOrderDetail"

theorem detailHookMissing :
    let tab := ordersObject .masterDetail numberedOrders.members.dropLast
    parse (ordersConfig tab).pretty = some ⟨.ofList [("order", ordersModule .masterDetail (.single [] ""))]⟩ ∧
      ¬Tab.Kept (.ofValue tab) := by
  intro tab
  constructor
  · rw [parseSpelled (ordersSpelled _ fun m inside => numberedOrders.spelled (List.dropLast_subset _ inside))]
    decide +kernel
  · have made : Tab.read (.ofValue tab) = some (ordersTab .masterDetail (.single [] "")) := by decide +kernel
    obtain ⟨ms, object, spelled⟩ := Tab.readSpelled made
    rintro ⟨_, _, members, again, kept⟩
    cases object.symm.trans members
    cases made.symm.trans again
    obtain ⟨_, _, _, _, layout⟩ := kept (spelled.asks rfl)
    exact nomatch layout

theorem numberedOrdersRead :
    let s : Solution := ⟨.ofList [("order", ordersModule .masterDetail numberedOrders)]⟩
    parse s.toJson.pretty = some s ∧ ∃ w, Written.read s.toJson.pretty.toList = some w ∧
      ∀ p ∈ moduleObjects w, ∀ x ∈ Module.tabObjects p.2, Tab.Kept x := by
  intro s
  obtain ⟨w, _, written, _, _, law⟩ := layoutsRead s.parsePretty
  refine ⟨s.parsePretty, w, written, law.mpr fun p inside x listed => ?_⟩
  cases written.symm.trans (readPretty s.spelled)
  have modules : moduleObjects (.ofValue s.toJson) =
      [("order", .ofValue (ordersModule .masterDetail numberedOrders).toJson)] := by rfl
  have tabs : Module.tabObjects (.ofValue (ordersModule .masterDetail numberedOrders).toJson) =
      [.ofValue (ordersTab .masterDetail numberedOrders).toJson] := by rfl
  obtain rfl : p = _ := List.mem_singleton.mp (modules ▸ inside)
  obtain rfl : x = _ := List.mem_singleton.mp (tabs ▸ listed)
  obtain ⟨ms, object, spelled⟩ := Tab.readSpelled (ordersTab .masterDetail numberedOrders).readJson
  exact ⟨ms, object, fun _ => ⟨_, _, _, _, (spelled.paired ..).mp rfl⟩⟩

end Solution
end ApiScreens
