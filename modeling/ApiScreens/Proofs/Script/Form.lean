import ApiScreens.Proofs.Json.Exact
import ApiScreens.Proofs.Module.RoundTrip
import ApiScreens.Script.Literal

/-! Form schemas. A field is completed where it leaves something open; the completed fields are what the schema reads
back as, and completing them again changes nothing. -/
namespace ApiScreens
open Json (Value Members Written present)

namespace FormField

def shownLabel (f : FormField) : String := if f.label = "" then f.name else f.label

def shownPlaceholder (f : FormField) : String :=
  if f.placeholder = "" then f.shownLabel ++ "을(를) 입력하세요" else f.placeholder

def shownRows (f : FormField) : Option UInt32 := if f.kind = "textarea" ∧ f.rows = none then some 3 else f.rows

def named (f : FormField) : FormField := { f with label := f.shownLabel, placeholder := f.shownPlaceholder }

def completed (f : FormField) : FormField := { f.named with rows := f.shownRows }

theorem labelStays (f : FormField) : f.completed.shownLabel = f.shownLabel := by
  simp only [shownLabel, completed, named]
  split <;> simp_all

theorem placeholderStays (f : FormField) : f.completed.shownPlaceholder = f.shownPlaceholder := by
  have filled : f.shownPlaceholder ≠ "" := by
    unfold shownPlaceholder
    split
    · simp
    · assumption
  rw [shownPlaceholder, completed, named, if_neg filled]

theorem rowsStay (f : FormField) : f.completed.shownRows = f.shownRows := by
  simp only [shownRows, completed, named]
  split <;> simp_all

theorem completedTwice (f : FormField) : f.completed.completed = f.completed := by
  rw [completed, named, labelStays, placeholderStays, rowsStay]
  rfl

def members (f : FormField) : Members := (f.toJson.members?).getD []

def opening (f : FormField) : Members :=
  [("name", .string f.name), ("label", .string f.label), ("type", .string f.kind),
   ("placeholder", .string f.placeholder), ("required", .bool f.required)]

def settings (f : FormField) : Members := present
  [("maxLength", f.maxLength.map fun n => .ofNat n.toNat), ("minLength", f.minLength.map fun n => .ofNat n.toNat),
   ("mask", f.mask.map .string), ("maskAutoDetect", switch f.maskAutoDetect), ("pattern", f.pattern.map .string),
   ("options", f.options.map fun os => .array (os.map SelectOption.toJson))]

def rowsMember (rows : Option UInt32) : Members := (rows.map fun n => ("rows", Value.ofNat n.toNat)).toList

theorem membersShape (f : FormField) : f.members = f.opening ++ f.settings ++ rowsMember f.rows := by
  have rows : rowsMember f.rows = present [("rows", f.rows.map fun n => .ofNat n.toNat)] := by
    unfold rowsMember present
    cases f.rows <;> rfl
  rw [rows, settings, List.append_assoc, present, present, ← List.filterMap_append]
  rfl

theorem settingsKeys {f : FormField} {key : String} (inside : key ∈ f.settings.keys) :
    key ∈ ["maxLength", "minLength", "mask", "maskAutoDetect", "pattern", "options"] :=
  (Json.presentNames _).subset inside

def names : List String :=
  ["name", "label", "type", "placeholder", "required", "maxLength", "minLength", "mask", "maskAutoDetect", "pattern",
   "options", "rows"]

theorem memberNames (f : FormField) : f.members.keys.Sublist names := Json.presentNames _

theorem noMin (f : FormField) : "min" ∉ f.members.keys := fun inside =>
  absurd (f.memberNames.subset inside) (by decide)

theorem memberDistinct (f : FormField) : f.members.keys.Nodup := f.memberNames.nodup (by decide)

theorem memberFits (f : FormField) (depth : Nat) : ∀ m ∈ f.members, m.2.Fits (depth + 2) := by
  have choices (os : List SelectOption) : (Value.array (os.map SelectOption.toJson)).Fits (depth + 2) := by
    refine .array fun v inside => ?_
    obtain ⟨o, _, rfl⟩ := List.mem_map.mp inside
    refine .object (by simp [Members.keys]) fun m listed => ?_
    simp only [List.mem_cons, List.not_mem_nil, or_false] at listed
    rcases listed with rfl | rfl
    · exact .string depth _
    · exact .string depth _
  have number (n : Nat) : (Value.ofNat n).Fits (depth + 2) := .number _ _
  exact Json.presentEach (by simp [switch, number, choices, Value.Fits.string, Value.Fits.bool])

end FormField

namespace Script

def least (f : FormField) : Members := if f.kind = "number" then [("min", .ofNat 0)] else []

theorem leastMember {f : FormField} {m : String × Value} (added : m ∈ least f) : m = ("min", .ofNat 0) := by
  unfold least at added
  split at added
  · exact List.mem_singleton.mp added
  · exact absurd added List.not_mem_nil

theorem leastOther (f : FormField) {key : String} (other : key ≠ "min") : Members.get? (least f) key = none :=
  Members.getAbsent fun inside => by
    obtain ⟨m, added, rfl⟩ := List.mem_map.mp inside
    exact other (congrArg Prod.fst (leastMember added))

theorem namesFilled (f : FormField) :
    Members.set (if f.placeholder = "" then
        Members.set f.members "placeholder" (.string (f.shownLabel ++ "을(를) 입력하세요")) else f.members)
      "label" (.string f.shownLabel) = f.named.members := by
  have settings : f.named.settings = f.settings := rfl
  rw [f.membersShape, f.named.membersShape, settings]
  simp only [FormField.opening, FormField.named, FormField.shownPlaceholder]
  split <;> simp [Members.set]

theorem rowsFilled (f : FormField) :
    (if f.kind = "textarea" && f.rows.isNone then Members.set f.named.members "rows" (.ofNat 3)
      else f.named.members) = f.completed.members := by
  split
  · rename_i open_
    obtain ⟨area, noRows⟩ : f.kind = "textarea" ∧ f.rows = none := by simpa using open_
    -- no member stands behind the rows, so a new one at the end has their place
    have here : f.named.members = f.named.opening ++ f.named.settings := by
      rw [f.named.membersShape, FormField.named, noRows]
      exact List.append_nil _
    have fresh : "rows" ∉ Members.keys (f.named.opening ++ f.named.settings) := by
      rw [Members.keys, List.map_append, List.mem_append]
      rintro (front | later)
      · exact absurd front (by simp [FormField.opening])
      · exact absurd (FormField.settingsKeys later) (by decide)
    rw [here, Members.setFresh _ fresh, f.completed.membersShape, FormField.completed, FormField.shownRows,
      if_pos ⟨area, noRows⟩]
    rfl
  · rename_i closed
    rw [FormField.completed, FormField.shownRows, if_neg (by simpa using closed)]
    rfl

theorem completeShape (f : FormField) : completeField f = .object (f.completed.members ++ least f) := by
  have fresh := f.completed.noMin
  have absent : (Members.get? f.completed.members "min").isNone = true := by
    rw [Members.getAbsent fresh, Option.isNone_none]
  have steps : completeField f = .object (if f.kind = "number" && (Members.get? f.completed.members "min").isNone then
      Members.set f.completed.members "min" (.ofNat 0) else f.completed.members) := by
    rw [← rowsFilled f, ← namesFilled f]
    rfl
  rw [steps, absent, Members.setFresh _ fresh, least]
  split <;> simp_all

/-- An object that says what a field says, with what the field leaves open filled in. -/
structure Completes (f : FormField) (v : Value) : Prop where
  label : v.get? "label" = some (.string f.shownLabel)
  placeholder : v.get? "placeholder" = some (.string f.shownPlaceholder)
  rows : v.get? "rows" = if f.kind = "textarea" ∧ f.rows = none then some (.ofNat 3) else f.toJson.get? "rows"
  min : v.get? "min" = if f.kind = "number" then some (.ofNat 0) else none
  kept : ∀ key ∉ ["label", "placeholder", "rows", "min"], v.get? key = f.toJson.get? key
  order : ∃ ms : Members, v = .object ms ∧ f.members.keys <+: ms.keys ∧ ms.keys.Nodup

theorem completeRead (f : FormField) : FormField.read (Written.ofValue (completeField f)) = some f.completed := by
  rw [← f.completed.readJson, completeShape]
  have beside : ∀ m ∈ least f, m.1 ∉ FormField.names := fun m added => leastMember added ▸ by decide
  have same : (Written.ofValue (.object (f.completed.members ++ least f))).fields FormField.names =
      (Written.ofValue (.object f.completed.members)).fields FormField.names := Json.fieldsBeside beside
  rw [FormField.names] at same
  rw [FormField.read, same]
  rfl

theorem completeSpelled (f : FormField) : (completeField f).Spelled := by
  rw [completeShape]
  refine .object fun m inside => ?_
  rcases List.mem_append.mp inside with own | added
  · exact Value.spelledMembers f.completed.spelled m own
  · rw [leastMember added]
    exact .ofNat (by decide)

theorem completeDistinct (f : FormField) : Members.keys (f.completed.members ++ least f) |>.Nodup := by
  rw [Members.keys, List.map_append]
  refine List.nodup_append'.mpr ⟨f.completed.memberDistinct, ?_, ?_⟩
  · unfold least
    split <;> simp
  · intro key own added
    obtain ⟨m, listed, rfl⟩ := List.mem_map.mp added
    rw [leastMember listed] at own
    exact f.completed.noMin own

theorem completeFits (f : FormField) (depth : Nat) : (completeField f).Fits (depth + 3) := by
  rw [completeShape]
  refine .object (completeDistinct f) fun m inside => ?_
  rcases List.mem_append.mp inside with own | added
  · exact f.completed.memberFits depth m own
  · rw [leastMember added]
    exact .number _ _

theorem namedGet (f : FormField) (key : String) : f.named.members.get? key =
    if key = "label" then some (.string f.shownLabel)
    else if key = "placeholder" then some (.string f.shownPlaceholder)
    else f.toJson.get? key := by
  have placeholder : f.toJson.get? "placeholder" = some (.string f.placeholder) := rfl
  have field (k : String) : Members.get? f.members k = f.toJson.get? k := rfl
  rw [← namesFilled, Members.getSet, FormField.shownPlaceholder]
  split
  · rfl
  · split
    · rw [Members.getSet, field]
    · rw [field]
      split
      · rename_i same
        rw [same, placeholder]
      · rfl

theorem completedGet (f : FormField) (key : String) : f.completed.members.get? key =
    if key = "rows" ∧ f.kind = "textarea" ∧ f.rows = none then some (.ofNat 3)
    else if key = "label" then some (.string f.shownLabel)
    else if key = "placeholder" then some (.string f.shownPlaceholder)
    else f.toJson.get? key := by
  rw [← rowsFilled, ← namedGet]
  split
  · rename_i open_
    rw [Members.getSet]
    exact if_congr (by simp_all) rfl rfl
  · rename_i closed
    rw [if_neg fun ⟨_, both⟩ => closed (by simp [both])]

theorem completeGet (f : FormField) (key : String) :
    (completeField f).get? key = (f.completed.members.get? key).or (Members.get? (least f) key) := by
  rw [completeShape]
  exact List.lookup_append

theorem keysKept (f : FormField) : f.members.keys <+: Members.keys (f.completed.members ++ least f) := by
  have names : f.members.keys <+: f.named.members.keys := by
    rw [← namesFilled]
    refine List.IsPrefix.trans ?_ (Members.keysSet _ _ _)
    split
    · exact Members.keysSet _ _ _
    · exact List.prefix_refl _
  have rows : f.named.members.keys <+: f.completed.members.keys := by
    rw [← rowsFilled]
    split
    · exact Members.keysSet _ _ _
    · exact List.prefix_refl _
  refine (names.trans rows).trans ?_
  rw [Members.keys, Members.keys, List.map_append]
  exact List.prefix_append _ _

theorem completes (f : FormField) : Completes f (completeField f) where
  label := by simp [completeGet, completedGet]
  placeholder := by simp [completeGet, completedGet]
  rows := by
    rw [completeGet, completedGet, leastOther f (by decide)]
    simp
  min := by
    rw [completeGet, Members.getAbsent f.completed.noMin, least]
    split <;> rfl
  kept key other := by
    simp only [List.mem_cons, List.not_mem_nil, or_false, not_or] at other
    rw [completeGet, completedGet, leastOther f other.2.2.2]
    simp [other]
  order := ⟨_, completeShape f, keysKept f, completeDistinct f⟩

def readForm (text : String) : Option (List FormField) :=
  (Written.read text.toList).bind (Written.list? FormField.read)

variable {fields : List FormField}

theorem formShape (some : fields ≠ []) : formLiteral fields = (Value.array (fields.map completeField)).pretty := by
  rw [formLiteral, if_neg (by simpa using some)]

theorem formSpelled (fields : List FormField) : (Value.array (fields.map completeField)).Spelled :=
  spelledList completeSpelled fields

theorem formRead (some : fields ≠ []) :
    readForm (formLiteral fields) = Option.some (fields.map FormField.completed) := by
  rw [readForm, formShape some, Json.readPretty (formSpelled fields), Option.bind_some, Written.ofValue,
    Json.ofValuesMap, List.map_map, Written.list?, List.mapM_map]
  exact Json.mapMSome fun f _ => completeRead f

theorem formAgain (some : fields ≠ []) : formLiteral (fields.map FormField.completed) = formLiteral fields := by
  have again (f : FormField) : completeField f.completed = completeField f := by
    rw [completeShape, completeShape, f.completedTwice]
    rfl
  rw [formShape some, formShape (by simpa using some), List.map_map]
  exact congrArg (fun l => (Value.array l).pretty) (List.map_congr_left fun f _ => again f)

theorem formStable (some : fields ≠ []) :
    (∃ values, Value.parse (formLiteral fields) = Option.some (.array values) ∧ List.Forall₂ Completes fields values) ∧
    ∃ again, readForm (formLiteral fields) = Option.some again ∧ formLiteral again = formLiteral fields := by
  refine ⟨⟨fields.map completeField, ?_, ?_⟩, fields.map FormField.completed, formRead some, formAgain some⟩
  · have fits : (Value.array (fields.map completeField)).Fits Json.depthLimit := .array fun v inside => by
      obtain ⟨f, _, rfl⟩ := List.mem_map.mp inside
      exact completeFits f 123
    rw [formShape some]
    exact Value.readsBackExactly.mpr ⟨formSpelled fields, fits⟩
  · exact List.forall₂_map_right_iff.mpr (List.forall₂_same.mpr fun f _ => completes f)

theorem openFormStable :
    let fields : List FormField :=
      [⟨"qty", "", "number", "", false, none, none, none, false, none, none, none⟩,
       ⟨"memo", "메모", "textarea", "", true, some 500, none, none, true, none, some [⟨"a", "b"⟩], none⟩]
    fields ≠ [] ∧
      (∃ values, Value.parse (formLiteral fields) = some (.array values) ∧ List.Forall₂ Completes fields values) ∧
      ∃ again, readForm (formLiteral fields) = some again ∧ formLiteral again = formLiteral fields :=
  ⟨List.cons_ne_nil _ _, formStable (List.cons_ne_nil _ _)⟩

end Script

end ApiScreens
