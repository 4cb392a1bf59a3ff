import ApiScreens.Chart.Page
import ApiScreens.Proofs.Json.Outline
import ApiScreens.Proofs.Number.Reads
import ApiScreens.Proofs.Script.Expression

/-! Attributes of elements: a name with a raw text between double quotes, or with an expression in braces. The
attributes of a chart hold JSON text. Between quotes it is not read as JSON, and so denotes a text exactly if nothing
in it is escaped; in braces it denotes the value that was printed exactly if that is a constant of scripts. -/
namespace ApiScreens.Json
open Number (Binary64)

def Numeral.binary? : Numeral → Option Binary64
  | .integer n =>
      (Binary64.nearest (n < 0) n.natAbs 1).filter fun x => x.absRatio.1 = n.natAbs * x.absRatio.2
  | .binary x => if x.magnitude < Binary64.infinity then some x else none

theorem Numeral.textReads {n : Numeral} {x : Binary64} (equal : n.binary? = some x) : Binary64.ofText n.text = some x := by
  cases n with
  | integer n => exact (Binary64.integerReads n).trans (Option.filter_eq_some_iff.mp equal).1
  | binary y =>
    obtain ⟨finite, rfl⟩ : y.magnitude < Binary64.infinity ∧ y = x := by
      simpa [Numeral.binary?] using equal
    exact Binary64.renderReads finite numberLayout

namespace Value

mutual
def binary? : Value → Option Value
  | .null => some .null
  | .bool b => some (.bool b)
  | .number n => n.binary?.map fun x => .number (.binary x)
  | .string s => some (.string s)
  | .array items => (binaryItems? items).map .array
  | .object members => (binaryMembers? members).map .object
def binaryItems? : List Value → Option (List Value)
  | [] => some []
  | v :: rest => (binary? v).bind fun w => (binaryItems? rest).map (w :: ·)
def binaryMembers? : List (String × Value) → Option (List (String × Value))
  | [] => some []
  | (k, v) :: rest => (binary? v).bind fun w => (binaryMembers? rest).map ((k, w) :: ·)
end

end Value
end ApiScreens.Json

namespace ApiScreens.Script
open Json (Value Members Numeral escapeChar)
open Number (Binary64)

/-- A value that scripts have as well: with each number equal to a binary one, and each object with members of
different names, none of them `__proto__`. -/
inductive Constant : Value → Prop where
  | null : Constant .null
  | bool (b : Bool) : Constant (.bool b)
  | string (s : String) : Constant (.string s)
  | number {n : Numeral} {x : Binary64} (equal : n.binary? = some x) : Constant (.number n)
  | array {items : List Value} (each : ∀ x ∈ items, Constant x) : Constant (.array items)
  | object {members : Members} (names : members.keys.Nodup) (own : "__proto__" ∉ members.keys)
      (each : ∀ m ∈ members, Constant m.2) : Constant (.object members)

def Kept (v : Value) : Prop := ∃ w, v.binary? = some w ∧ evaluated? v = some w

theorem itemsKept {items : List Value} : (∃ ws, Value.binaryItems? items = some ws ∧ evaluatedItems? items = some ws) ↔
    ∀ v ∈ items, Kept v := by
  induction items with
  | nil => simp [Value.binaryItems?, evaluatedItems?]
  | cons v rest ih =>
    rw [List.forall_mem_cons, ← ih]
    constructor
    · rintro ⟨ws, equal, value⟩
      simp only [Value.binaryItems?, evaluatedItems?, Option.bind_eq_some_iff, Option.map_eq_some_iff] at equal value
      obtain ⟨w, here, more, later, rfl⟩ := equal
      obtain ⟨u, same, others, behind, shape⟩ := value
      obtain ⟨rfl, rfl⟩ := List.cons.inj shape
      exact ⟨⟨u, here, same⟩, others, later, behind⟩
    · rintro ⟨⟨w, here, same⟩, more, later, behind⟩
      exact ⟨w :: more, by simp [Value.binaryItems?, here, later], by simp [evaluatedItems?, same, behind]⟩

theorem membersKept {ms : Members} : (∃ ps, Value.binaryMembers? ms = some ps ∧ evaluatedMembers? ms = some ps) ↔
    ∀ m ∈ ms, Kept m.2 := by
  induction ms with
  | nil => simp [Value.binaryMembers?, evaluatedMembers?]
  | cons m rest ih =>
    obtain ⟨key, v⟩ := m
    rw [List.forall_mem_cons, ← ih]
    constructor
    · rintro ⟨ps, equal, value⟩
      simp only [Value.binaryMembers?, evaluatedMembers?, Option.bind_eq_some_iff, Option.map_eq_some_iff] at equal value
      obtain ⟨w, here, more, later, rfl⟩ := equal
      obtain ⟨u, same, others, behind, shape⟩ := value
      obtain ⟨first, rfl⟩ := List.cons.inj shape
      obtain rfl := (Prod.mk.inj first).2
      exact ⟨⟨u, here, same⟩, others, later, behind⟩
    · rintro ⟨⟨w, here, same⟩, more, later, behind⟩
      exact ⟨(key, w) :: more, by simp [Value.binaryMembers?, here, later], by simp [evaluatedMembers?, same, behind]⟩

theorem binaryNames {ms ps : Members} (equal : Value.binaryMembers? ms = some ps) : ps.keys = ms.keys := by
  induction ms generalizing ps with
  | nil =>
    obtain rfl := Option.some.inj equal
    rfl
  | cons m rest ih =>
    simp only [Value.binaryMembers?, Option.bind_eq_some_iff, Option.map_eq_some_iff] at equal
    obtain ⟨_, _, more, later, rfl⟩ := equal
    exact congrArg (m.1 :: ·) (ih later)

theorem evaluatedNames {ms ps : Members} (value : evaluatedMembers? ms = some ps) : ps.keys = ms.keys := by
  induction ms generalizing ps with
  | nil =>
    obtain rfl := Option.some.inj value
    rfl
  | cons m rest ih =>
    simp only [evaluatedMembers?, Option.bind_eq_some_iff, Option.map_eq_some_iff] at value
    obtain ⟨_, _, more, later, rfl⟩ := value
    exact congrArg (m.1 :: ·) (ih later)

theorem objectOwn {ps : Members} (names : ps.keys.Nodup) (own : "__proto__" ∉ ps.keys) :
    object? ps = some (.object ps) := by
  have none : ∀ p ∈ ps, p.1 ≠ "__proto__" := fun p inside same => own (same ▸ List.mem_map_of_mem inside)
  have few : ps.countP (·.1 = "__proto__") = 0 := List.countP_eq_zero.mpr (by simpa using none)
  have all : ps.filter (·.1 ≠ "__proto__") = ps := List.filter_eq_self.mpr (by simpa using none)
  rw [object?, few, if_neg (by omega), all, Members.pairsWhole names]

theorem objectNames {ps : Members} {w : Value} (value : object? ps = some w) :
    ∃ ms : Members, w = .object ms ∧ ms.keys.Nodup ∧ "__proto__" ∉ ms.keys := by
  unfold object? at value
  split at value
  · contradiction
  · refine ⟨_, (Option.some.inj value).symm, Members.pairsNodup _, fun there => ?_⟩
    obtain ⟨m, inside, same⟩ := List.mem_map.mp there
    have other := (List.mem_filter.mp (Members.memberPairs inside)).2
    simp [same] at other

theorem keptExactly (v : Value) : Kept v ↔ Constant v := by
  induction v using Value.byParts with
  | null => exact ⟨fun _ => .null, fun _ => ⟨_, rfl, rfl⟩⟩
  | bool b => exact ⟨fun _ => .bool b, fun _ => ⟨_, rfl, rfl⟩⟩
  | string s => exact ⟨fun _ => .string s, fun _ => ⟨_, rfl, rfl⟩⟩
  | number n =>
    constructor
    · rintro ⟨w, equal, value⟩
      obtain ⟨x, here, _⟩ := Option.map_eq_some_iff.mp equal
      exact .number here
    · rintro (_ | _ | _ | equal)
      exact ⟨_, Option.map_eq_some_iff.mpr ⟨_, equal, rfl⟩,
        Option.map_eq_some_iff.mpr ⟨_, Numeral.textReads equal, rfl⟩⟩
  | array items ih =>
    constructor
    · rintro ⟨w, equal, value⟩
      obtain ⟨xs, here, rfl⟩ := Option.map_eq_some_iff.mp equal
      obtain ⟨ys, there, same⟩ := Option.map_eq_some_iff.mp value
      cases same
      exact .array fun x inside => (ih x inside).mp (itemsKept.mp ⟨_, here, there⟩ x inside)
    · rintro (_ | _ | _ | _ | each)
      obtain ⟨ws, here, there⟩ := itemsKept.mpr fun x inside => (ih x inside).mpr (each x inside)
      exact ⟨_, Option.map_eq_some_iff.mpr ⟨_, here, rfl⟩, Option.map_eq_some_iff.mpr ⟨_, there, rfl⟩⟩
  | object members ih =>
    constructor
    · rintro ⟨w, equal, value⟩
      obtain ⟨ps, here, rfl⟩ := Option.map_eq_some_iff.mp equal
      obtain ⟨qs, there, object⟩ := Option.bind_eq_some_iff.mp value
      obtain ⟨ms, same, names, own⟩ := objectNames object
      cases same
      rw [binaryNames here] at names own
      rw [objectOwn (evaluatedNames there ▸ names) (evaluatedNames there ▸ own)] at object
      cases object
      exact .object names own fun m inside => (ih m inside).mp (membersKept.mp ⟨_, here, there⟩ m inside)
    · rintro (_ | _ | _ | _ | _ | ⟨names, own, each⟩)
      obtain ⟨ps, here, there⟩ := membersKept.mpr fun m inside => (ih m inside).mpr (each m inside)
      have object := objectOwn (binaryNames here ▸ names) (binaryNames here ▸ own)
      exact ⟨_, Option.map_eq_some_iff.mpr ⟨_, here, rfl⟩, Option.bind_eq_some_iff.mpr ⟨_, there, object⟩⟩

structure AttributeNames where
  admits : String → Bool
  whole : ∀ name, admits name = true → '=' ∉ name.toList

def raw? (text : List Char) : Option (String × List Char) :=
  match text.dropWhile (· != '"') with
  | [] => none
  | _ :: behind => some (String.ofList (text.takeWhile (· != '"')), behind)

def initializer? : List Char → Option (Value × List Char)
  | '=' :: '"' :: text => (raw? text).map fun (s, behind) => (.string s, behind)
  | '=' :: '{' :: text =>
      match expression? text with
      | some (v, '}' :: behind) => some (v, behind)
      | _ => none
  | _ => none

def attribute? (names : AttributeNames) (text : List Char) : Option ((String × Value) × List Char) :=
  let name := String.ofList (text.takeWhile (· != '='))
  if names.admits name then (initializer? (text.dropWhile (· != '='))).map fun (v, behind) => ((name, v), behind)
  else none

def Unescaped (s : String) : Prop := ∀ c ∈ s.toList, c ≠ '"' ∧ c ≠ '\\' ∧ 32 ≤ c.toNat

instance (s : String) : Decidable (Unescaped s) :=
  decidable_of_iff (s.toList.all fun c => c ≠ '"' && c ≠ '\\' && 32 ≤ c.toNat) (by simp [Unescaped, and_assoc])

theorem escapeSame {c : Char} : escapeChar c = [c] ↔ c ≠ '"' ∧ c ≠ '\\' ∧ 32 ≤ c.toNat := by
  unfold escapeChar
  split
  · simp [*]
  split
  · simp [*]
  split
  · subst_vars; decide
  split
  · subst_vars; decide
  split
  · subst_vars; decide
  split
  · simp [*]
  split
  · simp [*]
  split
  · simp only [List.cons.injEq, reduceCtorEq, and_false, false_iff]
    omega
  · simp only [true_iff]
    exact ⟨‹_›, ‹_›, by omega⟩

theorem escapeSome (c : Char) : escapeChar c ≠ [] := by
  unfold escapeChar
  repeat' split
  all_goals simp

theorem escapesLonger (cs : List Char) : cs.length ≤ (cs.flatMap escapeChar).length := by
  induction cs with
  | nil => exact Nat.le_refl _
  | cons c rest ih =>
    have here := List.length_pos_iff.mpr (escapeSome c)
    simp only [List.flatMap_cons, List.length_append, List.length_cons]
    omega

theorem unescapedSame {cs : List Char} : cs.flatMap escapeChar = cs ↔ ∀ c ∈ cs, escapeChar c = [c] := by
  induction cs with
  | nil => simp
  | cons c rest ih =>
    rw [List.flatMap_cons, List.forall_mem_cons, ← ih]
    constructor
    · intro same
      have longer := escapesLonger rest
      have lengths := congrArg List.length same
      have here := List.length_pos_iff.mpr (escapeSome c)
      simp only [List.length_append, List.length_cons] at lengths
      have parts : escapeChar c ++ rest.flatMap escapeChar = [c] ++ rest := same
      exact List.append_inj parts (by rw [List.length_singleton]; omega)
    · rintro ⟨here, more⟩
      rw [here, more]
      rfl

section
variable {inner text rest behind : List Char} {s name : String} {names : AttributeNames} {v w : Value}

theorem rawWhole : raw? (inner ++ '"' :: rest) = some (s, rest) ↔ s.toList = inner ∧ '"' ∉ inner := by
  constructor
  · intro read
    unfold raw? at read
    split at read
    · contradiction
    · rename_i c behind dropped
      obtain ⟨rfl, rfl⟩ := Prod.mk.inj (Option.some.inj read)
      have whole := List.takeWhile_append_dropWhile (p := (· != '"')) (l := inner ++ '"' :: behind)
      have mark : c = '"' := by
        have first := List.head?_dropWhile_not (· != '"') (inner ++ '"' :: behind)
        rw [dropped] at first
        simpa using first
      rw [dropped, mark] at whole
      have same := List.append_cancel_right whole
      rw [String.toList_ofList, same]
      refine ⟨rfl, fun inside => ?_⟩
      have clear := List.all_takeWhile (p := (· != '"')) (l := inner ++ '"' :: behind)
      rw [same] at clear
      simpa using List.all_eq_true.mp clear '"' inside
  · rintro ⟨rfl, clear⟩
    have before : ∀ c ∈ s.toList, (c != '"') = true := fun c inside => bne_iff_ne.mpr fun same => clear (same ▸ inside)
    obtain ⟨taken, dropped⟩ := Text.markCut before (by decide : ('"' != '"') = false) rest
    rw [raw?, taken, dropped, String.ofList_toList]

theorem attributeNamed (read : attribute? names text = some ((name, v), behind)) : names.admits name = true := by
  unfold attribute? at read
  dsimp only at read
  split at read
  · rename_i admitted
    obtain ⟨_, _, same⟩ := Option.map_eq_some_iff.mp read
    cases same
    exact admitted
  · contradiction

theorem attributeRead (admitted : names.admits name = true) (text : List Char) :
    attribute? names (name.toList ++ '=' :: text) =
      (initializer? ('=' :: text)).map fun (v, behind) => ((name, v), behind) := by
  have before : ∀ c ∈ name.toList, (c != '=') = true :=
    fun c inside => bne_iff_ne.mpr fun same => names.whole name admitted (same ▸ inside)
  obtain ⟨taken, dropped⟩ := Text.markCut before (by decide : ('=' != '=') = false) text
  simp only [attribute?, taken, dropped, String.ofList_toList, if_pos admitted]

end

end ApiScreens.Script

namespace ApiScreens.ChartPage
open Json (Value escapeChar)
open Script

def Passable : Value → Prop
  | .string s => Unescaped s
  | v => Constant v

def Passes (names : AttributeNames) (name : String) (v : Value) : Prop :=
  ∃ w, v.binary? = some w ∧ ∀ rest, attribute? names ((attributeText name v).toList ++ rest) = some ((name, w), rest)

section
variable {names : AttributeNames} {name : String} {v : Value}

theorem textPasses (admitted : names.admits name = true) (s : String) :
    Passes names name (.string s) ↔ Unescaped s := by
  have shape (rest : List Char) : (attributeText name (.string s)).toList ++ rest =
      name.toList ++ '=' :: '"' :: (s.toList.flatMap escapeChar ++ '"' :: rest) := by
    simp [attributeText, Value.compact, Value.write, Json.quoted]
  have whole (rest : List Char) : attribute? names ((attributeText name (.string s)).toList ++ rest) =
      some ((name, .string s), rest) ↔ raw? (s.toList.flatMap escapeChar ++ '"' :: rest) = some (s, rest) := by
    rw [shape, attributeRead admitted, initializer?, Option.map_map]
    cases raw? (s.toList.flatMap escapeChar ++ '"' :: rest) <;> simp [Prod.ext_iff]
  have same : s.toList = s.toList.flatMap escapeChar ↔ Unescaped s := by
    rw [eq_comm, unescapedSame]
    exact forall₂_congr fun _ _ => escapeSame
  constructor
  · rintro ⟨w, equal, reads⟩
    cases equal
    exact same.mp (rawWhole.mp ((whole []).mp (reads []))).1
  · intro unescaped
    refine ⟨.string s, rfl, fun rest => (whole rest).mpr (rawWhole.mpr ⟨same.mpr unescaped, ?_⟩)⟩
    rw [← same.mpr unescaped]
    exact fun inside => (unescaped _ inside).1 rfl

theorem expressionPasses (admitted : names.admits name = true) (other : v.string? = none) :
    Passes names name v ↔ Constant v := by
  have shape (rest : List Char) : (attributeText name v).toList ++ rest =
      name.toList ++ '=' :: '{' :: (v.write .compact 0 ++ '}' :: rest) := by
    cases v <;> first | contradiction | simp [attributeText, Value.compact]
  have read (rest : List Char) : attribute? names ((attributeText name v).toList ++ rest) =
      (evaluated? v).map fun w => ((name, w), rest) := by
    rw [shape, attributeRead admitted, initializer?,
      expressionRead v 0 ('}' :: rest) (endsMark (by decide) (by decide) rest)]
    cases evaluated? v <;> rfl
  rw [← keptExactly]
  constructor
  · rintro ⟨w, equal, reads⟩
    obtain ⟨u, value, same⟩ := Option.map_eq_some_iff.mp ((read []).symm.trans (reads []))
    cases same
    exact ⟨w, equal, value⟩
  · rintro ⟨w, equal, value⟩
    exact ⟨w, equal, fun rest => by rw [read, value]; rfl⟩

theorem passesExactly : Passes names name v ↔ names.admits name = true ∧ Passable v := by
  have named (passes : Passes names name v) : names.admits name = true :=
    let ⟨_, _, reads⟩ := passes
    attributeNamed (reads [])
  refine ⟨fun passes => ⟨named passes, ?_⟩, fun ⟨admitted, passable⟩ => ?_⟩
  · have admitted := named passes
    cases v with
    | string s => exact (textPasses admitted s).mp passes
    | _ => exact (expressionPasses admitted rfl).mp passes
  · cases v with
    | string s => exact (textPasses admitted s).mpr passable
    | _ => exact (expressionPasses admitted rfl).mpr passable

end
end ApiScreens.ChartPage
