import ApiScreens.Number.Decimal
import ApiScreens.Proofs.Json.Members
import ApiScreens.Proofs.Json.Number
import ApiScreens.Proofs.Script.Token

/-! Constant expressions of scripts: literals, and arrays and objects of such, without blanks. The compact text of a
JSON value is one of these, and it denotes what the value is evaluated to: every number is rounded to a binary one,
and no property is named `__proto__`. -/
namespace ApiScreens.Script
open Json (Value Members Numeral NumberText Style isNumberChar startsNumber)
open Number (Binary64)

def word? (letters : List Char) : Option Value :=
  if letters = "null".toList then some .null
  else if letters = "true".toList then some (.bool true)
  else if letters = "false".toList then some (.bool false)
  else none

def number? (chars : List Char) : Option Value :=
  if (Json.literal? chars).isSome then (Binary64.ofText chars).map fun x => .number (.binary x) else none

/-- A later property takes the place of an earlier one of its name. `__proto__`, which may be given once, does not name
a property but says what the object inherits. -/
def object? (properties : List (String × Value)) : Option Value :=
  if 1 < properties.countP (·.1 = "__proto__") then none
  else some (.object (Members.ofPairs (properties.filter (·.1 ≠ "__proto__"))))

def leaf? : List Char → Option (Value × List Char)
  | [] => none
  | c :: rest =>
      if startsNumber c then
        (number? ((c :: rest).takeWhile isNumberChar)).map (·, (c :: rest).dropWhile isNumberChar)
      else if isWordChar c then
        (word? ((c :: rest).takeWhile isWordChar)).map (·, (c :: rest).dropWhile isWordChar)
      else (literal? (c :: rest)).map fun (s, behind) => (.string s, behind)

-- What is read takes at least one character, so the comparisons of lengths are never false; by them the reading
-- ends.
mutual
def expression? (text : List Char) : Option (Value × List Char) :=
  match text with
  | '[' :: ']' :: rest => some (.array [], rest)
  | '[' :: rest => (expressions? rest).map fun (vs, behind) => (.array vs, behind)
  | '{' :: '}' :: rest => some (.object [], rest)
  | '{' :: rest => (properties? rest).bind fun (ps, behind) => (object? ps).map (·, behind)
  | text => leaf? text
termination_by (text.length, 0)

def expressions? (text : List Char) : Option (List Value × List Char) :=
  match expression? text with
  | some (v, ',' :: rest) =>
      if rest.length < text.length then (expressions? rest).map fun (vs, behind) => (v :: vs, behind) else none
  | some (v, ']' :: rest) => some ([v], rest)
  | _ => none
termination_by (text.length, 1)

def properties? (text : List Char) : Option (List (String × Value) × List Char) :=
  match literal? text with
  | some (key, ':' :: after) =>
      if after.length < text.length then
        match expression? after with
        | some (v, ',' :: rest) =>
            if rest.length < text.length then (properties? rest).map fun (ps, behind) => ((key, v) :: ps, behind)
            else none
        | some (v, '}' :: rest) => some ([(key, v)], rest)
        | _ => none
      else none
  | _ => none
termination_by (text.length, 1)
end

mutual
def evaluated? : Value → Option Value
  | .null => some .null
  | .bool b => some (.bool b)
  | .number n => (Binary64.ofText n.text).map fun x => .number (.binary x)
  | .string s => some (.string s)
  | .array items => (evaluatedItems? items).map .array
  | .object members => (evaluatedMembers? members).bind object?
def evaluatedItems? : List Value → Option (List Value)
  | [] => some []
  | v :: rest => (evaluated? v).bind fun w => (evaluatedItems? rest).map (w :: ·)
def evaluatedMembers? : List (String × Value) → Option (List (String × Value))
  | [] => some []
  | (k, v) :: rest => (evaluated? v).bind fun w => (evaluatedMembers? rest).map ((k, w) :: ·)
end

def Ends (text : List Char) : Prop := ∀ c, text.head? = some c → isNumberChar c = false ∧ isWordChar c = false

variable {rest : List Char}

theorem endsMark {c : Char} (number : isNumberChar c = false) (word : isWordChar c = false) (rest : List Char) :
    Ends (c :: rest) := by
  intro d first
  rw [← Option.some.inj first]
  exact ⟨number, word⟩

theorem wordRead (letters : List Char) {c : Char} {v : Value} (first : letters.head? = some c)
    (number : startsNumber c = false) (all : ∀ d ∈ letters, isWordChar d = true) (known : word? letters = some v)
    (ends : Ends rest) : leaf? (letters ++ rest) = some (v, rest) := by
  obtain ⟨more, rfl⟩ := List.head?_eq_some_iff.mp first
  obtain ⟨taken, dropped⟩ := Text.runCut all fun d _ shape => (ends d (congrArg List.head? shape)).2
  rw [List.cons_append] at taken dropped ⊢
  simp only [leaf?, number, all c List.mem_cons_self, taken, dropped, known]
  rfl

theorem numeralRead (n : Numeral) (ends : Ends rest) :
    leaf? (n.text ++ rest) = (evaluated? (.number n)).map (·, rest) := by
  have text := Json.numeralText n
  obtain ⟨c, more, shape, first⟩ := text.first
  obtain ⟨taken, dropped⟩ := Text.runCut text.chars fun d _ shape => (ends d (congrArg List.head? shape)).1
  have start : leaf? (n.text ++ rest) =
      (number? ((n.text ++ rest).takeWhile isNumberChar)).map (·, (n.text ++ rest).dropWhile isNumberChar) := by
    rw [shape, List.cons_append, leaf?, if_pos first]
  rw [start, taken, dropped, number?, if_pos text.reads, evaluated?]

theorem expressionLeaf {c : Char} {text : List Char} (first : text.head? = some c) (bracket : c ≠ '[') (brace : c ≠ '{') :
    expression? text = leaf? text := by
  obtain ⟨more, rfl⟩ := List.head?_eq_some_iff.mp first
  rw [expression?]
  all_goals simp [bracket, brace]

theorem startsApart {c : Char} (starts : startsNumber c = true) : c ≠ '[' ∧ c ≠ '{' ∧ c ≠ ']' := by
  refine ⟨?_, ?_, ?_⟩ <;>
  · rintro rfl
    exact absurd starts (by decide)

theorem quotedFirst (s : String) (rest : List Char) : (Json.quoted s ++ rest).head? = some '"' := rfl

theorem leafQuoted (s : String) (rest : List Char) : leaf? (Json.quoted s ++ rest) = some (.string s, rest) := by
  have read := literalQuoted s rest
  obtain ⟨more, shape⟩ := List.head?_eq_some_iff.mp (quotedFirst s rest)
  rw [shape] at read ⊢
  rw [leaf?, if_neg (by decide), if_neg (by decide), read]
  rfl

theorem writeFirst (v : Value) (level : Nat) (rest : List Char) :
    ∃ c, (v.write .compact level ++ rest).head? = some c ∧ c ≠ ']' := by
  cases v with
  | null => exact ⟨_, rfl, by decide⟩
  | bool b => cases b <;> exact ⟨_, rfl, by decide⟩
  | number n =>
    obtain ⟨c, more, shape, first⟩ := (Json.numeralText n).first
    exact ⟨c, by simp [Value.write, shape], (startsApart first).2.2⟩
  | string s => exact ⟨_, quotedFirst s rest, by decide⟩
  | array items => cases items <;> exact ⟨_, rfl, by decide⟩
  | object members => cases members <;> exact ⟨_, rfl, by decide⟩

theorem compactLine (level : Nat) : Style.compact.line level = [] := rfl

theorem compactColon : Style.compact.colon = [':'] := rfl

section
variable {v : Value} {text behind : List Char}

theorem expressionsLast (read : expression? text = some (v, ']' :: rest)) : expressions? text = some ([v], rest) := by
  rw [expressions?, read]
  rfl

theorem expressionsStep (read : expression? text = some (v, ',' :: rest)) (shorter : rest.length < text.length) :
    expressions? text = (expressions? rest).map fun p => (v :: p.1, p.2) := by
  rw [expressions?, read]
  exact if_pos shorter

theorem expressionsNone (read : expression? text = none) : expressions? text = none := by rw [expressions?, read]

theorem propertiesNamed (key : String) (after : List Char) : properties? (Json.quoted key ++ ':' :: after) =
    match expression? after with
    | some (v, ',' :: rest) =>
        if rest.length < (Json.quoted key ++ ':' :: after).length then
          (properties? rest).map fun (ps, behind) => ((key, v) :: ps, behind)
        else none
    | some (v, '}' :: rest) => some ([(key, v)], rest)
    | _ => none := by
  have shorter : after.length < (Json.quoted key ++ ':' :: after).length := by
    simp
    omega
  rw [properties?, literalQuoted]
  exact if_pos shorter

end

def ReadEvaluated (v : Value) : Prop :=
  ∀ level rest, Ends rest → expression? (v.write .compact level ++ rest) = (evaluated? v).map (·, rest)

theorem itemsRead {xs : List Value} (each : ∀ x ∈ xs, ReadEvaluated x) {v : Value} (first : ReadEvaluated v)
    (level : Nat) (rest : List Char) :
    expressions? (v.write .compact level ++ (Value.writeItems .compact level xs ++ ']' :: rest)) =
      (evaluatedItems? (v :: xs)).map (·, rest) := by
  induction xs generalizing v with
  | nil =>
    have here := first level (']' :: rest) (endsMark (by decide) (by decide) rest)
    rw [Value.writeItems, List.nil_append]
    cases value : evaluated? v with
    | none =>
      rw [value] at here
      rw [expressionsNone here, evaluatedItems?, value]
      rfl
    | some w =>
      rw [value] at here
      rw [expressionsLast here, evaluatedItems?, value]
      rfl
  | cons x more ih =>
    have later := ih (fun y inside => each y (List.mem_cons_of_mem _ inside)) (each x List.mem_cons_self)
    have here := first level (',' :: (x.write .compact level ++ (Value.writeItems .compact level more ++ ']' :: rest)))
      (endsMark (by decide) (by decide) _)
    rw [Value.writeItems, compactLine]
    simp only [List.cons_append, List.nil_append, List.append_assoc]
    cases value : evaluated? v with
    | none =>
      rw [value] at here
      rw [expressionsNone here, evaluatedItems?, value]
      rfl
    | some w =>
      rw [value] at here
      have items : evaluatedItems? (v :: x :: more) = (evaluatedItems? (x :: more)).map (w :: ·) := by
        rw [evaluatedItems?, value, Option.bind_some]
      rw [expressionsStep here (by simp; omega), later, items, Option.map_map, Option.map_map]
      rfl

theorem membersRead {ms : List (String × Value)} (each : ∀ m ∈ ms, ReadEvaluated m.2) (key : String) {v : Value}
    (first : ReadEvaluated v) (level : Nat) (rest : List Char) :
    properties? (Json.quoted key ++ ':' :: (v.write .compact level ++ (Value.writeMembers .compact level ms ++ '}' :: rest))) =
      (evaluatedMembers? ((key, v) :: ms)).map (·, rest) := by
  induction ms generalizing key v with
  | nil =>
    have here := first level ('}' :: rest) (endsMark (by decide) (by decide) rest)
    rw [Value.writeMembers, List.nil_append, propertiesNamed, here, evaluatedMembers?]
    cases evaluated? v <;> rfl
  | cons m more ih =>
    obtain ⟨name, x⟩ := m
    have later := ih (fun y inside => each y (List.mem_cons_of_mem _ inside)) name (each (name, x) List.mem_cons_self)
    have here := first level (',' :: (Json.quoted name ++ ':' ::
      (x.write .compact level ++ (Value.writeMembers .compact level more ++ '}' :: rest)))) (endsMark (by decide) (by decide) _)
    rw [Value.writeMembers, compactLine, compactColon]
    simp only [List.cons_append, List.nil_append, List.append_assoc]
    rw [propertiesNamed, here, evaluatedMembers?]
    cases evaluated? v with
    | none => rfl
    | some w =>
      simp only [Option.map_some]
      rw [if_pos (by simp; omega), later, Option.bind_some, Option.map_map, Option.map_map]
      rfl

theorem expressionRead (v : Value) : ReadEvaluated v := by
  induction v using Value.byParts with
  | null =>
    intro level rest ends
    have read := wordRead "null".toList rfl (by decide) (List.all_eq_true.mp (by decide)) rfl ends
    rw [Value.write, expressionLeaf rfl (by decide) (by decide), read]
    rfl
  | bool b =>
    intro level rest ends
    cases b with
    | true =>
      have read := wordRead "true".toList rfl (by decide) (List.all_eq_true.mp (by decide)) rfl ends
      rw [Value.write, expressionLeaf rfl (by decide) (by decide), read]
      rfl
    | false =>
      have read := wordRead "false".toList rfl (by decide) (List.all_eq_true.mp (by decide)) rfl ends
      rw [Value.write, expressionLeaf rfl (by decide) (by decide), read]
      rfl
  | number n =>
    intro level rest ends
    obtain ⟨c, more, shape, first⟩ := (Json.numeralText n).first
    have front : (n.text ++ rest).head? = some c := by simp [shape]
    obtain ⟨bracket, brace, _⟩ := startsApart first
    rw [Value.write, expressionLeaf front bracket brace, numeralRead n ends]
  | string s =>
    intro level rest ends
    rw [Value.write, expressionLeaf (quotedFirst s rest) (by decide) (by decide), leafQuoted]
    rfl
  | array items ih =>
    intro level rest ends
    cases items with
    | nil =>
      rw [Value.write, List.cons_append, List.cons_append, expression?]
      rfl
    | cons x more =>
      have read := itemsRead (fun y inside => ih y (List.mem_cons_of_mem _ inside)) (ih x List.mem_cons_self)
        (level + 1) rest
      obtain ⟨c, front, open_⟩ := writeFirst x (level + 1)
        (Value.writeItems .compact (level + 1) more ++ ']' :: rest)
      rw [Value.write, compactLine, compactLine]
      simp only [List.cons_append, List.nil_append, List.append_assoc]
      rw [expression?, read, evaluated?, Option.map_map, Option.map_map]
      · rfl
      · rintro behind close
        rw [close] at front
        exact open_ (Option.some.inj front).symm
  | object members ih =>
    intro level rest ends
    cases members with
    | nil =>
      rw [Value.write, List.cons_append, List.cons_append, expression?]
      rfl
    | cons m more =>
      obtain ⟨key, x⟩ := m
      have read := membersRead (fun y inside => ih y (List.mem_cons_of_mem _ inside)) key
        (ih (key, x) List.mem_cons_self) (level + 1) rest
      rw [Value.write, compactLine, compactLine, compactColon]
      simp only [List.cons_append, List.nil_append, List.append_assoc]
      rw [expression?, read, evaluated?, Option.bind_map]
      · cases evaluatedMembers? ((key, x) :: more) <;> rfl
      · rintro behind close
        have front := quotedFirst key (':' :: (x.write .compact (level + 1) ++
          (Value.writeMembers .compact (level + 1) more ++ '}' :: rest)))
        rw [close] at front
        exact absurd front (by simp)

end ApiScreens.Script
