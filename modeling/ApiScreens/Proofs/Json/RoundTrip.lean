import ApiScreens.Json.Reader
import ApiScreens.Proofs.Json.Lexing

/-! Printed values read back. The parser takes the tokens of a value from any state that waits for one and
delivers the value there, so arrays and objects are read item by item. -/
namespace ApiScreens.Json

theorem Parser.runCons (p : Parser) (t : Token) (ts : List Token) :
    p.run (t :: ts) = (p.step t).bind (·.run ts) := rfl

theorem tokensFirst (v : Value) : ∃ t rest, v.tokens = t :: rest ∧ t ≠ .closeBracket := by
  cases v with
  | null => exact ⟨_, _, rfl, by decide⟩
  | bool b => cases b <;> exact ⟨_, _, rfl, by decide⟩
  | number n => exact ⟨_, _, rfl, by simp⟩
  | string s => exact ⟨_, _, rfl, by simp⟩
  | array items => cases items <;> exact ⟨_, _, rfl, by simp⟩
  | object members =>
    cases members with
    | nil => exact ⟨_, _, rfl, by simp⟩
    | cons m rest => exact ⟨_, _, rfl, by simp⟩

mutual
def Value.reread : Value → Written
  | .null => .null
  | .bool b => .bool b
  | .number n => .number ((literal? n.text).bind Literal.numeral)
  | .string s => .string (some s)
  | .array items => .array (Value.rereadItems items)
  | .object members => .object (Value.rereadMembers members)
def Value.rereadItems : List Value → List Written
  | [] => []
  | v :: rest => Value.reread v :: Value.rereadItems rest
def Value.rereadMembers : List (String × Value) → List (Option String × Written)
  | [] => []
  | (k, v) :: rest => (some k, Value.reread v) :: Value.rereadMembers rest
end

def Parses (v : Value) : Prop :=
  ∀ frames ts, Parser.run ⟨frames, .value⟩ (v.tokens ++ ts) = Parser.run (Parser.deliver v.reread frames) ts

theorem itemsParse {xs : List Value} (each : ∀ x ∈ xs, Parses x) (done : List Written)
    (outer : List Frame) (ts : List Token) :
    Parser.run ⟨outer, .next (.inr (.inr done))⟩ (Value.itemTokens xs ++ .closeBracket :: ts) =
      Parser.run (Parser.deliver (.array (done.reverse ++ Value.rereadItems xs)) outer) ts := by
  induction xs generalizing done with
  | nil => simp [Value.itemTokens, Parser.runCons, Parser.step, Value.rereadItems]
  | cons x rest ih =>
    have here := each x List.mem_cons_self (.array done :: outer)
      (Value.itemTokens rest ++ .closeBracket :: ts)
    have later := ih (fun y inside => each y (List.mem_cons_of_mem _ inside)) (Value.reread x :: done)
    simp only [Value.itemTokens, List.cons_append, List.append_assoc, Parser.runCons, Parser.step,
      Option.bind_some]
    rw [here, Parser.deliver, later]
    simp [Value.rereadItems]

theorem membersParse {ms : List (String × Value)} (each : ∀ m ∈ ms, Parses m.2)
    (done : List (Option String × Written)) (outer : List Frame) (ts : List Token) :
    Parser.run ⟨outer, .next (.inr (.inl done))⟩ (Value.memberTokens ms ++ .closeBrace :: ts) =
      Parser.run (Parser.deliver (.object (done.reverse ++ Value.rereadMembers ms)) outer) ts := by
  induction ms generalizing done with
  | nil => simp [Value.memberTokens, Parser.runCons, Parser.step, Value.rereadMembers]
  | cons m rest ih =>
    obtain ⟨key, v⟩ := m
    have here := each (key, v) List.mem_cons_self (.object done (some key) :: outer)
      (Value.memberTokens rest ++ .closeBrace :: ts)
    have later := ih (fun y inside => each y (List.mem_cons_of_mem _ inside))
      ((some key, Value.reread v) :: done)
    simp only [Value.memberTokens, List.cons_append, List.append_assoc, Parser.runCons, Parser.step,
      Option.bind_some, keyOfQuoted, Option.map_some]
    rw [here, Parser.deliver, later]
    simp [Value.rereadMembers]

theorem numberReads (n : Numeral) :
    Written.ofNumber n.text = some (.number ((literal? n.text).bind Literal.numeral)) := by
  obtain ⟨l, read⟩ := Option.isSome_iff_exists.mp (numeralText n).reads
  rw [Written.ofNumber, read, Option.map_some, Option.bind_some]

theorem valueParses (v : Value) : Parses v := by
  induction v using Value.byParts with
  | null =>
    intro frames ts
    rfl
  | bool b =>
    intro frames ts
    cases b <;> rfl
  | string s =>
    intro frames ts
    simp [Value.tokens, Parser.runCons, Parser.step, Parser.begin, ofTextQuoted, Value.reread]
  | number n =>
    intro frames ts
    simp [Value.tokens, Parser.runCons, Parser.step, Parser.begin, numberReads, Value.reread]
  | array items ih =>
    intro frames ts
    cases items with
    | nil => rfl
    | cons x rest =>
      obtain ⟨t, more, shape, opens⟩ := tokensFirst x
      have here := ih x List.mem_cons_self (.array [] :: frames)
        (Value.itemTokens rest ++ .closeBracket :: ts)
      have first : Parser.run ⟨frames, .item⟩ (x.tokens ++ (Value.itemTokens rest ++ .closeBracket :: ts)) =
          Parser.run ⟨.array [] :: frames, .value⟩
            (x.tokens ++ (Value.itemTokens rest ++ .closeBracket :: ts)) := by
        rw [shape, List.cons_append, Parser.runCons, Parser.runCons]
        simp [Parser.step]
      have items := itemsParse (fun y inside => ih y (List.mem_cons_of_mem _ inside)) [Value.reread x]
        frames ts
      simp only [Value.tokens, List.cons_append, List.append_assoc, List.nil_append]
      rw [Parser.runCons]
      simp only [Parser.step, Parser.begin, Option.bind_some]
      rw [first, here, Parser.deliver, items]
      simp [Value.reread, Value.rereadItems]
  | object members ih =>
    intro frames ts
    cases members with
    | nil => rfl
    | cons m rest =>
      obtain ⟨key, v⟩ := m
      have here := ih (key, v) List.mem_cons_self (.object [] (some key) :: frames)
        (Value.memberTokens rest ++ .closeBrace :: ts)
      have members := membersParse (fun y inside => ih y (List.mem_cons_of_mem _ inside))
        [(some key, Value.reread v)] frames ts
      simp only [Value.tokens, List.cons_append, List.append_assoc, List.nil_append]
      rw [Parser.runCons]
      simp only [Parser.step, Parser.begin, Option.bind_some, Parser.runCons, keyOfQuoted, Option.map_some]
      rw [here, Parser.deliver, members]
      simp [Value.reread, Value.rereadMembers]

theorem readWritten {style : Style} (blank : style.Blank) (v : Value) :
    Written.read (v.write style 0) = some v.reread := by
  have parsed := valueParses v [] []
  rw [List.append_nil] at parsed
  rw [Written.read, tokensWritten blank, Option.bind_some, Written.ofTokens, parsed]
  rfl

inductive Value.Spelled : Value → Prop where
  | null : Value.Spelled .null
  | bool (b : Bool) : Value.Spelled (.bool b)
  | string (s : String) : Value.Spelled (.string s)
  | number {n : Numeral} (read : Written.ofNumber n.text = some (.number (some n))) :
      Value.Spelled (.number n)
  | array {items : List Value} (each : ∀ x ∈ items, Value.Spelled x) : Value.Spelled (.array items)
  | object {members : List (String × Value)} (each : ∀ m ∈ members, Value.Spelled m.2) :
      Value.Spelled (.object members)

theorem rereadItemsSame {items : List Value} (each : ∀ x ∈ items, x.reread = Written.ofValue x) :
    Value.rereadItems items = Written.ofValues items := by
  induction items with
  | nil => rfl
  | cons x rest ih =>
    rw [Value.rereadItems, Written.ofValues, each x List.mem_cons_self,
      ih fun y inside => each y (List.mem_cons_of_mem _ inside)]

theorem rereadMembersSame {members : List (String × Value)}
    (each : ∀ m ∈ members, m.2.reread = Written.ofValue m.2) :
    Value.rereadMembers members = Written.ofMembers members := by
  induction members with
  | nil => rfl
  | cons m rest ih =>
    obtain ⟨key, v⟩ := m
    rw [Value.rereadMembers, Written.ofMembers, each (key, v) List.mem_cons_self,
      ih fun n inside => each n (List.mem_cons_of_mem _ inside)]

theorem rereadSpelled {v : Value} (spelled : v.Spelled) : v.reread = Written.ofValue v := by
  induction spelled with
  | null => rfl
  | bool b => rfl
  | string s => rfl
  | number read =>
    rw [numberReads] at read
    exact Option.some.inj read
  | array each ih => rw [Value.reread, Written.ofValue, rereadItemsSame ih]
  | object each ih => rw [Value.reread, Written.ofValue, rereadMembersSame ih]

theorem Style.prettyBlank : Style.pretty.Blank := by
  intro unit set
  cases set
  exact List.all_eq_true.mp (by decide)

theorem readPretty {v : Value} (spelled : v.Spelled) :
    Written.read v.pretty.toList = some (Written.ofValue v) := by
  rw [Value.pretty, String.toList_ofList, readWritten Style.prettyBlank, rereadSpelled spelled]

theorem Value.Spelled.ofNat {n : Nat} (fits : n < Number.twoTo 64) : (Value.ofNat n).Spelled :=
  .number (integerSpelled ⟨by unfold Number.twoTo; omega, by omega⟩)

end ApiScreens.Json
