import ApiScreens.Proofs.Json.Leaf
import ApiScreens.Proofs.Json.Members
import ApiScreens.Proofs.Json.Number

/-! The tokens of printed text. A word or a number ends where a delimiter comes, so tokens are read off a text
from its right end: what stands behind a token is delimited, whatever it is. -/
namespace ApiScreens.Json
open Number

def Delimited (cs : List Char) : Prop :=
  ∀ c rest, cs = c :: rest → isWordChar c = false ∧ isNumberChar c = false

namespace Delimited

theorem nil : Delimited [] := fun _ _ same => absurd same (by simp)

theorem cons {c : Char} (rest : List Char) (clear : isWordChar c = false ∧ isNumberChar c = false) :
    Delimited (c :: rest) := by
  intro d more same
  rw [← (List.cons.inj same).1]
  exact clear

theorem append {a b : List Char} (left : Delimited a) (right : Delimited b) : Delimited (a ++ b) := by
  cases a with
  | nil => exact right
  | cons c rest => exact cons _ (left c rest rfl)

end Delimited

theorem runCons (state : Lexer) (c : Char) (rest : List Char) :
    state.run (c :: rest) = (state.step c).bind fun next => (next.1.run rest).map (next.2 ++ ·) := by
  rw [Lexer.run]
  cases state.step c with
  | none => rfl
  | some next => cases run : next.1.run rest <;> simp [run]

theorem runStep {state next : Lexer} {c : Char} (step : state.step c = some (next, [])) (rest : List Char) :
    state.run (c :: rest) = next.run rest := by
  rw [runCons, step, Option.bind_some]
  simp

def Lexes (cs : List Char) (ts : List Token) : Prop :=
  ∀ rest, Delimited rest → Lexer.between.run (cs ++ rest) = (Lexer.between.run rest).map (ts ++ ·)

namespace Lexes

theorem nil : Lexes [] [] := by
  intro rest _
  simp

theorem append {a b : List Char} {s t : List Token} (left : Lexes a s) (right : Lexes b t)
    (delimited : Delimited b) : Lexes (a ++ b) (s ++ t) := by
  intro rest behind
  rw [List.append_assoc, left _ (delimited.append behind), right rest behind, Option.map_map]
  simp [Function.comp_def]

theorem mark {c : Char} {t : Token} (is : punctuation c = some t) {b : List Char} {ts : List Token}
    (right : Lexes b ts) : Lexes (c :: b) (t :: ts) := by
  have start : Lexer.start c = some (.between, [t]) := by
    unfold punctuation at is
    split at is <;> cases is <;> rfl
  intro rest behind
  rw [List.cons_append, runCons, Lexer.step, start, Option.bind_some, right rest behind, Option.map_map]
  simp [Function.comp_def]

theorem blank {cs b : List Char} {ts : List Token} (all : ∀ c ∈ cs, isSpace c = true)
    (right : Lexes b ts) : Lexes (cs ++ b) ts := by
  induction cs with
  | nil => exact right
  | cons c rest ih =>
    have more := ih fun d inside => all d (List.mem_cons_of_mem _ inside)
    have start : Lexer.between.step c = some (.between, []) := by
      simp [Lexer.step, Lexer.start, all c List.mem_cons_self]
    intro last behind
    rw [List.cons_append, List.cons_append, runStep start, more last behind]

theorem completed (state : Lexer) (t : Token) {rest : List Char} (behind : Delimited rest)
    (step : ∀ c, isWordChar c = false ∧ isNumberChar c = false →
      state.step c = (Lexer.start c).map fun (s, ts) => (s, t :: ts))
    (finish : state.finish = some [t]) :
    state.run rest = (Lexer.between.run rest).map (t :: ·) := by
  cases rest with
  | nil =>
    rw [Lexer.run, finish]
    rfl
  | cons c more =>
    rw [runCons, runCons, step c (behind c more rfl), Lexer.step]
    cases started : Lexer.start c with
    | none => rfl
    | some next =>
      obtain ⟨s, ts⟩ := next
      simp [Function.comp_def]

theorem wordRun {cs : List Char} (all : ∀ c ∈ cs, isWordChar c = true) (read rest : List Char) :
    (Lexer.word read).run (cs ++ rest) = (Lexer.word (cs.reverse ++ read)).run rest := by
  induction cs generalizing read with
  | nil => rfl
  | cons c more ih =>
    have here := all c List.mem_cons_self
    have later := ih (fun d inside => all d (List.mem_cons_of_mem _ inside)) (c :: read)
    have step : (Lexer.word read).step c = some (.word (c :: read), []) := by simp [Lexer.step, here]
    rw [List.cons_append, runStep step, later]
    simp

theorem numberRun {cs : List Char} (all : ∀ c ∈ cs, isNumberChar c = true) (read rest : List Char) :
    (Lexer.number read).run (cs ++ rest) = (Lexer.number (cs.reverse ++ read)).run rest := by
  induction cs generalizing read with
  | nil => rfl
  | cons c more ih =>
    have here := all c List.mem_cons_self
    have later := ih (fun d inside => all d (List.mem_cons_of_mem _ inside)) (c :: read)
    have step : (Lexer.number read).step c = some (.number (c :: read), []) := by simp [Lexer.step, here]
    rw [List.cons_append, runStep step, later]
    simp

theorem word {c : Char} {cs : List Char} (start : Lexer.start c = some (.word [c], []))
    (all : ∀ d ∈ cs, isWordChar d = true) : Lexes (c :: cs) [.word (c :: cs)] := by
  have first : Lexer.between.step c = some (.word [c], []) := start
  intro rest behind
  have finished := completed (.word (cs.reverse ++ [c])) (.word (c :: cs)) behind
    (fun d clear => by simp [Lexer.step, clear.1]) (by simp [Lexer.finish])
  rw [List.cons_append, runStep first, wordRun all, finished]
  rfl

theorem startNumber {c : Char} (first : startsNumber c = true) :
    Lexer.between.step c = some (.number [c], []) := by
  have space : isSpace c = false := by
    by_contra blank
    simp only [isSpace, Bool.not_eq_false, Bool.or_eq_true, beq_iff_eq] at blank
    rcases blank with ((rfl | rfl) | rfl) | rfl <;> revert first <;> decide
  have quote : c ≠ '"' := by
    rintro rfl
    revert first
    decide
  simp [Lexer.step, Lexer.start, space, quote, first]

theorem number {c : Char} {cs : List Char} (first : startsNumber c = true)
    (all : ∀ d ∈ cs, isNumberChar d = true) : Lexes (c :: cs) [.number (c :: cs)] := by
  intro rest behind
  have finished := completed (.number (cs.reverse ++ [c])) (.number (c :: cs)) behind
    (fun d clear => by simp [Lexer.step, clear.2]) (by simp [Lexer.finish])
  rw [List.cons_append, runStep (startNumber first), numberRun all, finished]
  rfl

theorem escapeRun (c : Char) (read rest : List Char) :
    (Lexer.text read).run (escapeChar c ++ rest) =
      (Lexer.text ((escapeChar c).reverse ++ read)).run rest := by
  have plain {d : Char} (quote : d ≠ '"') (slash : d ≠ '\\') (large : ¬d.toNat < 32) (read rest : List Char) :
      (Lexer.text read).run (d :: rest) = (Lexer.text (d :: read)).run rest := by
    exact runStep (by simp [Lexer.step, quote, slash, large]) rest
  have escaped {d : Char} (large : ¬d.toNat < 32) (read rest : List Char) :
      (Lexer.text read).run ('\\' :: d :: rest) = (Lexer.text (d :: '\\' :: read)).run rest := by
    rw [runStep (by rfl : (Lexer.text read).step '\\' = some (.escape ('\\' :: read), []))]
    exact runStep (by simp [Lexer.step, large]) rest
  have hex : ∀ n < 16, hexDigit n ≠ '"' ∧ hexDigit n ≠ '\\' ∧ ¬(hexDigit n).toNat < 32 := by decide
  unfold escapeChar
  split
  · exact escaped (by decide) read rest
  split
  · exact escaped (by decide) read rest
  split
  · exact escaped (by decide) read rest
  split
  · exact escaped (by decide) read rest
  split
  · exact escaped (by decide) read rest
  split
  · exact escaped (by decide) read rest
  split
  · exact escaped (by decide) read rest
  split
  · rename_i control
    obtain ⟨q1, s1, l1⟩ := hex (c.toNat / 16) (by omega)
    obtain ⟨q2, s2, l2⟩ := hex (c.toNat % 16) (by omega)
    simp only [List.cons_append, List.nil_append]
    rw [escaped (by decide), plain (by decide) (by decide) (by decide), plain (by decide) (by decide) (by decide),
      plain q1 s1 l1, plain q2 s2 l2]
    rfl
  · rename_i quote slash _ _ _ _ _ control
    exact plain quote slash control read rest

theorem quotedRun (cs read rest : List Char) :
    (Lexer.text read).run (cs.flatMap escapeChar ++ '"' :: rest) =
      (Lexer.between.run rest).map (.text (read.reverse ++ cs.flatMap escapeChar) :: ·) := by
  induction cs generalizing read with
  | nil =>
    rw [List.flatMap_nil, List.nil_append, runCons]
    simp [Lexer.step]
  | cons c more ih =>
    rw [List.flatMap_cons, List.append_assoc, escapeRun, ih]
    simp

theorem quoted (s : String) {b : List Char} {ts : List Token} (right : Lexes b ts) :
    Lexes (Json.quoted s ++ b) (.text (s.toList.flatMap escapeChar) :: ts) := by
  intro rest behind
  have shape : Json.quoted s ++ b ++ rest = '"' :: (s.toList.flatMap escapeChar ++ '"' :: (b ++ rest)) := by
    simp [Json.quoted]
  have start : Lexer.between.step '"' = some (.text [], []) := by decide
  rw [shape, runStep start, quotedRun, right rest behind]
  simp [Function.comp_def]

end Lexes

mutual
def Value.tokens : Value → List Token
  | .null => [.word "null".toList]
  | .bool true => [.word "true".toList]
  | .bool false => [.word "false".toList]
  | .number n => [.number n.text]
  | .string s => [.text (s.toList.flatMap escapeChar)]
  | .array [] => [.openBracket, .closeBracket]
  | .array (x :: xs) => .openBracket :: (Value.tokens x ++ Value.itemTokens xs ++ [.closeBracket])
  | .object [] => [.openBrace, .closeBrace]
  | .object ((k, v) :: ms) =>
      .openBrace :: .text (k.toList.flatMap escapeChar) :: .colon ::
        (Value.tokens v ++ Value.memberTokens ms ++ [.closeBrace])
def Value.itemTokens : List Value → List Token
  | [] => []
  | x :: xs => .comma :: (Value.tokens x ++ Value.itemTokens xs)
def Value.memberTokens : List (String × Value) → List Token
  | [] => []
  | (k, v) :: ms =>
      .comma :: .text (k.toList.flatMap escapeChar) :: .colon ::
        (Value.tokens v ++ Value.memberTokens ms)
end

def Style.Blank (style : Style) : Prop :=
  ∀ unit, style.indent = some unit → ∀ c ∈ unit, isSpace c = true

namespace Style
variable {style : Style}

theorem lineSpace (blank : style.Blank) (level : Nat) : ∀ c ∈ style.line level, isSpace c = true := by
  intro c inside
  unfold line at inside
  split at inside
  · exact absurd inside List.not_mem_nil
  · rename_i unit set
    rcases List.mem_cons.mp inside with rfl | indented
    · decide
    · obtain ⟨piece, listed, there⟩ := List.mem_flatten.mp indented
      rw [List.eq_of_mem_replicate listed] at there
      exact blank unit set c there

theorem lineDelimited (style : Style) (level : Nat) : Delimited (style.line level) := by
  unfold line
  split
  · exact .nil
  · exact .cons _ (by decide)

theorem colonLexes (style : Style) {b : List Char} {ts : List Token} (right : Lexes b ts) :
    Lexes (style.colon ++ b) (.colon :: ts) := by
  unfold colon
  split
  · exact .mark rfl right
  · have space : ∀ c ∈ [' '], isSpace c = true := List.all_eq_true.mp (by decide)
    exact .mark rfl (.blank space right)

end Style

section
variable {style : Style} (blank : style.Blank)
include blank

theorem closeLex {c : Char} {t : Token} (is : punctuation c = some t)
    (clear : isWordChar c = false ∧ isNumberChar c = false) (level : Nat) :
    Lexes (style.line level ++ [c]) [t] ∧ Delimited (style.line level ++ [c]) :=
  ⟨.blank (style.lineSpace blank level) (.mark is .nil),
    (style.lineDelimited level).append (.cons [] clear)⟩

theorem itemsLex {xs : List Value}
    (each : ∀ x ∈ xs, ∀ level, Lexes (x.write style level) x.tokens) (level : Nat) :
    Lexes (Value.writeItems style level xs) (Value.itemTokens xs) ∧
      Delimited (Value.writeItems style level xs) := by
  induction xs with
  | nil => exact ⟨.nil, .nil⟩
  | cons x rest ih =>
    obtain ⟨more, delimited⟩ := ih fun y inside => each y (List.mem_cons_of_mem _ inside)
    have here := (each x List.mem_cons_self level).append more delimited
    simp only [Value.writeItems, Value.itemTokens, List.cons_append, List.append_assoc]
    exact ⟨.mark rfl (.blank (style.lineSpace blank level) here), .cons _ (by decide)⟩

theorem membersLex {ms : List (String × Value)}
    (each : ∀ m ∈ ms, ∀ level, Lexes (m.2.write style level) m.2.tokens) (level : Nat) :
    Lexes (Value.writeMembers style level ms) (Value.memberTokens ms) ∧
      Delimited (Value.writeMembers style level ms) := by
  induction ms with
  | nil => exact ⟨.nil, .nil⟩
  | cons m rest ih =>
    obtain ⟨key, v⟩ := m
    obtain ⟨more, delimited⟩ := ih fun y inside => each y (List.mem_cons_of_mem _ inside)
    have here := (each (key, v) List.mem_cons_self level).append more delimited
    simp only [Value.writeMembers, Value.memberTokens, List.cons_append, List.append_assoc]
    refine ⟨.mark rfl (.blank (style.lineSpace blank level) ?_), .cons _ (by decide)⟩
    exact .quoted key (style.colonLexes here)

theorem valueLex (v : Value) (level : Nat) : Lexes (v.write style level) v.tokens := by
  induction v using Value.byParts generalizing level with
  | null => exact .word (by decide) (List.all_eq_true.mp (by decide))
  | bool b => cases b <;> exact .word (by decide) (List.all_eq_true.mp (by decide))
  | string s =>
    have text := Lexes.quoted s Lexes.nil
    rw [List.append_nil] at text
    exact text
  | number n =>
    obtain ⟨c, rest, shape, first⟩ := (numeralText n).first
    have all := (numeralText n).chars
    simp only [Value.write, Value.tokens]
    rw [shape] at all ⊢
    exact .number first fun d inside => all d (List.mem_cons_of_mem _ inside)
  | array items ih =>
    cases items with
    | nil => exact .mark rfl (.mark rfl .nil)
    | cons x rest =>
      obtain ⟨close, ends⟩ := closeLex blank (c := ']') rfl (by decide) level
      obtain ⟨more, delimited⟩ := itemsLex blank (fun y inside => ih y (List.mem_cons_of_mem _ inside))
        (level + 1)
      have inner := (ih x List.mem_cons_self (level + 1)).append (more.append close ends)
        (delimited.append ends)
      simp only [Value.write, Value.tokens, List.cons_append, List.append_assoc]
      exact .mark rfl (.blank (style.lineSpace blank (level + 1)) inner)
  | object members ih =>
    cases members with
    | nil => exact .mark rfl (.mark rfl .nil)
    | cons m rest =>
      obtain ⟨key, v⟩ := m
      obtain ⟨close, ends⟩ := closeLex blank (c := '}') rfl (by decide) level
      obtain ⟨more, delimited⟩ := membersLex blank
        (fun y inside => ih y (List.mem_cons_of_mem _ inside)) (level + 1)
      have inner := (ih (key, v) List.mem_cons_self (level + 1)).append (more.append close ends)
        (delimited.append ends)
      simp only [Value.write, Value.tokens, List.cons_append, List.append_assoc]
      exact .mark rfl (.blank (style.lineSpace blank (level + 1))
        (.quoted key (style.colonLexes inner)))

theorem tokensWritten (v : Value) (level : Nat) : tokens (v.write style level) = some v.tokens := by
  have run := valueLex blank v level [] .nil
  rw [List.append_nil] at run
  simpa [tokens, Lexer.run, Lexer.finish] using run

end
end ApiScreens.Json
