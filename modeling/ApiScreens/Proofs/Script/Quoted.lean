import ApiScreens.Json.Written
import ApiScreens.Proofs.Text.Pieces
import Mathlib.Data.List.Infix
import Mathlib.Data.List.TakeWhile

/-! The string literals of scripts: a text between two equal quotes, in which a backslash begins an escape. No line ends
between single or double quotes, and nothing is filled in between backquotes. A literal is read from the front of a
text and denotes a string or, if half of a surrogate pair is left alone, none. -/
namespace ApiScreens.Script
open Json (Unit16 joinUnits)
open Number (isDigit ofDigits)

inductive Quote where
  | single | double | back
  deriving DecidableEq, Repr

namespace Quote

def mark : Quote → Char
  | single => Char.ofNat 39
  | double => '"'
  | back => Char.ofNat 96

def ofMark? (c : Char) : Option Quote := [single, double, back].find? (·.mark = c)

theorem ofMark (q : Quote) : ofMark? q.mark = some q := by cases q <;> decide

theorem markOf {c : Char} {q : Quote} (found : ofMark? c = some q) : q.mark = c := by
  simpa using List.find?_some found

theorem markNot {c : Char} (other : ofMark? c = none) (q : Quote) : q.mark ≠ c := by
  rintro rfl
  rw [ofMark] at other
  contradiction

end Quote

def endsLine (c : Char) : Bool := c = '\n' || c = '\r' || c.toNat = 0x2028 || c.toNat = 0x2029

def afterReturn : List Char → List Char
  | '\n' :: rest => rest
  | rest => rest

def shortEscape : Char → Char
  | 'b' => Char.ofNat 8
  | 'f' => Char.ofNat 12
  | 'n' => '\n'
  | 'r' => '\r'
  | 't' => '\t'
  | 'v' => Char.ofNat 11
  | c => c

def hexUnit? (size : Nat) (text : List Char) : Option (List Unit16 × List Char) :=
  if (text.take size).length = size then (ofDigits 16 (text.take size)).map fun n => ([.unit n], text.drop size)
  else none

def pointUnit? (n : Nat) : Option Unit16 :=
  if n < 0x10000 then some (.unit n) else if n < 0x110000 then some (.char (Char.ofNat n)) else none

def codePoint? (text : List Char) : Option (List Unit16 × List Char) :=
  match text.dropWhile (· != '}') with
  | [] => none
  | _ :: behind => ((ofDigits 16 (text.takeWhile (· != '}'))).bind pointUnit?).map fun u => ([u], behind)

/-- What the text behind a backslash spells. The end of a line spells nothing; digits other than a lone zero are not
admitted. -/
def escape? : List Char → Option (List Unit16 × List Char)
  | [] => none
  | c :: rest =>
      if c = 'x' then hexUnit? 2 rest
      else if c = 'u' then if rest.head? = some '{' then codePoint? rest.tail else hexUnit? 4 rest
      else if c = '\r' then some ([], afterReturn rest)
      else if endsLine c then some ([], rest)
      else if isDigit c then
        if c = '0' ∧ rest.head?.all (!isDigit ·) then some ([.char (Char.ofNat 0)], rest) else none
      else some ([.char (shortEscape c)], rest)

def element? (q : Quote) : List Char → Option (List Unit16 × List Char)
  | [] => none
  | c :: rest =>
      if c = '\\' then escape? rest
      else if q = .back then
        if c = '$' ∧ rest.head? = some '{' then none
        else if c = '\r' then some ([.char '\n'], afterReturn rest)
        else some ([.char c], rest)
      else if c = '\n' ∨ c = '\r' then none
      else some ([.char c], rest)

variable {q : Quote} {c : Char} {text raw behind rest : List Char} {us : List Unit16}

structure Front (text raw behind : List Char) (us : List Unit16) : Prop where
  whole : text = raw ++ behind
  nonempty : raw ≠ []
  few : us.length ≤ 1
  quotes : ∀ p : Quote, p.mark ∈ raw → .char p.mark ∈ us

namespace Front

theorem cons (front : Front rest raw behind us) (plain : Quote.ofMark? c = none) :
    Front (c :: rest) (c :: raw) behind us where
  whole := by rw [front.whole, List.cons_append]
  nonempty := List.cons_ne_nil _ _
  few := front.few
  quotes p inside := front.quotes p ((List.mem_cons.mp inside).resolve_left (Quote.markNot plain p))

theorem one (few : us.length ≤ 1) (quotes : ∀ p : Quote, p.mark = c → .char c ∈ us) :
    Front (c :: rest) [c] rest us where
  whole := rfl
  nonempty := List.cons_ne_nil _ _
  few := few
  quotes p inside := by
    have same := List.mem_singleton.mp inside
    rw [same]
    exact quotes p same

theorem plain (few : us.length ≤ 1) (plain : Quote.ofMark? c = none) : Front (c :: rest) [c] rest us :=
  .one few fun p same => absurd same (Quote.markNot plain p)

theorem shorter (front : Front text raw behind us) : behind.length < text.length := by
  have some := List.length_pos_of_ne_nil front.nonempty
  rw [front.whole, List.length_append]
  omega

end Front

theorem digitsNoQuote {base n : Nat} {digits : List Char} (small : base ≤ 36) (read : ofDigits base digits = some n)
    (p : Quote) : p.mark ∉ digits := by
  intro inside
  simp only [ofDigits, Option.ite_none_right_eq_some, List.all_eq_true, decide_eq_true_eq] at read
  have digit := read.1.2 _ inside
  have beyond : Number.digitValue p.mark = 36 := by cases p <;> decide
  omega

theorem hexFront {size : Nat} (read : hexUnit? size text = some (us, behind)) (some : 0 < size) :
    ∃ raw, Front text raw behind us := by
  simp only [hexUnit?, Option.ite_none_right_eq_some, Option.map_eq_some_iff, Prod.mk.injEq] at read
  obtain ⟨full, n, digits, rfl, rfl⟩ := read
  have nonempty : text.take size ≠ [] := List.ne_nil_of_length_pos (by rwa [full])
  exact ⟨_, (List.take_append_drop ..).symm, nonempty, by simp,
    fun p inside => absurd inside (digitsNoQuote (by decide) digits p)⟩

theorem codePointExactly : codePoint? text = some (us, behind) ↔ ∃ digits n u, '}' ∉ digits ∧
    text = digits ++ '}' :: behind ∧ ofDigits 16 digits = some n ∧ pointUnit? n = some u ∧ us = [u] := by
  constructor
  · intro read
    unfold codePoint? at read
    split at read
    · contradiction
    · rename_i brace after later
      have closes := List.head?_dropWhile_not (· != '}') text
      rw [later] at closes
      have same : brace = '}' := by simpa using closes
      obtain ⟨u, made, result⟩ := Option.map_eq_some_iff.mp read
      obtain ⟨rfl, rfl⟩ := Prod.mk.inj result
      obtain ⟨n, digits, unit⟩ := Option.bind_eq_some_iff.mp made
      refine ⟨_, n, u, fun inside => ?_, ?_, digits, unit, rfl⟩
      · exact absurd (List.mem_takeWhile_imp inside) (by simp)
      · rw [← same, ← later, same, List.takeWhile_append_dropWhile]
  · rintro ⟨digits, n, u, clear, rfl, spelled, unit, rfl⟩
    have passed : ∀ c ∈ digits, (c != '}') = true := by
      intro c inside
      simp only [bne_iff_ne]
      rintro rfl
      exact clear inside
    obtain ⟨front, rest⟩ := Text.markCut passed (by decide : ('}' != '}') = false) behind
    simp [codePoint?, front, rest, spelled, unit]

theorem codePointFront (read : codePoint? text = some (us, behind)) : ∃ raw, Front text raw behind us := by
  obtain ⟨digits, n, u, _, rfl, spelled, _, rfl⟩ := codePointExactly.mp read
  refine ⟨digits ++ ['}'], by simp, by simp, by simp, fun p inside => ?_⟩
  rcases List.mem_append.mp inside with digit | brace
  · exact absurd digit (digitsNoQuote (by decide) spelled p)
  · exact absurd (List.mem_singleton.mp brace) (Quote.markNot (by decide) p)

theorem returnFront (rest : List Char) (us : List Unit16) (few : us.length ≤ 1) : ∃ raw, Front ('\r' :: rest) raw (afterReturn rest) us ∧
    (raw.length = 1 → raw = ['\r']) := by
  unfold afterReturn
  split
  · exact ⟨['\r', '\n'], .cons (.plain few (by decide)) (by decide), fun one => absurd one (by decide)⟩
  · exact ⟨['\r'], .plain few (by decide), fun _ => rfl⟩

theorem escapeFront (read : escape? text = some (us, behind)) : ∃ raw, Front text raw behind us := by
  cases text with
  | nil => contradiction
  | cons c rest =>
    simp only [escape?] at read
    split at read
    · rename_i same
      obtain ⟨raw, front⟩ := hexFront read (by decide)
      exact ⟨_, front.cons (same ▸ by decide)⟩
    split at read
    · rename_i same
      have letter : Quote.ofMark? c = none := same ▸ by decide
      split at read
      · rename_i brace
        obtain ⟨tail, rfl⟩ := List.head?_eq_some_iff.mp brace
        obtain ⟨raw, front⟩ := codePointFront read
        exact ⟨_, (front.cons (by decide)).cons letter⟩
      · obtain ⟨raw, front⟩ := hexFront read (by decide)
        exact ⟨_, front.cons letter⟩
    split at read
    · rename_i same
      cases read
      obtain ⟨raw, front, _⟩ := returnFront rest [] (by simp)
      exact ⟨raw, same ▸ front⟩
    split at read
    · rename_i ends
      cases read
      refine ⟨_, .one (by simp) ?_⟩
      rintro p rfl
      cases p <;> exact absurd ends (by decide)
    split at read
    · split at read
      · rename_i zero
        cases read
        exact ⟨_, .plain (by simp) (zero.1 ▸ by decide)⟩
      · contradiction
    · cases read
      refine ⟨_, .one (by simp) ?_⟩
      rintro p rfl
      cases p <;> decide

structure Quote.Admits (q : Quote) (c : Char) (behind : List Char) : Prop where
  unescaped : c ≠ '\\'
  oneLine : q ≠ .back → c ≠ '\n' ∧ c ≠ '\r'
  unfilled : q = .back → c = '$' → behind.head? ≠ some '{'

def fed (c : Char) : Char := if c = '\r' then '\n' else c

theorem elementFront (read : element? q text = some (us, behind)) : ∃ raw, Front text raw behind us ∧
    (raw.length = 1 → ∃ c, raw = [c] ∧ q.Admits c behind ∧ us = [.char (fed c)]) := by
  cases text with
  | nil => contradiction
  | cons c rest =>
    simp only [element?] at read
    split at read
    · rename_i slash
      obtain ⟨raw, front⟩ := escapeFront read
      have longer : (c :: raw).length ≠ 1 := by simp [front.nonempty]
      exact ⟨c :: raw, front.cons (slash ▸ by decide), fun one => absurd one longer⟩
    rename_i unescaped
    split at read
    · rename_i back
      split at read
      · contradiction
      rename_i unfilled
      split at read
      · rename_i same
        cases read
        obtain ⟨raw, front, alone⟩ := returnFront rest [.char '\n'] (by simp)
        refine ⟨raw, same ▸ front, fun one => ⟨c, same ▸ alone one, ⟨unescaped, ?_, ?_⟩, ?_⟩⟩
        · exact fun no => absurd back no
        · exact fun _ dollar => absurd (same.symm.trans dollar) (by decide)
        · rw [fed, if_pos same]
      · rename_i other
        cases read
        refine ⟨[c], .one (by simp) (fun p same => by simp), fun _ => ⟨c, rfl, ⟨unescaped, ?_, ?_⟩, ?_⟩⟩
        · exact fun no => absurd back no
        · exact fun _ dollar brace => unfilled ⟨dollar, brace⟩
        · rw [fed, if_neg other]
    · rename_i other
      split at read
      · contradiction
      · rename_i oneLine
        cases read
        refine ⟨[c], .one (by simp) (fun p same => by simp), fun _ => ⟨c, rfl, ⟨unescaped, ?_, ?_⟩, ?_⟩⟩
        · exact fun _ => not_or.mp oneLine
        · exact fun back => absurd back other
        · rw [fed, if_neg (not_or.mp oneLine).2]

theorem elementShorter (read : element? q text = some (us, behind)) : behind.length < text.length :=
  let ⟨_, front, _⟩ := elementFront read
  front.shorter

def inside? (q : Quote) (text : List Char) : Option (List Unit16 × List Char) :=
  if text.head? = some q.mark then some ([], text.tail)
  else
    match read : element? q text with
    | none => none
    | some (us, behind) =>
        have := elementShorter read
        (inside? q behind).map fun (more, rest) => (us ++ more, rest)
termination_by text.length

def literal? : List Char → Option (String × List Char)
  | [] => none
  | c :: rest => do
      let q ← Quote.ofMark? c
      let (us, behind) ← inside? q rest
      let value ← joinUnits us
      some (String.ofList value, behind)

theorem insideEnd (q : Quote) (rest : List Char) : inside? q (q.mark :: rest) = some ([], rest) := by
  rw [inside?]
  simp

theorem insideStep (others : text.head? ≠ some q.mark) (read : element? q text = some (us, behind)) :
    inside? q text = (inside? q behind).map fun p => (us ++ p.1, p.2) := by
  rw [inside?, if_neg others]
  split
  · rename_i none
    rw [none] at read
    contradiction
  · rename_i there
    obtain ⟨rfl, rfl⟩ := Prod.mk.inj (Option.some.inj (there.symm.trans read))
    rfl

theorem insideCases (read : inside? q text = some (us, rest)) : (us = [] ∧ text = q.mark :: rest) ∨
    ∃ first behind more, element? q text = some (first, behind) ∧ inside? q behind = some (more, rest) ∧
      text.head? ≠ some q.mark ∧ us = first ++ more := by
  by_cases ends : text.head? = some q.mark
  · obtain ⟨tail, rfl⟩ := List.head?_eq_some_iff.mp ends
    rw [insideEnd] at read
    cases read
    exact .inl ⟨rfl, rfl⟩
  · refine .inr ?_
    cases here : element? q text with
    | none =>
      rw [inside?, if_neg ends] at read
      split at read
      · contradiction
      · rename_i there
        rw [here] at there
        contradiction
    | some one =>
      obtain ⟨first, behind⟩ := one
      rw [insideStep ends here] at read
      obtain ⟨⟨more, last⟩, later, same⟩ := Option.map_eq_some_iff.mp read
      cases same
      exact ⟨first, behind, more, rfl, later, ends, rfl⟩

theorem literalCases {s : String} (read : literal? text = some (s, behind)) : ∃ (q : Quote) (us : List Unit16)
    (cs : List Char) (tail : List Char), text = q.mark :: tail ∧ inside? q tail = some (us, behind) ∧
      joinUnits us = some cs ∧ s = String.ofList cs := by
  cases text with
  | nil => contradiction
  | cons c rest =>
    obtain ⟨q, marked, read⟩ := Option.bind_eq_some_iff.mp read
    obtain ⟨⟨us, after⟩, inside, read⟩ := Option.bind_eq_some_iff.mp read
    obtain ⟨cs, joined, same⟩ := Option.bind_eq_some_iff.mp read
    cases same
    exact ⟨q, us, cs, rest, by rw [Quote.markOf marked], inside, joined, rfl⟩

theorem insideNonempty (read : inside? q text = some (us, rest)) : text ≠ [] := by
  rintro rfl
  rcases insideCases read with ⟨_, empty⟩ | ⟨_, _, _, element, _⟩
  · contradiction
  · contradiction

section
variable (more : List Char)

theorem hexMore {size : Nat} (read : hexUnit? size text = some (us, behind)) :
    hexUnit? size (text ++ more) = some (us, behind ++ more) := by
  simp only [hexUnit?, Option.ite_none_right_eq_some, Option.map_eq_some_iff, Prod.mk.injEq] at read
  obtain ⟨full, n, digits, rfl, rfl⟩ := read
  have long : size ≤ text.length := by
    rw [List.length_take] at full
    omega
  rw [hexUnit?, List.take_append_of_le_length long, if_pos full, digits, List.drop_append_of_le_length long]
  rfl

theorem codePointMore (read : codePoint? text = some (us, behind)) :
    codePoint? (text ++ more) = some (us, behind ++ more) := by
  obtain ⟨digits, n, u, clear, rfl, rest⟩ := codePointExactly.mp read
  exact codePointExactly.mpr ⟨digits, n, u, clear, by simp, rest⟩

theorem afterReturnMore (some : afterReturn text ≠ []) : afterReturn (text ++ more) = afterReturn text ++ more := by
  cases text with
  | nil => exact absurd rfl some
  | cons c rest =>
    unfold afterReturn
    split <;> simp_all

theorem headMore (some : text ≠ []) : (text ++ more).head? = text.head? := by
  cases text with
  | nil => exact absurd rfl some
  | cons c rest => rfl

theorem escapeMore (read : escape? text = some (us, behind)) (some : behind ≠ []) :
    escape? (text ++ more) = Option.some (us, behind ++ more) := by
  cases text with
  | nil => contradiction
  | cons c rest =>
    simp only [escape?, List.cons_append] at read ⊢
    split at read
    · rename_i same
      rw [if_pos same, hexMore more read]
    rename_i noHex
    rw [if_neg noHex]
    split at read
    · rename_i same
      have nonempty : rest ≠ [] := by
        rintro rfl
        contradiction
      rw [if_pos same, headMore more nonempty]
      split at read
      · rename_i brace
        rw [if_pos brace, List.tail_append_of_ne_nil nonempty, codePointMore more read]
      · rename_i brace
        rw [if_neg brace, hexMore more read]
    rename_i noUnit
    rw [if_neg noUnit]
    split at read
    · rename_i same
      cases read
      rw [if_pos same, afterReturnMore more some]
    rename_i noReturn
    rw [if_neg noReturn]
    split at read
    · rename_i ends
      cases read
      rw [if_pos ends]
    rename_i goesOn
    rw [if_neg goesOn]
    split at read
    · rename_i digit
      rw [if_pos digit]
      split at read
      · rename_i zero
        cases read
        rw [headMore more some, if_pos zero]
      · contradiction
    · rename_i other
      cases read
      rw [if_neg other]

theorem elementMore (read : element? q text = some (us, behind)) (some : behind ≠ []) :
    element? q (text ++ more) = Option.some (us, behind ++ more) := by
  cases text with
  | nil => contradiction
  | cons c rest =>
    simp only [element?, List.cons_append] at read ⊢
    split at read
    · rename_i slash
      rw [if_pos slash, escapeMore more read some]
    rename_i unescaped
    rw [if_neg unescaped]
    split at read
    · rename_i back
      rw [if_pos back]
      split at read
      · contradiction
      rename_i unfilled
      split at read
      · rename_i same
        cases read
        have other : c ≠ '$' := same ▸ by decide
        rw [if_neg fun filled => other filled.1, if_pos same, afterReturnMore more some]
      · rename_i same
        cases read
        rw [headMore more some, if_neg unfilled, if_neg same]
    · rename_i back
      rw [if_neg back]
      split at read
      · contradiction
      · rename_i oneLine
        cases read
        rw [if_neg oneLine]

theorem insideMore (read : inside? q text = some (us, rest)) :
    inside? q (text ++ more) = some (us, rest ++ more) := by
  induction size : text.length using Nat.strong_induction_on generalizing text us with
  | _ n ih =>
    rcases insideCases read with ⟨rfl, rfl⟩ | ⟨first, behind, others, element, later, open_, rfl⟩
    · exact insideEnd q (rest ++ more)
    · have nonempty : text ≠ [] := by
        rintro rfl
        contradiction
      have longer := elementMore more element (insideNonempty later)
      rw [insideStep (headMore more nonempty ▸ open_) longer, ih _ (size ▸ elementShorter element) later rfl]
      rfl

theorem literalMore {s : String} (read : literal? text = some (s, behind)) :
    literal? (text ++ more) = some (s, behind ++ more) := by
  obtain ⟨q, us, cs, tail, rfl, inside, joined, rfl⟩ := literalCases read
  simp [literal?, Quote.ofMark, insideMore more inside, joined]

end

structure Plain (q : Quote) (raw : List Char) : Prop where
  unescaped : '\\' ∉ raw
  unfed : '\r' ∉ raw
  oneLine : q ≠ .back → '\n' ∉ raw
  unfilled : q = .back → ¬['$', '{'] <:+: raw

theorem plainCons : Plain q (c :: raw) ↔ (c ≠ '\\' ∧ c ≠ '\r' ∧ (q ≠ .back → c ≠ '\n') ∧
    (q = .back → c = '$' → raw.head? ≠ some '{')) ∧ Plain q raw := by
  have begins : ['$', '{'] <+: c :: raw ↔ c = '$' ∧ raw.head? = some '{' := by
    cases raw <;> simp [List.cons_prefix_cons, eq_comm]
  constructor
  · rintro ⟨unescaped, unfed, oneLine, unfilled⟩
    simp only [List.mem_cons, not_or, List.infix_cons_iff, begins, not_and] at unescaped unfed oneLine unfilled
    exact ⟨⟨Ne.symm unescaped.1, Ne.symm unfed.1, fun one => Ne.symm (oneLine one).1, fun back => (unfilled back).1⟩,
      unescaped.2, unfed.2, fun one => (oneLine one).2, fun back => (unfilled back).2⟩
  · rintro ⟨⟨slash, fed, line, filled⟩, unescaped, unfed, oneLine, unfilled⟩
    refine ⟨?_, ?_, fun one => ?_, fun back => ?_⟩
    · exact List.not_mem_cons_of_ne_of_not_mem (Ne.symm slash) unescaped
    · exact List.not_mem_cons_of_ne_of_not_mem (Ne.symm fed) unfed
    · exact List.not_mem_cons_of_ne_of_not_mem (Ne.symm (line one)) (oneLine one)
    · simp only [List.infix_cons_iff, begins, not_or, not_and]
      exact ⟨filled back, unfilled back⟩

theorem insidePlain (plain : Plain q raw) (clear : q.mark ∉ raw) (rest : List Char) :
    inside? q (raw ++ q.mark :: rest) = some (raw.map .char, rest) := by
  induction raw with
  | nil => exact insideEnd q rest
  | cons c raw ih =>
    obtain ⟨⟨slash, fed, line, filled⟩, more⟩ := plainCons.mp plain
    obtain ⟨differs, clear⟩ := not_or.mp (mt List.mem_cons.mpr clear)
    have apart : q = .back → ¬(c = '$' ∧ (raw ++ q.mark :: rest).head? = some '{') := by
      rintro back ⟨dollar, brace⟩
      cases raw with
      | nil => exact Quote.markNot (by decide) q (Option.some.inj brace)
      | cons d raw => exact filled back dollar brace
    have here : element? q (c :: (raw ++ q.mark :: rest)) = some ([.char c], raw ++ q.mark :: rest) := by
      by_cases back : q = .back
      · simp only [element?, if_neg slash, if_pos back, if_neg (apart back), if_neg fed]
      · simp only [element?, if_neg slash, if_neg back, if_neg (not_or.mpr ⟨line back, fed⟩)]
    have others : (c :: (raw ++ q.mark :: rest)).head? ≠ some q.mark := by simpa using Ne.symm differs
    rw [List.cons_append, insideStep others here, ih more clear]
    rfl

structure Spelled (q : Quote) (raw : List Char) (us : List Unit16) : Prop where
  quotes : ∀ p : Quote, p.mark ∈ raw → .char p.mark ∈ us
  few : us.length ≤ raw.length
  each : us.length = raw.length → us = (raw.map fed).map .char ∧ ('\r' ∉ raw → Plain q raw)

theorem insideSpelled (read : inside? q text = some (us, rest)) :
    ∃ raw, text = raw ++ q.mark :: rest ∧ Spelled q raw us := by
  induction size : text.length using Nat.strong_induction_on generalizing text us with
  | _ n ih =>
    rcases insideCases read with ⟨rfl, rfl⟩ | ⟨first, behind, more, element, later, _, rfl⟩
    · refine ⟨[], rfl, fun _ inside => absurd inside List.not_mem_nil, Nat.le_refl _, fun _ => ⟨rfl, fun _ => ?_⟩⟩
      exact ⟨List.not_mem_nil, List.not_mem_nil, fun _ => List.not_mem_nil, fun _ => by simp⟩
    · obtain ⟨front, shape, alone⟩ := elementFront element
      obtain ⟨raw, rfl, spelled⟩ := ih _ (size ▸ elementShorter element) later rfl
      have some := List.length_pos_of_ne_nil shape.nonempty
      have few := shape.few
      have fewer := spelled.few
      refine ⟨front ++ raw, by rw [shape.whole, List.append_assoc], fun p inside => ?_, ?_, fun full => ?_⟩
      · rcases List.mem_append.mp inside with here | there
        · exact List.mem_append_left _ (shape.quotes p here)
        · exact List.mem_append_right _ (spelled.quotes p there)
      · simp only [List.length_append]
        omega
      · simp only [List.length_append] at full
        obtain ⟨c, rfl, admits, rfl⟩ := alone (by omega)
        obtain ⟨same, plain⟩ := spelled.each (by simpa using full)
        refine ⟨by rw [same]; rfl, fun unfed => ?_⟩
        obtain ⟨differs, unfed⟩ := not_or.mp (mt List.mem_cons.mpr unfed)
        refine plainCons.mpr ⟨⟨admits.unescaped, Ne.symm differs, fun one => (admits.oneLine one).1, ?_⟩, plain unfed⟩
        intro back dollar brace
        obtain ⟨tail, rfl⟩ := List.head?_eq_some_iff.mp brace
        exact admits.unfilled back dollar rfl

theorem joinChars (cs : List Char) : joinUnits (cs.map .char) = some cs := by
  induction cs with
  | nil => simp [joinUnits]
  | cons c rest ih => simp [joinUnits, ih]

theorem joinedBounds {cs : List Char} (joined : joinUnits us = some cs) :
    cs.length ≤ us.length ∧ ∀ c, .char c ∈ us → c ∈ cs := by
  fun_induction joinUnits us generalizing cs with
  | case1 => simp_all
  | case2 c rest ih =>
    obtain ⟨more, later, rfl⟩ := Option.map_eq_some_iff.mp joined
    obtain ⟨short, inside⟩ := ih later
    refine ⟨by simpa using short, fun d listed => ?_⟩
    rcases List.mem_cons.mp listed with same | deep
    · cases same
      exact List.mem_cons_self
    · exact List.mem_cons_of_mem _ (inside d deep)
  | case3 n high m more low ih =>
    obtain ⟨others, later, rfl⟩ := Option.map_eq_some_iff.mp joined
    obtain ⟨short, inside⟩ := ih later
    refine ⟨by simp; omega, fun d listed => ?_⟩
    simp only [List.mem_cons, reduceCtorEq, false_or] at listed
    exact List.mem_cons_of_mem _ (inside d listed)
  | case4 => contradiction
  | case5 => contradiction
  | case6 => contradiction
  | case7 n rest high low ih =>
    obtain ⟨more, later, rfl⟩ := Option.map_eq_some_iff.mp joined
    obtain ⟨short, inside⟩ := ih later
    refine ⟨by simpa using short, fun d listed => ?_⟩
    simp only [List.mem_cons, reduceCtorEq, false_or] at listed
    exact List.mem_cons_of_mem _ (inside d listed)

theorem plainOfSame (read : inside? q text = some (us, rest)) (same : joinUnits us = some raw)
    (whole : text = raw ++ q.mark :: rest) : Plain q raw := by
  obtain ⟨inner, shape, spelled⟩ := insideSpelled read
  obtain rfl : inner = raw := List.append_cancel_right (shape.symm.trans whole)
  have short := (joinedBounds same).1
  have few := spelled.few
  obtain ⟨units, plain⟩ := spelled.each (by omega)
  refine plain fun inside => ?_
  rw [units, joinChars] at same
  have kept : inner.map fed = inner := Option.some.inj same
  rw [← kept] at inside
  obtain ⟨c, _, made⟩ := List.mem_map.mp inside
  unfold fed at made
  split at made
  · exact absurd made (by decide)
  · rename_i differs
    exact differs made

theorem firstMark {a b x y : List Char} {p r : Quote} (left : r.mark ∉ a) (right : p.mark ∉ b)
    (same : a ++ p.mark :: x = b ++ r.mark :: y) : a = b ∧ p.mark = r.mark ∧ x = y := by
  rcases List.append_eq_append_iff.mp same with ⟨more, rfl, tail⟩ | ⟨more, rfl, tail⟩
  · cases more with
    | nil => exact ⟨(List.append_nil a).symm, List.cons.inj tail⟩
    | cons m more => exact absurd ((List.cons.inj tail).1 ▸ by simp) right
  · cases more with
    | nil => exact ⟨List.append_nil b, (List.cons.inj tail).1.symm, (List.cons.inj tail).2.symm⟩
    | cons m more => exact absurd ((List.cons.inj tail).1 ▸ by simp) left

theorem literalExactly {p : Quote} (clear : ∀ r : Quote, r.mark ∉ raw) :
    literal? (q.mark :: (raw ++ p.mark :: rest)) = some (String.ofList raw, behind) ↔
      p.mark = q.mark ∧ behind = rest ∧ Plain q raw := by
  constructor
  · intro read
    obtain ⟨r, us, cs, tail, opens, inside, joined, value⟩ := literalCases read
    obtain rfl := String.ofList_injective value
    obtain ⟨same, rfl⟩ := List.cons.inj opens
    obtain rfl : q = r := Option.some.inj (by rw [← q.ofMark, ← r.ofMark, same])
    obtain ⟨inner, shape, spelled⟩ := insideSpelled inside
    have unquoted : p.mark ∉ inner := fun there => clear p ((joinedBounds joined).2 _ (spelled.quotes p there))
    obtain ⟨rfl, closes, rfl⟩ := firstMark (clear q) unquoted shape
    exact ⟨closes, rfl, plainOfSame inside joined shape⟩
  · rintro ⟨closes, rfl, plain⟩
    simp [literal?, Quote.ofMark, closes, insidePlain plain (clear q), joinChars]

end ApiScreens.Script
