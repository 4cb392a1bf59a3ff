import ApiScreens.Proofs.Json.Leaf
import ApiScreens.Proofs.Script.Quoted
import ApiScreens.Proofs.Text.Pieces
import ApiScreens.Script.Literal

/-! The tokens of scripts: words, literals and single marks. A text is cut where no word goes on from one part into the
other, so that the tokens of lines are those of each line. No slash is read, so that nothing read is a comment. -/
namespace ApiScreens.Script
open Json (isSpace Unit16 joinUnits escapeChar unitOf)
open Number (isDigit ofDigits)

inductive Token where
  | word (letters : List Char)
  | text (s : String)
  | mark (c : Char)
  deriving DecidableEq, Repr

def isWordChar (c : Char) : Bool :=
  isDigit c || ('a' ≤ c && c ≤ 'z') || ('A' ≤ c && c ≤ 'Z') || c = '_' || c = '$'

def marks : List Char :=
  ['{', '}', '(', ')', '[', ']', ',', ':', ';', '.', '?', '=', '<', '>', '|', '&', '!', '+', '-', '*']

variable {text a b behind : List Char} {ts us : List Token} {c : Char}

theorem literalShorter {s : String} (read : literal? text = some (s, behind)) : behind.length < text.length := by
  obtain ⟨q, us, cs, tail, rfl, inside, _⟩ := literalCases read
  obtain ⟨raw, rfl, _⟩ := insideSpelled inside
  simp
  omega

def tokens? (text : List Char) : Option (List Token) :=
  match text with
  | [] => some []
  | c :: rest =>
      if isSpace c then tokens? rest
      else if isWordChar c then
        have : (rest.dropWhile isWordChar).length ≤ rest.length := (List.dropWhile_sublist _).length_le
        (tokens? (rest.dropWhile isWordChar)).map (.word (c :: rest.takeWhile isWordChar) :: ·)
      else if c ∈ marks then (tokens? rest).map (.mark c :: ·)
      else
        match read : literal? (c :: rest) with
        | none => none
        | some (s, behind) =>
            have := literalShorter read
            (tokens? behind).map (.text s :: ·)
termination_by text.length
decreasing_by
  · exact Nat.lt_succ_self _
  · exact Nat.lt_succ_of_le this
  · exact Nat.lt_succ_self _
  · exact this

theorem tokensNil : tokens? [] = some [] := by rw [tokens?]

theorem tokensBlank (space : isSpace c = true) (rest : List Char) : tokens? (c :: rest) = tokens? rest := by
  rw [tokens?, if_pos space]

theorem tokensWord (dark : isSpace c = false) (word : isWordChar c = true) (rest : List Char) :
    tokens? (c :: rest) = (tokens? (rest.dropWhile isWordChar)).map (.word (c :: rest.takeWhile isWordChar) :: ·) := by
  rw [tokens?, if_neg (by simp [dark]), if_pos word]

theorem marksApart (mark : c ∈ marks) : isSpace c = false ∧ isWordChar c = false := by
  have each : (marks.all fun d => !isSpace d && !isWordChar d) = true := by decide
  simpa using List.all_eq_true.mp each c mark

theorem tokensMark (mark : c ∈ marks) (rest : List Char) : tokens? (c :: rest) = (tokens? rest).map (.mark c :: ·) := by
  obtain ⟨dark, other⟩ := marksApart mark
  rw [tokens?, if_neg (by simp [dark]), if_neg (by simp [other]), if_pos mark]

theorem tokensAlone (mark : c ∈ marks) : tokens? [c] = some [.mark c] := by
  rw [tokensMark mark, tokensNil]
  rfl

theorem tokensText {s : String} (read : literal? text = some (s, behind)) :
    tokens? text = (tokens? behind).map (.text s :: ·) := by
  obtain ⟨q, us, cs, tail, rfl, _⟩ := literalCases read
  have apart : isSpace q.mark = false ∧ isWordChar q.mark = false ∧ q.mark ∉ marks := by cases q <;> decide
  rw [tokens?, if_neg (by simp [apart.1]), if_neg (by simp [apart.2.1]), if_neg apart.2.2]
  split
  · rename_i none
    rw [none] at read
    contradiction
  · rename_i there
    cases there.symm.trans read
    rfl

def Parted (text : List Char) : Prop := ∀ c, text.head? = some c → isWordChar c = false

theorem wordAppend (parted : Parted b) (a : List Char) : (a ++ b).takeWhile isWordChar = a.takeWhile isWordChar ∧
    (a ++ b).dropWhile isWordChar = a.dropWhile isWordChar ++ b := by
  induction a with
  | nil =>
    cases b with
    | nil => simp
    | cons c rest => simp [parted c rfl]
  | cons c a ih =>
    simp only [List.cons_append, List.takeWhile_cons, List.dropWhile_cons]
    split
    · exact ⟨by rw [ih.1], ih.2⟩
    · exact ⟨rfl, rfl⟩

theorem tokensAppend (read : tokens? a = some ts) (parted : Parted b) :
    tokens? (a ++ b) = (tokens? b).map (ts ++ ·) := by
  fun_induction tokens? a generalizing ts with
  | case1 =>
    cases read
    simp
  | case2 c rest space ih =>
    rw [List.cons_append, tokensBlank space, ih read]
  | case3 c rest dark word _ ih =>
    obtain ⟨more, later, rfl⟩ := Option.map_eq_some_iff.mp read
    obtain ⟨front, behind⟩ := wordAppend parted rest
    rw [List.cons_append, tokensWord (by simpa using dark) word, front, behind, ih later, Option.map_map]
    rfl
  | case4 c rest dark other mark ih =>
    obtain ⟨more, later, rfl⟩ := Option.map_eq_some_iff.mp read
    rw [List.cons_append, tokensMark mark, ih later, Option.map_map]
    rfl
  | case5 => contradiction
  | case6 c rest _ _ _ s behind literal _ ih =>
    obtain ⟨more, later, rfl⟩ := Option.map_eq_some_iff.mp read
    rw [tokensText (literalMore b literal), ih later, Option.map_map]
    rfl

theorem partedCons {c : Char} (other : isWordChar c = false) (rest : List Char) : Parted (c :: rest) := by
  intro d first
  rw [← Option.some.inj first]
  exact other

theorem elementEscaped (c : Char) (rest : List Char) :
    element? .double (escapeChar c ++ rest) = some ([unitOf c], rest) := by
  unfold escapeChar
  split
  · subst_vars; rfl
  split
  · subst_vars; rfl
  split
  · subst_vars; rfl
  split
  · subst_vars; rfl
  split
  · subst_vars; rfl
  split
  · rename_i code
    have same : c = Char.ofNat 8 := Json.charOfNat code
    subst same
    rfl
  split
  · rename_i code
    have same : c = Char.ofNat 12 := Json.charOfNat code
    subst same
    rfl
  split
  · rename_i newline return_ tab back feed control
    have other : ¬32 ≤ c.toNat := by omega
    have unit : unitOf c = .unit c.toNat := by simp [unitOf, newline, return_, tab, back, feed, other]
    have spelled := Json.hexSpelled _ control
    rw [Json.hexUnit] at spelled
    simp [element?, escape?, hexUnit?, spelled, unit]
  · rename_i slash newline return_ _ _ _ control
    have large : 32 ≤ c.toNat := by omega
    have unit : unitOf c = .char c := by simp [unitOf, large]
    simp [element?, slash, newline, return_, unit]

theorem escapeHead (c : Char) (rest : List Char) : (escapeChar c ++ rest).head? ≠ some '"' := by
  by_cases quote : c = '"'
  · simp [escapeChar, quote]
  · have other : some c ≠ some '"' := fun same => quote (Option.some.inj same)
    simp only [escapeChar, if_neg quote]
    repeat' split
    all_goals first | exact other | (rw [List.cons_append, List.head?_cons]; decide)

theorem insideEscaped (cs rest : List Char) :
    inside? .double (cs.flatMap escapeChar ++ '"' :: rest) = some (cs.map unitOf, rest) := by
  induction cs with
  | nil => exact insideEnd .double rest
  | cons c more ih =>
    rw [List.flatMap_cons, List.append_assoc, insideStep (q := .double) (escapeHead c _) (elementEscaped c _), ih]
    rfl

theorem literalQuoted (s : String) (rest : List Char) : literal? (Json.quoted s ++ rest) = some (s, rest) := by
  have shape : Json.quoted s ++ rest = Quote.double.mark :: (s.toList.flatMap escapeChar ++ '"' :: rest) := by
    simp [Json.quoted, Quote.mark]
  rw [shape]
  simp [literal?, Quote.ofMark, insideEscaped, Json.joinUnitOf]

theorem tokensQuoted (s : String) (rest : List Char) :
    tokens? (Json.quoted s ++ rest) = (tokens? rest).map (.text s :: ·) :=
  tokensText (literalQuoted s rest)

def decimal? (digits : List Char) : Option Nat :=
  if digits.head? = some '0' ∧ 1 < digits.length then none else ofDigits 10 digits

theorem naturalDigits (n : Nat) : Json.integerText n = Number.digitText (Number.decimalDigits n) := by
  simp [Json.integerText]

theorem decimalRead (n : Nat) : decimal? (Json.integerText n) = some n := by
  obtain ⟨d, rest, shape, lead⟩ := Number.decimalLead n
  have small := Number.decimalSmall n
  have alone : ¬((Number.digitText (Number.decimalDigits n)).head? = some '0' ∧
      1 < (Number.digitText (Number.decimalDigits n)).length) := by
    rintro ⟨zero, long⟩
    rw [shape] at zero long small
    have first := (Number.digitChar d (small d List.mem_cons_self)).2.2 (by simpa [Number.digitText] using zero)
    simp [Number.digitText, (lead first).2] at long
  rw [naturalDigits, decimal?, if_neg alone, Number.digitsSpell (Number.decimalInside n) (Number.decimalSmall n),
    Number.decimalValue]

theorem tokensDecimal (n : Nat) : tokens? (Json.integerText n) = some [.word (Json.integerText n)] := by
  have digits : ∀ c ∈ Json.integerText n, isDigit c = true := by
    rw [naturalDigits]
    exact Number.digitTextDigits (Number.decimalSmall n)
  have words : ∀ c ∈ Json.integerText n, isWordChar c = true := fun c inside => by simp [isWordChar, digits c inside]
  obtain ⟨d, rest, shape, _⟩ := Number.decimalLead n
  have first : Json.integerText n = Char.ofNat (48 + d) :: Number.digitText rest := by
    rw [naturalDigits, shape]
    rfl
  rw [first] at digits words ⊢
  have dark : isSpace (Char.ofNat (48 + d)) = false := by
    have digit := digits _ List.mem_cons_self
    by_contra space
    simp only [isSpace, Bool.not_eq_false, Bool.or_eq_true, beq_iff_eq] at space
    rcases space with ((same | same) | same) | same <;> (rw [same] at digit; revert digit; decide)
  have others : ∀ c ∈ Number.digitText rest, isWordChar c = true := fun c inside =>
    words c (List.mem_cons_of_mem _ inside)
  rw [tokensWord dark (words _ List.mem_cons_self), List.takeWhile_eq_self_iff.mpr others,
    List.dropWhile_eq_nil_iff.mpr others, tokensNil]
  rfl

inductive Lexed : Lines → List Token → Prop where
  | nil : Lexed [] []
  | cons {line : String} {lines : Lines} {ts us : List Token} (here : tokens? line.toList = some ts)
      (rest : Lexed lines us) : Lexed (line :: lines) (ts ++ us)

namespace Lexed
variable {lines more : Lines}

theorem one {line : String} (here : tokens? line.toList = some ts) : Lexed [line] ts := by
  simpa using Lexed.cons here .nil

theorem append (left : Lexed lines ts) (right : Lexed more us) : Lexed (lines ++ more) (ts ++ us) := by
  induction left with
  | nil => exact right
  | cons here _ ih =>
    rw [List.cons_append, List.append_assoc]
    exact .cons here ih

theorem nest (lexed : Lexed lines ts) : Lexed (Script.nest lines) ts := by
  induction lexed with
  | nil => exact .nil
  | @cons line _ ts _ here _ ih =>
    have inner : tokens? (if line = "" then "" else "\t" ++ line).toList = some ts := by
      split
      · rename_i empty
        rwa [← empty]
      · rw [String.toList_append, ← here]
        exact tokensBlank (by decide) line.toList
    exact .cons inner ih

theorem enclosed {head last : String} {hs ls : List Token} (opens : tokens? head.toList = some hs)
    (inner : Lexed lines ts) (closes : tokens? last.toList = some ls) :
    Lexed (Script.enclosed head lines last) (hs ++ ts ++ ls) := by
  rw [List.append_assoc]
  exact .cons opens (inner.nest.append (.one closes))

theorem commaAfter (lexed : Lexed lines ts) (some : lines ≠ []) :
    Lexed (separated.commaAfter lines) (ts ++ [.mark ',']) := by
  induction lexed with
  | nil => exact absurd rfl some
  | @cons line rest ts us here later ih =>
    cases rest with
    | nil =>
      cases later
      refine .one ?_
      rw [String.toList_append, show ",".toList = [','] from rfl, tokensAppend here (partedCons (by decide) []),
        tokensAlone (by decide)]
      simp
    | cons second others =>
      rw [separated.commaAfter, List.append_assoc]
      · exact .cons here (ih (by simp))
      · simp

theorem separated {α : Type} {groups : α → Lines} {spelled : α → List Token} {xs : List α}
    (each : ∀ x ∈ xs, Lexed (groups x) (spelled x)) (some : ∀ x ∈ xs, groups x ≠ []) :
    Lexed (Script.separated (xs.map groups)) ([Token.mark ','].intercalate (xs.map spelled)) := by
  induction xs with
  | nil => exact .nil
  | cons x more ih =>
    have here := each x List.mem_cons_self
    cases more with
    | nil => simpa [Script.separated] using here
    | cons y others =>
      have later := ih (fun z listed => each z (List.mem_cons_of_mem _ listed))
        fun z listed => some z (List.mem_cons_of_mem _ listed)
      have joined := (here.commaAfter (some x List.mem_cons_self)).append later
      rw [List.map_cons, List.map_cons, Script.separated]
      · simpa using joined
      · simp

theorem whole (lexed : Lexed lines ts) : tokens? (Script.text lines).toList = some ts := by
  induction lexed with
  | nil => exact tokensNil
  | @cons line rest ts us here later ih =>
    rw [Script.text, Text.joinWith, String.toList_ofList] at ih ⊢
    cases rest with
    | nil =>
      cases later
      simpa [Text.join] using here
    | cons second others =>
      have feed : "\n".toList = ['\n'] := by decide
      rw [List.map_cons, Text.joinCons _ _ (by simp), List.append_assoc, feed, List.singleton_append,
        tokensAppend here (partedCons (by decide) _), tokensBlank (by decide), ← feed, ih]
      rfl

end Lexed

theorem tokensString (s : String) : tokens? (stringLiteral s).toList = some [.text s] := by
  have read := tokensQuoted s []
  rw [tokensNil, List.append_nil] at read
  rw [stringLiteral, String.toList_ofList, read]
  rfl

theorem tokensCommas (texts : List String) : tokens? (commas (texts.map stringLiteral)).toList =
    some ([Token.mark ','].intercalate (texts.map fun s => [.text s])) := by
  induction texts with
  | nil => exact tokensNil
  | cons s more ih =>
    rw [commas, Text.joinWith, String.toList_ofList, List.map_map] at ih ⊢
    cases more with
    | nil => simpa [Text.join] using tokensString s
    | cons second others =>
      have comma : ", ".toList = [',', ' '] := rfl
      rw [comma] at ih ⊢
      rw [List.map_cons, Text.joinCons _ _ (by simp), List.append_assoc, Function.comp, stringLiteral,
        String.toList_ofList, tokensQuoted, List.cons_append, tokensMark (by decide),
        List.singleton_append, tokensBlank (by decide), ih]
      simp

end ApiScreens.Script
