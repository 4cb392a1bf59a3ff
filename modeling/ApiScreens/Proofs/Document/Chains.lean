import ApiScreens.Document
import ApiScreens.Proofs.Text.Pieces

/-! Chains of references. A schema resolves to the end of its chain exactly if the end is fewer hops away than the
depth; a chain that breaks off, that runs in a circle or that is longer resolves to nothing. -/
namespace ApiScreens.Document
open Json (Value)

/-- The schema that so many hops lead to, from a reference to what it refers to. -/
inductive Leads (doc : Document) : Nat → Value → Value → Prop where
  | here (schema : Value) : doc.Leads 0 schema schema
  | hop {hops : Nat} {schema next target : Value} {r : String} (refers : reference? schema = some r)
      (resolves : doc.resolveRef r = some next) (rest : doc.Leads hops next target) :
      doc.Leads (hops + 1) schema target

inductive DeadEnd (doc : Document) (r : String) : Prop where
  | external (outside : ¬"#/".toList <+: r.toList)
  | missing {before after : List String} {key : String} {v : Value}
      (keys : referenceKeys r = some (before ++ key :: after)) (way : descend doc.root before = some v)
      (absent : v.get? key = none)

variable {doc : Document}

theorem descendNone {v : Value} {keys : List String} :
    descend v keys = none ↔
      ∃ before key after w, keys = before ++ key :: after ∧ descend v before = some w ∧ w.get? key = none := by
  induction keys generalizing v with
  | nil => simp [descend]
  | cons first rest ih =>
    cases found : v.get? first with
    | none =>
      rw [descend, found]
      exact iff_of_true rfl ⟨[], first, rest, v, rfl, rfl, found⟩
    | some w =>
      rw [descend, found, Option.bind_some, ih]
      constructor
      · rintro ⟨before, key, after, u, rfl, way, absent⟩
        exact ⟨first :: before, key, after, u, rfl, by rwa [descend, found], absent⟩
      · rintro ⟨before, key, after, u, split, way, absent⟩
        cases before with
        | nil =>
          -- the first key is there, so that it is not the missing one
          obtain ⟨rfl, rfl⟩ := List.cons.inj split
          cases Option.some.inj way
          rw [found] at absent
          contradiction
        | cons k before =>
          obtain ⟨rfl, rfl⟩ := List.cons.inj split
          rw [descend, found] at way
          exact ⟨before, key, after, u, rfl, way, absent⟩

theorem deadEndExactly {r : String} : doc.resolveRef r = none ↔ doc.DeadEnd r := by
  have external : referenceKeys r = none ↔ ¬"#/".toList <+: r.toList := by
    rw [referenceKeys, Option.map_eq_none_iff, ← Text.afterPrefix, ← Option.not_isSome_iff_eq_none]
    rfl
  unfold resolveRef
  cases keys : referenceKeys r with
  | none => exact iff_of_true rfl (.external (external.mp keys))
  | some path =>
    rw [Option.bind_some, descendNone]
    constructor
    · rintro ⟨before, key, after, v, rfl, way, absent⟩
      exact .missing keys way absent
    · rintro (outside | ⟨split, way, absent⟩)
      · rw [external.mpr outside] at keys
        contradiction
      · cases keys.symm.trans split
        exact ⟨_, _, _, _, rfl, way, absent⟩

section
variable {schema next x target : Value} {r : String} {hops more : Nat}

theorem leadsHop (refers : reference? schema = some r) (resolves : doc.resolveRef r = some next) :
    doc.Leads (hops + 1) schema target ↔ doc.Leads hops next target := by
  refine ⟨fun way => ?_, .hop refers resolves⟩
  cases way with
  | hop again same rest =>
    cases refers.symm.trans again
    cases resolves.symm.trans same
    exact rest

theorem leadsEnd (ends : reference? schema = none) : doc.Leads hops schema target ↔ hops = 0 ∧ schema = target := by
  constructor
  · intro way
    cases way with
    | here => exact ⟨rfl, rfl⟩
    | hop refers =>
      rw [ends] at refers
      contradiction
  · rintro ⟨rfl, rfl⟩
    exact .here _

theorem leadsOn (way : doc.Leads hops schema x) : doc.Leads (hops + more) schema target ↔ doc.Leads more x target := by
  induction way with
  | here => rw [Nat.zero_add]
  | hop refers resolves _ ih => rw [Nat.add_right_comm, leadsHop refers resolves, ih]

theorem leadsPart {far near : Nat} (way : doc.Leads far schema target) (nearer : near ≤ far) :
    ∃ x, doc.Leads near schema x := by
  induction way generalizing near with
  | here schema =>
    cases Nat.le_zero.mp nearer
    exact ⟨schema, .here schema⟩
  | hop refers resolves _ ih =>
    cases near with
    | zero => exact ⟨_, .here _⟩
    | succ near =>
      obtain ⟨x, part⟩ := ih (Nat.le_of_succ_le_succ nearer)
      exact ⟨x, .hop refers resolves part⟩

theorem leadsRound {round : Nat} (circle : doc.Leads round x x) (times : Nat) : doc.Leads (times * round) x x := by
  induction times with
  | zero =>
    rw [Nat.zero_mul]
    exact .here x
  | succ n ih => rwa [Nat.succ_mul, leadsOn ih]

theorem followExactly {depth : Nat} :
    doc.follow depth schema = some target ↔
      ∃ hops < depth, doc.Leads hops schema target ∧ reference? target = none := by
  induction depth generalizing schema with
  | zero => simp [follow]
  | succ depth ih =>
    unfold follow
    cases refers : reference? schema with
    | none =>
      simp only [Option.some.injEq, leadsEnd refers]
      constructor
      · rintro rfl
        exact ⟨0, Nat.succ_pos depth, ⟨rfl, rfl⟩, refers⟩
      · rintro ⟨_, _, ⟨_, same⟩, _⟩
        exact same
    | some r =>
      dsimp only
      rw [Option.bind_eq_some_iff]
      constructor
      · rintro ⟨next, resolves, found⟩
        obtain ⟨hops, within, way, ends⟩ := ih.mp found
        exact ⟨hops + 1, Nat.succ_lt_succ within, .hop refers resolves way, ends⟩
      · rintro ⟨hops, within, way, ends⟩
        cases way with
        | here =>
          rw [refers] at ends
          contradiction
        | hop again resolves rest =>
          cases refers.symm.trans again
          exact ⟨_, resolves, ih.mpr ⟨_, Nat.lt_of_succ_lt_succ within, rest, ends⟩⟩

theorem followNone {depth : Nat} :
    doc.follow depth schema = none ↔
      (∃ hops < depth, ∃ x r, doc.Leads hops schema x ∧ reference? x = some r ∧ doc.DeadEnd r) ∨
        ∃ x, doc.Leads depth schema x := by
  induction depth generalizing schema with
  | zero => exact iff_of_true rfl (.inr ⟨schema, .here schema⟩)
  | succ depth ih =>
    unfold follow
    cases refers : reference? schema with
    | none => simp [leadsEnd refers, refers]
    | some r =>
      dsimp only
      cases resolves : doc.resolveRef r with
      | none => exact iff_of_true rfl (.inl ⟨0, Nat.succ_pos depth, schema, r, .here _, refers, deadEndExactly.mp resolves⟩)
      | some next =>
        rw [Option.bind_some, ih]
        simp only [leadsHop refers resolves]
        refine or_congr_left ⟨?_, ?_⟩
        · rintro ⟨hops, within, x, s, way, broken⟩
          exact ⟨hops + 1, Nat.succ_lt_succ within, x, s, (leadsHop refers resolves).mpr way, broken⟩
        · rintro ⟨hops, within, x, s, way, again, broken⟩
          cases hops with
          | zero =>
            -- the first hop is none of the broken ones
            cases way
            cases refers.symm.trans again
            rw [deadEndExactly.mpr broken] at resolves
            contradiction
          | succ hops =>
            exact ⟨hops, Nat.lt_of_succ_lt_succ within, x, s, (leadsHop refers resolves).mp way, again, broken⟩

theorem longNone (way : doc.Leads hops schema x) (long : refDepth ≤ hops) : doc.resolveSchema schema = none :=
  followNone.mpr (.inr (leadsPart way long))

theorem brokenNone (way : doc.Leads hops schema x) (refers : reference? x = some r) (broken : doc.DeadEnd r) :
    doc.resolveSchema schema = none := by
  rcases Nat.lt_or_ge hops refDepth with within | long
  · exact followNone.mpr (.inl ⟨hops, within, x, r, way, refers, broken⟩)
  · exact longNone way long

theorem circleNone {round : Nat} (way : doc.Leads hops schema x) (circle : doc.Leads (round + 1) x x) :
    doc.resolveSchema schema = none := by
  have around : doc.Leads (hops + refDepth * (round + 1)) schema x := (leadsOn way).mpr (leadsRound circle refDepth)
  have long : refDepth ≤ refDepth * (round + 1) := Nat.le_mul_of_pos_right refDepth (Nat.succ_pos round)
  exact longNone around (Nat.le_add_left_of_le long)

theorem resolveEnd (ends : reference? schema = none) : doc.resolveSchema schema = some schema :=
  followExactly.mpr ⟨0, by decide, .here schema, ends⟩

theorem resolvedEnds (found : doc.resolveSchema schema = some target) : reference? target = none := by
  obtain ⟨_, _, _, ends⟩ := followExactly.mp found
  exact ends

end

structure Resolution (doc : Document) (schema : Value) : Prop where
  found : ∀ target, doc.resolveSchema schema = some target ↔
    ∃ hops < refDepth, doc.Leads hops schema target ∧ reference? target = none
  broken : ∀ hops x r, doc.Leads hops schema x → reference? x = some r → doc.DeadEnd r →
    doc.resolveSchema schema = none
  circular : ∀ hops x round, doc.Leads hops schema x → doc.Leads (round + 1) x x → doc.resolveSchema schema = none
  long : ∀ hops x, doc.Leads hops schema x → refDepth ≤ hops → doc.resolveSchema schema = none
  fails : doc.resolveSchema schema = none →
    (∃ hops x r, doc.Leads hops schema x ∧ reference? x = some r ∧ doc.DeadEnd r) ∨ ∃ x, doc.Leads refDepth schema x
  settled : ∀ target, doc.resolveSchema schema = some target → doc.resolveSchema target = some target

/-- A schema resolves to the end of its chain if fewer hops than the depth lead there, and to nothing if the chain
breaks off, runs in a circle or takes as many hops. Schemas that are found resolve to themselves. -/
theorem chainsFollowed (doc : Document) (schema : Value) : doc.Resolution schema where
  found _ := followExactly
  broken _ _ _ := brokenNone
  circular _ _ _ := circleNone
  long _ _ := longNone
  fails none := (followNone.mp none).imp_left fun ⟨hops, _, x, r, broken⟩ => ⟨hops, x, r, broken⟩
  settled _ found := resolveEnd (resolvedEnds found)

def advance (doc : Document) : (hops : Nat) → Value → Option Value
  | 0, schema => some schema
  | hops + 1, schema => ((reference? schema).bind doc.resolveRef).bind (doc.advance hops)

theorem advanceExactly {hops : Nat} {schema target : Value} :
    doc.advance hops schema = some target ↔ doc.Leads hops schema target := by
  induction hops generalizing schema with
  | zero =>
    refine ⟨fun same => ?_, fun way => ?_⟩
    · cases same
      exact .here _
    · cases way
      rfl
  | succ hops ih =>
    simp only [advance, Option.bind_eq_some_iff]
    constructor
    · rintro ⟨next, ⟨r, refers, resolves⟩, rest⟩
      exact .hop refers resolves (ih.mp rest)
    · intro way
      cases way with
      | hop refers resolves rest => exact ⟨_, ⟨_, refers, resolves⟩, ih.mpr rest⟩

instance (doc : Document) (hops : Nat) (schema target : Value) : Decidable (doc.Leads hops schema target) :=
  decidable_of_iff _ advanceExactly

def referring (key : String) : Value := .object [("$ref", .string ("#/" ++ key))]

def letters : Document :=
  let keys := ["a", "b", "c", "d", "e", "f", "g", "h", "i", "j", "k", "l", "m", "n", "o", "p"]
  ⟨.object (keys.zipWith (fun key next => (key, referring next)) keys.tail ++ [("p", .object [])])⟩

theorem lastHopRefused :
    letters.Leads refDepth (referring "a") (.object []) ∧ reference? (.object []) = none ∧
      letters.resolveSchema (referring "a") = none ∧ letters.resolveSchema (referring "b") = some (.object []) := by
  decide +kernel

end ApiScreens.Document
