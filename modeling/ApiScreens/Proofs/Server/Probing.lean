import ApiScreens.Proofs.Server.Discipline

/-! What a probe says and what its mark means: that the last answer to its request is a success. -/
namespace ApiScreens.Server

def Succeeds (answer : Except FetchError Reply) : Prop :=
  ∃ r, answer = .ok r ∧ 200 ≤ r.status ∧ r.status < 300

theorem succeedsReply {r : Reply} : Succeeds (.ok r) ↔ r.isSuccess = true := by
  rw [Reply.isSuccess, Bool.and_eq_true, decide_eq_true_eq, decide_eq_true_eq]
  constructor
  · rintro ⟨_, same, success⟩
    cases same
    exact success
  · exact fun success => ⟨r, rfl, success⟩

theorem succeedsError {e : FetchError} : ¬Succeeds (.error e) := by
  rintro ⟨r, impossible, _⟩
  contradiction

theorem expiredFails {answer : Except FetchError Reply} (expired : Expired answer) : ¬Succeeds answer := by
  obtain ⟨r, rfl, code⟩ := expired
  rintro ⟨_, same, _, below⟩
  cases same
  omega

def Answered (es : List Exchange) : Prop :=
  ∃ e, es.getLast? = some e ∧ e.1.isGet = true ∧ Succeeds e.2

section
variable {base url : String} {credentials : Option Credentials} {s t : Session} {es fs : List Exchange}

theorem answeredBehind (said : fs ≠ []) : Answered (es ++ fs) ↔ Answered fs := by
  obtain ⟨last, ends⟩ := Option.ne_none_iff_exists'.mp (mt List.getLast?_eq_none_iff.mp said)
  rw [Answered, Answered, List.getLast?_append, ends, Option.some_or]

theorem answeredInside (answered : Answered es) : ∃ e ∈ es, e.1.isGet = true ∧ Succeeds e.2 := by
  obtain ⟨e, last, success⟩ := answered
  exact ⟨e, List.mem_of_getLast? last, success⟩

theorem silentUnanswered (silent : ∀ e ∈ es, e.1.isGet = false) : ¬Answered es := by
  intro answered
  obtain ⟨e, inside, isGet, _⟩ := answeredInside answered
  rw [silent e inside] at isGet
  contradiction

theorem conversationNonempty {left : Nat} {outcome : Except FetchError Reply}
    (talk : Conversation base credentials url left s es t outcome) : es ≠ [] := by
  cases talk <;> exact List.cons_ne_nil _ _

-- A repetition answers for the whole conversation, so the induction is on the conversation.
theorem conversationAnswered {left : Nat} {outcome : Except FetchError Reply}
    (talk : Conversation base credentials url left s es t outcome) : Succeeds outcome ↔ Answered es := by
  induction talk with
  | final last => simp [Answered, Request.isGet]
  | @abandoned left s answer es e expired renewing =>
    refine ⟨fun success => absurd success succeedsError, fun answered => ?_⟩
    obtain ⟨call, inside, isGet, success⟩ := answeredInside answered
    cases List.mem_cons.mp inside with
    | inl first =>
      subst first
      exact absurd success (expiredFails expired)
    | inr renewal => simp [renewingAsksNothing renewing call renewal] at isGet
  | @repeated left s fresh t answer outcome es fs expired renewing again ih =>
    rw [ih, ← List.cons_append, answeredBehind (conversationNonempty again)]

theorem silentCount (silent : ∀ e ∈ es, e.1.isGet = false) : es.countP (·.1.isGet) = 0 :=
  List.countP_eq_zero.mpr fun e inside => by simp [silent e inside]

theorem askingAnswered {outcome : Except FetchError Reply} (talk : Asking base credentials url s es t outcome) :
    Succeeds outcome ↔ Answered es := by
  cases talk with
  | refused connecting => simp [succeedsError, silentUnanswered (connectingAsksNothing connecting)]
  | asked connecting conversation =>
    rw [conversationAnswered conversation, answeredBehind (conversationNonempty conversation)]

theorem askingTwice {outcome : Except FetchError Reply} (talk : Asking base credentials url s es t outcome) :
    es.countP (·.1.isGet) ≤ 2 := by
  cases talk with
  | refused connecting =>
    rw [silentCount (connectingAsksNothing connecting)]
    exact Nat.zero_le 2
  | asked connecting conversation =>
    rw [List.countP_append, silentCount (connectingAsksNothing connecting), Nat.zero_add]
    exact (conversationBounded conversation).calls

end

inductive Probing (base : String) (credentials : Option Credentials) (url : String) (s : Session) :
    List Exchange → Session → Bool → Prop where
  | marked {es : List Exchange} {t : Session} {outcome : Except FetchError Reply} {ok : Bool}
      (asking : Asking base credentials url s es t outcome) (mark : ok = true ↔ Succeeds outcome) :
      Probing base credentials url s es t ok

theorem Access.probeSays (a : Access) (url : String) :
    ∃ es, a.wire.Exchanges (a.probe url).1.wire es ∧
      (a.probe url).1.base = a.base ∧ (a.probe url).1.credentials = a.credentials ∧
      Probing a.base a.credentials url a.session es (a.probe url).1.session (a.probe url).2 := by
  obtain ⟨es, exchanges, sameBase, sameCredentials, asking⟩ := a.getSays url
  unfold probe
  generalize a.get url = got at exchanges sameBase sameCredentials asking
  obtain ⟨b, answer⟩ := got
  refine ⟨es, exchanges, sameBase, sameCredentials, .marked asking ?_⟩
  cases answer with
  | error e => simp [succeedsError]
  | ok r => exact succeedsReply.symm

end ApiScreens.Server
