import ApiScreens.Server.Session
import Mathlib.Data.List.Basic

/-! Requests that find their session expired. All that is sent for one request is a conversation: the request,
then what renews the session, then the request again as often as repetitions are left. The conversation and
its end follow from the answers alone, whatever they are. -/
namespace ApiScreens.Server
open Json (Value)

abbrev Exchange := Request × Except FetchError Reply

structure Wire.Exchanges (w v : Wire) (es : List Exchange) : Prop where
  answers : v.answers = w.answers
  sent : v.sent = w.sent ++ es.map (·.1)
  answered : es.map (·.2) = (List.range' w.sent.length es.length).map w.answers

namespace Wire.Exchanges
variable {w v u : Wire} {es fs : List Exchange}

theorem none (w : Wire) : w.Exchanges w [] := ⟨rfl, by simp, rfl⟩

theorem send (w : Wire) (r : Request) : w.Exchanges (w.send r).1 [(r, (w.send r).2)] := ⟨rfl, rfl, rfl⟩

theorem append (first : w.Exchanges v es) (second : v.Exchanges u fs) : w.Exchanges u (es ++ fs) where
  answers := second.answers.trans first.answers
  sent := by rw [second.sent, first.sent, List.map_append, List.append_assoc]
  answered := by
    have turn : v.sent.length = w.sent.length + es.length := by simp [first.sent]
    rw [List.map_append, first.answered, second.answered, first.answers, turn, ← List.map_append,
      List.range'_append_1, List.length_append]

end Wire.Exchanges

structure Reply.Grants (r : Reply) (s : Session) : Prop where
  success : 200 ≤ r.status ∧ r.status < 300
  tokens : ∃ body data access, r.json? = some body ∧
    body.get? "status" = some (.string "success") ∧ body.get? "data" = some data ∧
    data.get? "accessToken" = some (.string access) ∧
    s = ⟨some access, (data.get? "refreshToken").bind Value.string?⟩

theorem textAt {v : Option Value} {s : String} :
    (∃ a, v = some a ∧ a.string? = some s) ↔ v = some (.string s) := by
  constructor
  · rintro ⟨a, rfl, text⟩
    cases a <;> simp [Value.string?] at text ⊢
    exact text
  · rintro rfl
    exact ⟨_, rfl, rfl⟩

theorem sessionOfReply {r : Reply} {s : Session} :
    Session.ofReply r = some s ↔ ∃ body data access, r.json? = some body ∧
      body.get? "status" = some (.string "success") ∧ body.get? "data" = some data ∧
      data.get? "accessToken" = some (.string access) ∧
      s = ⟨some access, (data.get? "refreshToken").bind Value.string?⟩ := by
  unfold Session.ofReply
  simp only [Option.bind_eq_bind, Option.bind_eq_some_iff, Option.ite_none_right_eq_some, textAt,
    Option.some.injEq]
  constructor
  · rintro ⟨body, parsed, status, data, inside, access, token, rfl⟩
    exact ⟨body, data, access, parsed, status, inside, token, rfl⟩
  · rintro ⟨body, data, access, parsed, status, inside, token, rfl⟩
    exact ⟨body, parsed, status, data, inside, access, token, rfl⟩

theorem grantsExactly {r : Reply} {s : Session} :
    r.Grants s ↔ r.isSuccess = true ∧ Session.ofReply r = some s := by
  rw [sessionOfReply, Reply.isSuccess, Bool.and_eq_true, decide_eq_true_eq, decide_eq_true_eq]
  exact ⟨fun ⟨success, tokens⟩ => ⟨success, tokens⟩, fun ⟨success, tokens⟩ => ⟨success, tokens⟩⟩

def Granted (answer : Except FetchError Reply) (s : Session) : Prop := ∃ r, answer = .ok r ∧ r.Grants s

def Expired (answer : Except FetchError Reply) : Prop := ∃ r, answer = .ok r ∧ r.status = 401

theorem grantedReply {r : Reply} {s : Session} : Granted (.ok r) s ↔ r.Grants s :=
  ⟨fun ⟨_, same, grants⟩ => Except.ok.inj same ▸ grants, fun grants => ⟨r, rfl, grants⟩⟩

theorem grantedError {e : FetchError} {s : Session} : ¬Granted (.error e) s := by
  rintro ⟨r, impossible, _⟩
  contradiction

theorem refreshedExactly {token : String} {answer : Except FetchError Reply} {s : Session} :
    refreshed token answer = some s ↔
      ∃ fresh, Granted answer fresh ∧ s = ⟨fresh.access, fresh.refresh.or (some token)⟩ := by
  cases answer with
  | error e => simp [refreshed, grantedError]
  | ok r =>
    simp only [refreshed, Option.ite_none_right_eq_some, Option.map_eq_some_iff, grantedReply,
      grantsExactly]
    constructor
    · rintro ⟨success, fresh, tokens, rfl⟩
      exact ⟨fresh, ⟨success, tokens⟩, rfl⟩
    · rintro ⟨fresh, ⟨success, tokens⟩, rfl⟩
      exact ⟨success, fresh, tokens, rfl⟩

theorem loggedInExactly {answer : Except FetchError Reply} {s : Session} :
    loggedIn answer = .ok s ↔ Granted answer s := by
  cases answer with
  | error e => simp [loggedIn, grantedError]
  | ok r =>
    rw [grantedReply, grantsExactly, loggedIn]
    cases success : r.isSuccess with
    | false => simp
    | true => cases tokens : Session.ofReply r <;> simp

inductive Refreshing (base : String) (s : Session) : List Exchange → Option Session → Prop where
  | unheld (absent : s.refresh = none) : Refreshing base s [] none
  | refused {token : String} {answer : Except FetchError Reply} (held : s.refresh = some token)
      (ungranted : ∀ fresh, ¬Granted answer fresh) :
      Refreshing base s [(refreshRequest base token, answer)] none
  | granted {token : String} {answer : Except FetchError Reply} {fresh : Session}
      (held : s.refresh = some token) (grants : Granted answer fresh) :
      Refreshing base s [(refreshRequest base token, answer)]
        (some ⟨fresh.access, fresh.refresh.or (some token)⟩)

inductive LoggingIn (base : String) (credentials : Option Credentials) :
    List Exchange → Except FetchError Session → Prop where
  | unknown (absent : credentials = none) :
      LoggingIn base credentials [] (.error .missingCredentials)
  | refused {c : Credentials} {answer : Except FetchError Reply} {e : FetchError}
      (known : credentials = some c) (ungranted : ∀ fresh, ¬Granted answer fresh) :
      LoggingIn base credentials [(loginRequest base c, answer)] (.error e)
  | granted {c : Credentials} {answer : Except FetchError Reply} {fresh : Session}
      (known : credentials = some c) (grants : Granted answer fresh) :
      LoggingIn base credentials [(loginRequest base c, answer)] (.ok fresh)

inductive Renewing (base : String) (credentials : Option Credentials) (s : Session) :
    List Exchange → Except FetchError Session → Prop where
  | refreshed {es : List Exchange} {fresh : Session} (refreshing : Refreshing base s es (some fresh)) :
      Renewing base credentials s es (.ok fresh)
  | anew {es fs : List Exchange} {outcome : Except FetchError Session}
      (unrefreshed : Refreshing base s es none) (login : LoggingIn base credentials fs outcome) :
      Renewing base credentials s (es ++ fs) outcome

/-- What is said for one request while `left` repetitions are left, from the session before it to the session
after it and the answer that counts. -/
inductive Conversation (base : String) (credentials : Option Credentials) (url : String) :
    (left : Nat) → Session → List Exchange → Session → Except FetchError Reply → Prop where
  | final {left : Nat} {s : Session} {answer : Except FetchError Reply}
      (last : left = 0 ∨ ¬Expired answer) :
      Conversation base credentials url left s [(.get url s.access, answer)] s answer
  | abandoned {left : Nat} {s : Session} {answer : Except FetchError Reply} {es : List Exchange}
      {e : FetchError} (expired : Expired answer) (renewing : Renewing base credentials s es (.error e)) :
      Conversation base credentials url (left + 1) s ((.get url s.access, answer) :: es) s (.error e)
  | repeated {left : Nat} {s fresh t : Session} {answer outcome : Except FetchError Reply}
      {es fs : List Exchange} (expired : Expired answer)
      (renewing : Renewing base credentials s es (.ok fresh))
      (again : Conversation base credentials url left fresh fs t outcome) :
      Conversation base credentials url (left + 1) s ((.get url s.access, answer) :: (es ++ fs)) t
        outcome

section
variable (w : Wire) (base url : String) (credentials : Option Credentials) (s : Session)

theorem refreshSays :
    ∃ es, w.Exchanges (refresh w base s).1 es ∧ Refreshing base s es (refresh w base s).2 := by
  unfold refresh
  cases held : s.refresh with
  | none => exact ⟨[], .none w, .unheld held⟩
  | some token =>
    refine ⟨_, .send w (refreshRequest base token), ?_⟩
    simp only
    cases outcome : refreshed token (w.send (refreshRequest base token)).2 with
    | none =>
      refine .refused held fun fresh grants => ?_
      have found : refreshed token _ = some _ := refreshedExactly.mpr ⟨fresh, grants, rfl⟩
      rw [outcome] at found
      contradiction
    | some t =>
      obtain ⟨fresh, grants, rfl⟩ := refreshedExactly.mp outcome
      exact .granted held grants

theorem loginSays (c : Credentials) (known : credentials = some c) :
    ∃ es, w.Exchanges (login w base c).1 es ∧ LoggingIn base credentials es (login w base c).2 := by
  refine ⟨_, .send w (loginRequest base c), ?_⟩
  simp only [login]
  cases outcome : loggedIn (w.send (loginRequest base c)).2 with
  | error e =>
    refine .refused known fun fresh grants => ?_
    have found := loggedInExactly.mpr grants
    rw [outcome] at found
    contradiction
  | ok fresh => exact .granted known (loggedInExactly.mp outcome)

theorem reauthorizeSays :
    ∃ es, w.Exchanges (reauthorize w base credentials s).1 es ∧
      Renewing base credentials s es (reauthorize w base credentials s).2 := by
  obtain ⟨es, exchanges, refreshing⟩ := refreshSays w base s
  unfold reauthorize
  generalize refresh w base s = step at exchanges refreshing
  obtain ⟨v, outcome⟩ := step
  cases outcome with
  | some fresh => exact ⟨es, exchanges, .refreshed refreshing⟩
  | none =>
    cases known : credentials with
    | none => exact ⟨es ++ [], exchanges.append (.none v), .anew refreshing (.unknown rfl)⟩
    | some c =>
      obtain ⟨fs, more, login⟩ := loginSays v base (some c) c rfl
      exact ⟨es ++ fs, exchanges.append more, .anew refreshing login⟩

theorem expiredReply {r : Reply} : Expired (.ok r) ↔ r.isUnauthorized = true := by
  rw [Reply.isUnauthorized, beq_iff_eq]
  exact ⟨fun ⟨_, same, code⟩ => Except.ok.inj same ▸ code, fun code => ⟨r, rfl, code⟩⟩

theorem expiredError {e : FetchError} : ¬Expired (.error e) := by
  rintro ⟨r, impossible, _⟩
  contradiction

theorem fetchLast {left : Nat} (last : left = 0 ∨ ¬Expired (w.send (.get url s.access)).2) :
    fetchWith base credentials url left w s =
      ((w.send (.get url s.access)).1, s, (w.send (.get url s.access)).2) := by
  unfold fetchWith
  split
  · rename_i v e sent
    rw [sent]
  · rename_i v r sent
    rw [sent, expiredReply] at last
    split
    · rename_i expired
      simp [expired] at last
    · rw [sent]

theorem fetchAgain {left : Nat} (expired : Expired (w.send (.get url s.access)).2) :
    fetchWith base credentials url (left + 1) w s =
      match reauthorize (w.send (.get url s.access)).1 base credentials s with
      | (v, .ok fresh) => fetchWith base credentials url left v fresh
      | (v, .error e) => (v, s, .error e) := by
  rw [fetchWith]
  split
  · rename_i v e sent
    rw [sent] at expired
    exact absurd expired expiredError
  · rename_i v r sent
    rw [sent, expiredReply] at expired
    rewrite [sent, expired]
    rfl

-- Each repetition is one conversation behind another, so the induction is on how many are left.
theorem fetchSays (left : Nat) :
    ∃ es, w.Exchanges (fetchWith base credentials url left w s).1 es ∧
      Conversation base credentials url left s es (fetchWith base credentials url left w s).2.1
        (fetchWith base credentials url left w s).2.2 := by
  have first := Wire.Exchanges.send w (.get url s.access)
  induction left generalizing w s with
  | zero =>
    rw [fetchLast w base url credentials s (.inl rfl)]
    exact ⟨_, first, .final (.inl rfl)⟩
  | succ left ih =>
    by_cases expired : Expired (w.send (.get url s.access)).2
    · obtain ⟨es, renewals, renewing⟩ := reauthorizeSays (w.send (.get url s.access)).1 base credentials s
      rw [fetchAgain w base url credentials s expired]
      generalize reauthorize (w.send (.get url s.access)).1 base credentials s = step at renewals renewing
      obtain ⟨v, outcome⟩ := step
      cases outcome with
      | error e => exact ⟨_ :: es, first.append renewals, .abandoned expired renewing⟩
      | ok fresh =>
        obtain ⟨fs, more, again⟩ := ih v fresh (.send v _)
        exact ⟨_ :: (es ++ fs), first.append (renewals.append more), .repeated expired renewing again⟩
    · rw [fetchLast w base url credentials s (.inr expired)]
      exact ⟨_, first, .final (.inr expired)⟩

end

def Request.isGet : Request → Bool
  | .get _ _ => true
  | .post _ _ => false

def Request.refreshes (base : String) : Request → Bool
  | .get _ _ => false
  | .post url _ => url = base ++ "/user/auth/refresh"

def Request.logsIn (base : String) : Request → Bool
  | .get _ _ => false
  | .post url _ => url = base ++ "/user/auth/login"

structure Bounded (base : String) (calls refreshes logins : Nat) (es : List Exchange) : Prop where
  calls : es.countP (·.1.isGet) ≤ calls
  refreshes : es.countP (·.1.refreshes base) ≤ refreshes
  logins : es.countP (·.1.logsIn base) ≤ logins

namespace Bounded
variable {base : String} {a b c i j k : Nat} {es fs : List Exchange}

theorem none : Bounded base 0 0 0 [] := ⟨Nat.le_refl 0, Nat.le_refl 0, Nat.le_refl 0⟩

theorem get (url : String) (bearer : Option String) (answer : Except FetchError Reply) :
    Bounded base 1 0 0 [(.get url bearer, answer)] := by
  constructor <;> simp [Request.isGet, Request.refreshes, Request.logsIn]

theorem refresh (token : String) (answer : Except FetchError Reply) :
    Bounded base 0 1 0 [(refreshRequest base token, answer)] := by
  constructor <;> simp [refreshRequest, Request.isGet, Request.refreshes, Request.logsIn]

theorem login (c : Credentials) (answer : Except FetchError Reply) :
    Bounded base 0 0 1 [(loginRequest base c, answer)] := by
  constructor <;> simp [loginRequest, Request.isGet, Request.refreshes, Request.logsIn]

theorem append (first : Bounded base a b c es) (second : Bounded base i j k fs) :
    Bounded base (a + i) (b + j) (c + k) (es ++ fs) := by
  obtain ⟨calls, refreshes, logins⟩ := first
  obtain ⟨moreCalls, moreRefreshes, moreLogins⟩ := second
  constructor <;> rw [List.countP_append] <;> omega

theorem weaken (bounded : Bounded base a b c es) (calls : a ≤ i) (refreshes : b ≤ j) (logins : c ≤ k) :
    Bounded base i j k es :=
  ⟨Nat.le_trans bounded.calls calls, Nat.le_trans bounded.refreshes refreshes,
    Nat.le_trans bounded.logins logins⟩

end Bounded

section
variable {base url : String} {credentials : Option Credentials} {s : Session} {es : List Exchange}

theorem refreshingBounded {outcome : Option Session} (refreshing : Refreshing base s es outcome) :
    Bounded base 0 1 0 es := by
  cases refreshing with
  | unheld absent => exact Bounded.none.weaken (Nat.le_refl 0) (Nat.zero_le 1) (Nat.le_refl 0)
  | refused held ungranted => exact .refresh _ _
  | granted held grants => exact .refresh _ _

theorem loggingInBounded {outcome : Except FetchError Session}
    (login : LoggingIn base credentials es outcome) : Bounded base 0 0 1 es := by
  cases login with
  | unknown absent => exact Bounded.none.weaken (Nat.le_refl 0) (Nat.le_refl 0) (Nat.zero_le 1)
  | refused known ungranted => exact .login _ _
  | granted known grants => exact .login _ _

theorem renewingBounded {outcome : Except FetchError Session}
    (renewing : Renewing base credentials s es outcome) : Bounded base 0 1 1 es := by
  cases renewing with
  | refreshed refreshing =>
    exact (refreshingBounded refreshing).weaken (Nat.le_refl 0) (Nat.le_refl 1) (Nat.zero_le 1)
  | anew unrefreshed login => exact (refreshingBounded unrefreshed).append (loggingInBounded login)

theorem conversationBounded {left : Nat} {t : Session} {outcome : Except FetchError Reply}
    (conversation : Conversation base credentials url left s es t outcome) :
    Bounded base (left + 1) left left es := by
  induction conversation with
  | final last => exact (Bounded.get _ _ _).weaken (by omega) (by omega) (by omega)
  | abandoned expired renewing =>
    exact ((Bounded.get _ _ _).append (renewingBounded renewing)).weaken (by omega) (by omega) (by omega)
  | repeated expired renewing again ih =>
    exact ((Bounded.get _ _ _).append ((renewingBounded renewing).append ih)).weaken (by omega) (by omega)
      (by omega)

end

theorem repeatedOnce (w : Wire) (base : String) (credentials : Option Credentials) (s : Session)
    (url : String) :
    let (v, t, outcome) := fetch w base credentials s url
    ∃ first more, w.Exchanges v ((.get url s.access, first) :: more) ∧
      Bounded base 2 1 1 ((.get url s.access, first) :: more) ∧
      (¬Expired first → more = [] ∧ t = s ∧ outcome = first) ∧
      (Expired first → ∃ renewing renewal, Renewing base credentials s renewing renewal ∧
        match renewal with
        | .error e => more = renewing ∧ t = s ∧ outcome = .error e
        | .ok fresh => more = renewing ++ [(.get url fresh.access, outcome)] ∧ t = fresh) := by
  obtain ⟨es, exchanges, conversation⟩ := fetchSays w base url credentials s retries
  have bounded := conversationBounded conversation
  unfold fetch
  generalize fetchWith base credentials url retries w s = result at exchanges conversation
  obtain ⟨v, t, outcome⟩ := result
  rw [retries] at conversation bounded
  cases conversation with
  | final last =>
    have settled := last.resolve_left (by decide)
    exact ⟨outcome, [], exchanges, bounded, fun _ => ⟨rfl, rfl, rfl⟩, fun expired => absurd expired settled⟩
  | @abandoned _ _ first renewing e expired renewed =>
    exact ⟨first, renewing, exchanges, bounded, fun settled => absurd expired settled,
      fun _ => ⟨renewing, .error e, renewed, rfl, rfl, rfl⟩⟩
  | @repeated _ _ _ _ first _ renewing _ expired renewed again =>
    -- no repetition is left for the second answer
    cases again with
    | final last =>
      exact ⟨first, _, exchanges, bounded, fun settled => absurd expired settled,
        fun _ => ⟨renewing, .ok t, renewed, rfl, rfl⟩⟩

end ApiScreens.Server
