import ApiScreens.Proofs.Server.Retry
import ApiScreens.Server.Access

/-! Whole runs against one server. What a session holds follows from the answers that granted it, and each
request is one that the exchanges before it allow. Nothing is assumed of the answers. -/
namespace ApiScreens.Server
open Json (Value)

theorem Wire.Exchanges.unique {w v : Wire} {es fs : List Exchange} (one : w.Exchanges v es)
    (other : w.Exchanges v fs) : es = fs := by
  have requests : es.map (·.1) = fs.map (·.1) := by
    have sent := one.sent.symm.trans other.sent
    exact List.append_cancel_left sent
  have lengths : es.length = fs.length := by simpa using congrArg List.length requests
  have answers : es.map (·.2) = fs.map (·.2) := by rw [one.answered, other.answered, lengths]
  have whole : fs = (fs.map (·.1)).zip (fs.map (·.2)) := List.zip_of_prod rfl rfl
  exact (List.zip_of_prod requests answers).trans whole.symm

def grantOf : Except FetchError Reply → Option Session
  | .error _ => none
  | .ok r => if r.isSuccess then Session.ofReply r else none

theorem grantOfExactly {answer : Except FetchError Reply} {s : Session} :
    grantOf answer = some s ↔ Granted answer s := by
  cases answer with
  | error e => simp [grantOf, grantedError]
  | ok r => simp [grantOf, grantedReply, grantsExactly]

theorem grantOfNone {answer : Except FetchError Reply} (ungranted : ∀ s, ¬Granted answer s) :
    grantOf answer = none := by
  cases found : grantOf answer with
  | none => rfl
  | some s => exact absurd (grantOfExactly.mp found) (ungranted s)

/-- The session after an exchange. A login that is granted replaces it; so does a refresh, but the refresh
token stays where the answer brings no other. -/
def Session.after (base : String) (s : Session) (e : Exchange) : Session :=
  match grantOf e.2 with
  | none => s
  | some fresh =>
      if e.1.logsIn base then fresh
      else if e.1.refreshes base then ⟨fresh.access, fresh.refresh.or s.refresh⟩
      else s

def heard (base : String) (es : List Exchange) : Session := es.foldl (Session.after base) {}

section
variable {base : String} {s fresh : Session} {answer : Except FetchError Reply}

theorem heardSaid (past : List Exchange) (e : Exchange) :
    heard base (past ++ [e]) = (heard base past).after base e := by
  simp [heard]

theorem afterGet (url : String) (bearer : Option String) : s.after base (.get url bearer, answer) = s := by
  unfold Session.after
  cases grantOf answer with
  | none => rfl
  | some fresh => simp [Request.logsIn, Request.refreshes]

theorem afterUngranted (r : Request) (ungranted : ∀ fresh, ¬Granted answer fresh) :
    s.after base (r, answer) = s := by
  simp [Session.after, grantOfNone ungranted]

theorem afterLogin (c : Credentials) (grants : Granted answer fresh) :
    s.after base (loginRequest base c, answer) = fresh := by
  simp [Session.after, grantOfExactly.mpr grants, loginRequest, Request.logsIn]

theorem afterRefresh (token : String) (grants : Granted answer fresh) :
    s.after base (refreshRequest base token, answer) = ⟨fresh.access, fresh.refresh.or s.refresh⟩ := by
  have other : ¬base ++ "/user/auth/refresh" = base ++ "/user/auth/login" := by
    intro same
    have paths := (String.append_right_inj base).mp same
    contradiction
  simp [Session.after, grantOfExactly.mpr grants, refreshRequest, Request.logsIn, Request.refreshes, other]

theorem grantedAccess (grants : Granted answer fresh) : fresh.isAuthenticated = true := by
  obtain ⟨r, _, granted⟩ := grants
  obtain ⟨_, _, access, _, _, _, _, same⟩ := granted.tokens
  rw [same]
  rfl

end

/-- A request that what was said before it allows. A login is due while nothing is held, and once an answer to
a call has said that the session expired. -/
inductive Allowed (base : String) (credentials : Option Credentials) (past : List Exchange) :
    Request → Prop where
  | get {url token : String} (held : (heard base past).access = some token) :
      Allowed base credentials past (.get url (some token))
  | login {c : Credentials} (known : credentials = some c)
      (due : (heard base past).access = none ∨ ∃ e ∈ past, e.1.isGet = true ∧ Expired e.2) :
      Allowed base credentials past (loginRequest base c)
  | refresh {token : String} (held : (heard base past).refresh = some token) :
      Allowed base credentials past (refreshRequest base token)

inductive Disciplined (base : String) (credentials : Option Credentials) : List Exchange → Prop where
  | silent : Disciplined base credentials []
  | said {past : List Exchange} {e : Exchange} (before : Disciplined base credentials past)
      (allowed : Allowed base credentials past e.1) : Disciplined base credentials (past ++ [e])

namespace Disciplined
variable {base : String} {credentials : Option Credentials} {es earlier later : List Exchange} {e : Exchange}

-- Each request came last at its time, so the induction is on how the list was said.
theorem allowedAt (disciplined : Disciplined base credentials es) (cut : es = earlier ++ e :: later) :
    Disciplined base credentials earlier ∧ Allowed base credentials earlier e.1 := by
  induction disciplined generalizing later with
  | silent => simp at cut
  | @said past last before allowed ih =>
    cases List.eq_nil_or_concat later with
    | inl none =>
      rw [none] at cut
      obtain ⟨same, lastSame⟩ := List.append_inj' cut rfl
      rw [← same, ← List.head_eq_of_cons_eq lastSame]
      exact ⟨before, allowed⟩
    | inr more =>
      obtain ⟨init, final, shape⟩ := more
      rw [shape, List.concat_eq_append, ← List.cons_append, ← List.append_assoc] at cut
      exact ih (List.append_inj' cut rfl).1

theorem front (disciplined : Disciplined base credentials es) (cut : es = earlier ++ later) :
    Disciplined base credentials earlier := by
  cases later with
  | nil =>
    rw [List.append_nil] at cut
    exact cut ▸ disciplined
  | cons e rest => exact (disciplined.allowedAt cut).1

end Disciplined

section
variable {base url : String} {credentials : Option Credentials} {past es : List Exchange}
  (disciplined : Disciplined base credentials past)
include disciplined

theorem loginSaid {outcome : Except FetchError Session} (talk : LoggingIn base credentials es outcome)
    (due : (heard base past).access = none ∨ ∃ e ∈ past, e.1.isGet = true ∧ Expired e.2) :
    Disciplined base credentials (past ++ es) ∧
      heard base (past ++ es) = outcome.toOption.getD (heard base past) := by
  cases talk with
  | unknown absent => simpa [Except.toOption] using disciplined
  | @refused c answer e known ungranted =>
    have allowed := Allowed.login known due
    refine ⟨.said (e := (loginRequest base c, answer)) disciplined allowed, ?_⟩
    rw [heardSaid, afterUngranted _ ungranted]
    rfl
  | @granted c answer fresh known grants =>
    have allowed := Allowed.login known due
    refine ⟨.said (e := (loginRequest base c, answer)) disciplined allowed, ?_⟩
    rw [heardSaid, afterLogin c grants]
    rfl

theorem refreshSaid {outcome : Option Session} (talk : Refreshing base (heard base past) es outcome) :
    Disciplined base credentials (past ++ es) ∧
      heard base (past ++ es) = outcome.getD (heard base past) := by
  cases talk with
  | unheld absent => simpa using disciplined
  | @refused token answer held ungranted =>
    have allowed : Allowed base credentials past (refreshRequest base token) := .refresh held
    refine ⟨.said (e := (refreshRequest base token, answer)) disciplined allowed, ?_⟩
    rw [heardSaid, afterUngranted _ ungranted]
    rfl
  | @granted token answer fresh held grants =>
    have allowed : Allowed base credentials past (refreshRequest base token) := .refresh held
    refine ⟨.said (e := (refreshRequest base token, answer)) disciplined allowed, ?_⟩
    rw [heardSaid, afterRefresh token grants, held]
    rfl

theorem renewingSaid {outcome : Except FetchError Session}
    (talk : Renewing base credentials (heard base past) es outcome)
    (expired : ∃ e ∈ past, e.1.isGet = true ∧ Expired e.2) :
    Disciplined base credentials (past ++ es) ∧
      heard base (past ++ es) = outcome.toOption.getD (heard base past) := by
  cases talk with
  | refreshed refreshing => exact refreshSaid disciplined refreshing
  | @anew es fs outcome unrefreshed login =>
    obtain ⟨kept, same⟩ := refreshSaid disciplined unrefreshed
    obtain ⟨call, inside, isGet, answered⟩ := expired
    have due : ∃ e ∈ past ++ es, e.1.isGet = true ∧ Expired e.2 :=
      ⟨call, List.mem_append_left _ inside, isGet, answered⟩
    have said := loginSaid kept login (.inr due)
    rw [same] at said
    rwa [← List.append_assoc]

omit disciplined in
theorem renewedAccess {s fresh : Session} (talk : Renewing base credentials s es (.ok fresh)) :
    fresh.isAuthenticated = true := by
  cases talk with
  | refreshed refreshing =>
    cases refreshing with
    | granted held grants =>
      have access := grantedAccess grants
      exact access
  | anew unrefreshed login =>
    cases login with
    | granted known grants => exact grantedAccess grants

omit disciplined in
theorem getSaid (before : Disciplined base credentials past)
    (held : (heard base past).isAuthenticated = true) (url : String) (answer : Except FetchError Reply) :
    Disciplined base credentials (past ++ [(.get url (heard base past).access, answer)]) ∧
      heard base (past ++ [(.get url (heard base past).access, answer)]) = heard base past := by
  obtain ⟨token, access⟩ := Option.isSome_iff_exists.mp held
  refine ⟨.said before ?_, by rw [heardSaid, afterGet]⟩
  rw [access]
  exact .get access

end

theorem conversationSaid {base url : String} {credentials : Option Credentials} {left : Nat}
    {s t : Session} {past es : List Exchange} {outcome : Except FetchError Reply}
    (talk : Conversation base credentials url left s es t outcome)
    (disciplined : Disciplined base credentials past) (same : heard base past = s)
    (held : s.isAuthenticated = true) :
    Disciplined base credentials (past ++ es) ∧ heard base (past ++ es) = t := by
  induction talk generalizing past with
  | @final left s answer last =>
    subst same
    exact getSaid disciplined held url answer
  | @abandoned left s answer es e expired renewing =>
    subst same
    obtain ⟨asked, kept⟩ := getSaid disciplined held url answer
    have said := renewingSaid asked (kept.symm ▸ renewing)
      ⟨(.get url (heard base past).access, answer), by simp, rfl, expired⟩
    rw [List.append_assoc, kept] at said
    exact said
  | @repeated left s fresh t answer outcome es fs expired renewing again ih =>
    subst same
    obtain ⟨asked, kept⟩ := getSaid disciplined held url answer
    obtain ⟨renewed, opened⟩ := renewingSaid asked (kept.symm ▸ renewing)
      ⟨(.get url (heard base past).access, answer), by simp, rfl, expired⟩
    have said := ih renewed opened (renewedAccess renewing)
    simpa [List.append_assoc] using said

section
variable {base url : String} {credentials : Option Credentials} {s t : Session} {es : List Exchange}

theorem loginAsksNothing {outcome : Except FetchError Session}
    (talk : LoggingIn base credentials es outcome) : ∀ e ∈ es, e.1.isGet = false := by
  cases talk <;> simp [loginRequest, Request.isGet]

theorem renewingAsksNothing {outcome : Except FetchError Session}
    (talk : Renewing base credentials s es outcome) : ∀ e ∈ es, e.1.isGet = false := by
  have refresh {es : List Exchange} {outcome : Option Session} (talk : Refreshing base s es outcome) :
      ∀ e ∈ es, e.1.isGet = false := by
    cases talk <;> simp [refreshRequest, Request.isGet]
  cases talk with
  | refreshed refreshing => exact refresh refreshing
  | anew unrefreshed login =>
    intro e inside
    cases List.mem_append.mp inside with
    | inl first => exact refresh unrefreshed e first
    | inr second => exact loginAsksNothing login e second

theorem conversationAsks {left : Nat} {outcome : Except FetchError Reply}
    (talk : Conversation base credentials url left s es t outcome) :
    ∀ e ∈ es, e.1.isGet = true → ∃ bearer, e.1 = .get url bearer := by
  induction talk with
  | final last =>
    intro e inside asks
    rw [List.mem_singleton.mp inside]
    exact ⟨_, rfl⟩
  | abandoned expired renewing =>
    intro e inside asks
    cases List.mem_cons.mp inside with
    | inl first => exact ⟨_, by rw [first]⟩
    | inr renewal => simp [renewingAsksNothing renewing e renewal] at asks
  | repeated expired renewing again ih =>
    intro e inside asks
    cases List.mem_cons.mp inside with
    | inl first => exact ⟨_, by rw [first]⟩
    | inr rest =>
      cases List.mem_append.mp rest with
      | inl renewal => simp [renewingAsksNothing renewing e renewal] at asks
      | inr later => exact ih e later asks

end

inductive Connecting (base : String) (credentials : Option Credentials) (s : Session) :
    List Exchange → Option Session → Prop where
  | held (authenticated : s.isAuthenticated = true) : Connecting base credentials s [] (some s)
  | begun {es : List Exchange} {outcome : Except FetchError Session}
      (unheld : s.isAuthenticated = false) (login : LoggingIn base credentials es outcome) :
      Connecting base credentials s es outcome.toOption

inductive Asking (base : String) (credentials : Option Credentials) (url : String) (s : Session) :
    List Exchange → Session → Except FetchError Reply → Prop where
  | refused {es : List Exchange} {e : FetchError} (connecting : Connecting base credentials s es none) :
      Asking base credentials url s es s (.error e)
  | asked {es fs : List Exchange} {fresh t : Session} {outcome : Except FetchError Reply}
      (connecting : Connecting base credentials s es (some fresh))
      (conversation : Conversation base credentials url retries fresh fs t outcome) :
      Asking base credentials url s (es ++ fs) t outcome

section
variable {base url : String} {credentials : Option Credentials} {s t : Session} {past es : List Exchange}

theorem connectingAsksNothing {session : Option Session}
    (talk : Connecting base credentials s es session) : ∀ e ∈ es, e.1.isGet = false := by
  cases talk with
  | held authenticated => simp
  | begun unheld login => exact loginAsksNothing login

theorem askingAsks {outcome : Except FetchError Reply} (talk : Asking base credentials url s es t outcome) :
    ∀ e ∈ es, e.1.isGet = true → ∃ bearer, e.1 = .get url bearer := by
  intro e inside asks
  cases talk with
  | refused connecting => simp [connectingAsksNothing connecting e inside] at asks
  | asked connecting conversation =>
    cases List.mem_append.mp inside with
    | inl first => simp [connectingAsksNothing connecting e first] at asks
    | inr second => exact conversationAsks conversation e second asks

theorem connectedAccess {session : Option Session} (talk : Connecting base credentials s es session)
    {fresh : Session} (opened : session = some fresh) : fresh.isAuthenticated = true := by
  cases talk with
  | held authenticated =>
    cases opened
    exact authenticated
  | begun unheld login =>
    cases login with
    | unknown absent => contradiction
    | refused known ungranted => contradiction
    | granted known grants =>
      cases opened
      exact grantedAccess grants

theorem connectingSaid {session : Option Session} (disciplined : Disciplined base credentials past)
    (talk : Connecting base credentials (heard base past) es session) :
    Disciplined base credentials (past ++ es) ∧ heard base (past ++ es) = session.getD (heard base past) := by
  cases talk with
  | held authenticated =>
    rw [List.append_nil]
    exact ⟨disciplined, rfl⟩
  | begun unheld login =>
    have closed : (heard base past).access = none := by simpa [Session.isAuthenticated] using unheld
    exact loginSaid disciplined login (.inl closed)

theorem askingSaid {outcome : Except FetchError Reply} (disciplined : Disciplined base credentials past)
    (talk : Asking base credentials url (heard base past) es t outcome) :
    Disciplined base credentials (past ++ es) ∧ heard base (past ++ es) = t := by
  cases talk with
  | refused connecting => exact connectingSaid disciplined connecting
  | @asked es fs fresh _ _ connecting conversation =>
    obtain ⟨kept, opened⟩ := connectingSaid disciplined connecting
    have said := conversationSaid conversation kept opened (connectedAccess connecting rfl)
    rwa [List.append_assoc] at said

end

namespace Access
variable (a : Access)

theorem connectSays :
    ∃ es, a.wire.Exchanges a.connect.1.wire es ∧
      a.connect.1.base = a.base ∧ a.connect.1.credentials = a.credentials ∧
      match a.connect.2 with
      | .ok () => Connecting a.base a.credentials a.session es (some a.connect.1.session)
      | .error _ => Connecting a.base a.credentials a.session es none ∧ a.connect.1.session = a.session := by
  unfold connect
  split_ifs with held
  · exact ⟨[], .none _, rfl, rfl, .held held⟩
  · have unheld : a.session.isAuthenticated = false := by simpa using held
    cases known : a.credentials with
    | none => exact ⟨[], .none _, rfl, known, .begun unheld (.unknown rfl), rfl⟩
    | some c =>
      obtain ⟨es, exchanges, talk⟩ := loginSays a.wire a.base (some c) c rfl
      simp only
      generalize login a.wire a.base c = result at exchanges talk
      obtain ⟨w, outcome⟩ := result
      have connecting := Connecting.begun unheld talk
      cases outcome with
      | ok fresh => exact ⟨es, exchanges, rfl, rfl, connecting⟩
      | error e => exact ⟨es, exchanges, rfl, rfl, connecting, rfl⟩

theorem getSays (url : String) :
    ∃ es, a.wire.Exchanges (a.get url).1.wire es ∧
      (a.get url).1.base = a.base ∧ (a.get url).1.credentials = a.credentials ∧
      Asking a.base a.credentials url a.session es (a.get url).1.session (a.get url).2 := by
  obtain ⟨es, exchanges, sameBase, sameCredentials, connecting⟩ := a.connectSays
  unfold get
  generalize a.connect = connected at exchanges sameBase sameCredentials connecting
  obtain ⟨b, outcome⟩ := connected
  cases outcome with
  | error e =>
    obtain ⟨refused, same⟩ := connecting
    have unchanged : b.session = a.session := same
    refine ⟨es, exchanges, sameBase, sameCredentials, ?_⟩
    rw [unchanged]
    exact .refused refused
  | ok done =>
    obtain ⟨fs, more, conversation⟩ := fetchSays b.wire b.base url b.credentials b.session retries
    refine ⟨es ++ fs, exchanges.append more, sameBase, sameCredentials, ?_⟩
    simp only at sameBase sameCredentials connecting ⊢
    rw [← sameBase, ← sameCredentials] at connecting ⊢
    exact .asked connecting conversation

end Access

inductive Call where
  | connect
  | document (url : String)
  | probe (url : String)
  deriving DecidableEq, Repr

namespace Call

def url? : Call → Option String
  | connect => none
  | document url => some url
  | probe url => some url

def on (a : Access) : Call → Access
  | connect => a.connect.1
  | document url => (a.document url).1
  | probe url => (a.probe url).1

end Call

def Access.after (a : Access) (calls : List Call) : Access := calls.foldl Call.on a

structure Access.Said (a : Access) (start : Wire) (base : String) (credentials : Option Credentials)
    (es : List Exchange) : Prop where
  sameBase : a.base = base
  sameCredentials : a.credentials = credentials
  exchanges : start.Exchanges a.wire es
  disciplined : Disciplined base credentials es
  session : heard base es = a.session

namespace Access.Said
variable {a : Access} {start : Wire} {base : String} {credentials : Option Credentials}
  {past : List Exchange} (said : a.Said start base credentials past)
include said

theorem connect : ∃ es, a.wire.Exchanges a.connect.1.wire es ∧
    a.connect.1.Said start base credentials (past ++ es) ∧ ∀ e ∈ es, e.1.isGet = false := by
  obtain ⟨rfl, rfl, all, disciplined, session⟩ := said
  obtain ⟨es, exchanges, sameBase, sameCredentials, connecting⟩ := a.connectSays
  generalize a.connect = connected at exchanges sameBase sameCredentials connecting
  obtain ⟨b, outcome⟩ := connected
  rw [← session] at connecting
  refine ⟨es, exchanges, ?_⟩
  cases outcome with
  | ok done =>
    obtain ⟨kept, opened⟩ := connectingSaid disciplined connecting
    exact ⟨⟨sameBase, sameCredentials, all.append exchanges, kept, opened⟩, connectingAsksNothing connecting⟩
  | error e =>
    obtain ⟨refused, same⟩ := connecting
    obtain ⟨kept, closed⟩ := connectingSaid disciplined refused
    exact ⟨⟨sameBase, sameCredentials, all.append exchanges, kept, closed.trans same.symm⟩,
      connectingAsksNothing refused⟩

theorem get (url : String) : ∃ es, a.wire.Exchanges (a.get url).1.wire es ∧
    (a.get url).1.Said start base credentials (past ++ es) ∧
    ∀ e ∈ es, e.1.isGet = true → ∃ bearer, e.1 = .get url bearer := by
  obtain ⟨rfl, rfl, all, disciplined, session⟩ := said
  obtain ⟨es, exchanges, sameBase, sameCredentials, asking⟩ := a.getSays url
  rw [← session] at asking
  obtain ⟨kept, later⟩ := askingSaid disciplined asking
  exact ⟨es, exchanges, ⟨sameBase, sameCredentials, all.append exchanges, kept, later⟩, askingAsks asking⟩

theorem call (c : Call) : ∃ es, a.wire.Exchanges (c.on a).wire es ∧
    (c.on a).Said start base credentials (past ++ es) ∧
    ∀ e ∈ es, ∀ url bearer, e.1 = .get url bearer → c.url? = some url := by
  have asked {url : String} {es : List Exchange}
      (asks : ∀ e ∈ es, e.1.isGet = true → ∃ bearer, e.1 = .get url bearer) :
      ∀ e ∈ es, ∀ url' bearer, e.1 = .get url' bearer → some url = some url' := by
    intro e inside url' bearer same
    obtain ⟨_, other⟩ := asks e inside (by rw [same]; rfl)
    rw [same] at other
    cases other
    rfl
  cases c with
  | connect =>
    obtain ⟨es, exchanges, kept, silent⟩ := said.connect
    refine ⟨es, exchanges, kept, fun e inside url bearer same => ?_⟩
    have quiet := silent e inside
    rw [same] at quiet
    contradiction
  | document url =>
    obtain ⟨es, exchanges, kept, asks⟩ := said.get url
    exact ⟨es, exchanges, kept, asked asks⟩
  | probe url =>
    obtain ⟨es, exchanges, kept, asks⟩ := said.get url
    exact ⟨es, exchanges, kept, asked asks⟩

theorem after (calls : List Call) : ∃ es, a.wire.Exchanges (a.after calls).wire es ∧
    (a.after calls).Said start base credentials (past ++ es) := by
  induction calls generalizing a past with
  | nil => exact ⟨[], .none _, by rwa [List.append_nil]⟩
  | cons c rest ih =>
    obtain ⟨es, exchanges, kept, _⟩ := said.call c
    obtain ⟨fs, more, later⟩ := ih kept
    exact ⟨es ++ fs, exchanges.append more, by rwa [← List.append_assoc]⟩

end Access.Said

end ApiScreens.Server
