import ApiScreens.Proofs.Domain.Rewrite
import ApiScreens.Proofs.Output.Frame

/-! The domains of one run and what is reported of each. They share a session and a directory, yet a domain
touches no file but that of its own name, so what it wrote is still there when the run ends. -/
namespace ApiScreens
open Files ApiScreens.Path
open Server (Access)

namespace DomainOptions
variable (o : DomainOptions)

def configPath (domain : String) : String := append o.directory (configFile domain)

def solutionOf (domain : String) (doc : Document) : Solution := Solution.ofDocument doc o.heuristics domain

theorem configComponent {domain : String} (whole : '/' ∉ domain.toList) : Component (configFile domain) :=
  componentOfMark (c := 'j') (by simp [configFile, whole]) (by simp [configFile]) (by decide)

theorem configPlace (start : Location) {domain : String} (whole : '/' ∉ domain.toList) :
    Disk.locationOf start (o.configPath domain) = Disk.locationOf start o.directory ++ [configFile domain] :=
  Disk.locationBehind start o.directory (configComponent whole)

theorem configApart (start : Location) {domain other : String} (whole : '/' ∉ domain.toList)
    (wholeOther : '/' ∉ other.toList) (differs : domain ≠ other) :
    Disk.locationOf start (o.configPath domain) ≠ Disk.locationOf start (o.configPath other) := by
  rw [o.configPlace start whole, o.configPlace start wholeOther]
  intro same
  exact differs (configFileInjective (by simpa using same))

/-- What a domain may do to the files, and what is reported of it. -/
inductive Turn (w : Workspace) (a : Access) (domain url : String) : Tree → DomainReport → Prop where
  | unfetched {e : Server.FetchError} {r : DomainReport} (refused : (a.document url).2 = .error e)
      (named : r.domain = domain) (failed : r.error = some (.fetch e)) (nowhere : r.configPath = none) :
      Turn w a domain url w.tree r
  | unwritten {v : Workspace} {doc : Document} {e : WriteError} {r : DomainReport} (same : v.tree = w.tree)
      (fetched : (a.document url).2 = .ok doc)
      (refused : (v.writeDomain o.directory domain (o.solutionOf domain doc)).2 = .error e)
      (named : r.domain = domain) (failed : r.error = some (.write e)) (nowhere : r.configPath = none) :
      Turn w a domain url (v.writeDomain o.directory domain (o.solutionOf domain doc)).1.tree r
  | written {v : Workspace} {doc : Document} {outcome : WriteOutcome} {r : DomainReport}
      (same : v.tree = w.tree) (fetched : (a.document url).2 = .ok doc)
      (done : (v.writeDomain o.directory domain (o.solutionOf domain doc)).2 = .ok outcome)
      (named : r.domain = domain) (clean : r.error = none)
      (place : r.configPath = some outcome.writtenPath) :
      Turn w a domain url (v.writeDomain o.directory domain (o.solutionOf domain doc)).1.tree r

section
variable {o} {w : Workspace} {a : Access} {domain url : String} {u : Tree} {r : DomainReport}

theorem Turn.retold (turn : Turn o w a domain url u r) {t : Tree} {s : DomainReport} (tree : t = u)
    (named : s.domain = r.domain) (error : s.error = r.error) (path : s.configPath = r.configPath) :
    Turn o w a domain url t s := by
  subst tree
  cases turn with
  | unfetched refused name failed nowhere =>
    exact .unfetched refused (named.trans name) (error.trans failed) (path.trans nowhere)
  | unwritten same fetched refused name failed nowhere =>
    exact .unwritten same fetched refused (named.trans name) (error.trans failed) (path.trans nowhere)
  | written same fetched done name clean place =>
    exact .written same fetched done (named.trans name) (error.trans clean) (path.trans place)

theorem withErrorTree (w : Workspace) (r : DomainReport) : (withError w r).tree = w.tree := by
  unfold withError
  split <;> rfl

theorem Turn.probed {v : Workspace} (turn : Turn o w a domain url v.tree r) (b : Access) (base : String)
    (doc : Document) :
    Turn o w a domain url (o.probed v b base doc r).1.tree (o.probed v b base doc r).2.2 := by
  unfold DomainOptions.probed
  split
  · exact turn.retold rfl rfl rfl rfl
  · exact turn

theorem writeDocumentTurn {v : Workspace} {doc : Document} (same : v.tree = w.tree)
    (fetched : (a.document url).2 = .ok doc) :
    Turn o w a domain url (o.writeDocument v domain doc).1.tree (o.writeDocument v domain doc).2 := by
  generalize written : v.writeDomain o.directory domain (Solution.ofDocument doc o.heuristics domain) = result
  have tree := congrArg (fun x => x.1.tree) written
  have reported := congrArg (fun x => x.2) written
  obtain ⟨u, outcome⟩ := result
  unfold writeDocument
  simp only [written]
  cases outcome with
  | error e => exact (Turn.unwritten same fetched reported rfl rfl rfl).retold tree.symm rfl rfl rfl
  | ok outcome => exact (Turn.written same fetched reported rfl rfl rfl).retold tree.symm rfl rfl rfl

theorem runDomainTurn (base : String) (w : Workspace) (a : Access) (domain url : String) :
    Turn o w a domain url (o.runDomain base w a domain url).1.tree
      (o.runDomain base w a domain url).2.2 := by
  generalize answered : a.document url = result
  have reported := congrArg (fun x => x.2) answered
  obtain ⟨b, answer⟩ := result
  unfold runDomain
  rw [answered]
  cases answer with
  | error e =>
    have turn : Turn o w a domain url w.tree { domain, error := some (.fetch e) } :=
      .unfetched reported rfl rfl rfl
    exact turn.retold (withErrorTree _ _) rfl rfl rfl
  | ok doc =>
    have turn : Turn o w a domain url _ _ :=
      writeDocumentTurn (v := w.print ("\n📡 [" ++ domain ++ "] fetching " ++ url)) rfl reported
    simp only
    generalize o.writeDocument _ domain doc = made at turn ⊢
    obtain ⟨v, r⟩ := made
    exact (turn.retold (withErrorTree v r) rfl rfl rfl).probed b base doc

theorem Turn.spares (turn : Turn o w a domain url u r) {l : Location} {c : Contents}
    (held : w.tree.fileAt l = some c) (other : l ≠ Disk.locationOf w.tree.base (o.configPath domain)) :
    Tree.Spares (· ≠ l) w.tree u := by
  have elsewhere {v : Workspace} (same : v.tree = w.tree) (s : Solution) :
      Tree.Spares (· ≠ l) w.tree (v.writeDomain o.directory domain s).1.tree := by
    rw [← same] at held other ⊢
    exact v.writeElsewhere (f := Workspace.configText o.directory domain s) held other
  cases turn with
  | unfetched => exact .refl _ _
  | unwritten same => exact elsewhere same _
  | written same => exact elsewhere same _

theorem Turn.named (turn : Turn o w a domain url u r) : r.domain = domain := by
  cases turn with
  | unfetched refused named => exact named
  | unwritten same fetched refused named => exact named
  | written same fetched done named => exact named

theorem Turn.paired (turn : Turn o w a domain url u r) : r.error.isSome ↔ r.configPath = none := by
  cases turn with
  | unfetched refused named failed nowhere => simp [failed, nowhere]
  | unwritten same fetched refused named failed nowhere => simp [failed, nowhere]
  | written same fetched done named clean place => simp [clean, place]

theorem Turn.unchanged (turn : Turn o w a domain url u r) (failed : r.error.isSome) (k : Location) :
    u.fileAt k = w.tree.fileAt k := by
  cases turn with
  | unfetched => rfl
  | @unwritten v doc e r same fetched refused named =>
    have effect := v.writeEffect (Workspace.configText o.directory domain (o.solutionOf domain doc))
    rw [← Workspace.writeDomainText, refused] at effect
    cases effect with
    | failed files => rw [files k, same]
  | written same fetched done named clean => simp [clean] at failed

theorem Turn.holds (turn : Turn o w a domain url u r) (clean : r.error = none) :
    r.configPath = some (o.configPath domain) ∧ ∃ doc l, (a.document url).2 = .ok doc ∧
      u.locate (o.configPath domain) =
        .ok (.present l (.file (.text (o.solutionOf domain doc).toJson.pretty))) := by
  cases turn with
  | unfetched refused named failed => simp [failed] at clean
  | unwritten same fetched refused named failed => simp [failed] at clean
  | @written v doc outcome r same fetched done named _ place =>
    have effect := v.writeEffect (Workspace.configText o.directory domain (o.solutionOf domain doc))
    have path := (Workspace.writtenLands done).overwritten rfl
    rw [← Workspace.writeDomainText, done] at effect
    obtain ⟨l, text⟩ := Workspace.effectText effect
    rw [path] at text place
    exact ⟨place, doc, l, fetched, text⟩

end

/-- What the report of a domain says of the files after its turn and of those at the end of the run. -/
structure Settled (w : Workspace) (a : Access) (domain url : String) (after final : Tree)
    (r : DomainReport) : Prop where
  failed : r.error.isSome → ∀ k, after.fileAt k = w.tree.fileAt k
  written : r.error = none → r.configPath = some (o.configPath domain) ∧
    ∃ doc, (a.document url).2 = .ok doc ∧
      final.readText (o.configPath domain) = .ok (o.solutionOf domain doc).toJson.pretty

section
variable (base : String) (w : Workspace) (a : Access)

theorem runAllCons (domain url : String) (rest : List (String × String)) :
    o.runAll base w a ((domain, url) :: rest) =
      let (v, b, r) := o.runDomain base w a domain url
      let (u, c, more) := o.runAll base v b rest
      (u, c, r :: more) := rfl

theorem runAllAppend (before after : List (String × String)) :
    o.runAll base w a (before ++ after) =
      let (v, b, first) := o.runAll base w a before
      let (u, c, more) := o.runAll base v b after
      (u, c, first ++ more) := by
  induction before generalizing w a with
  | nil => rfl
  | cons d rest ih =>
    obtain ⟨domain, url⟩ := d
    rw [List.cons_append, runAllCons, runAllCons]
    simp only [ih, List.cons_append]

theorem runAllNamed (domains : List (String × String)) :
    (o.runAll base w a domains).2.2.map (·.domain) = domains.map (·.1) := by
  induction domains generalizing w a with
  | nil => rfl
  | cons d rest ih =>
    obtain ⟨domain, url⟩ := d
    rw [runAllCons, List.map_cons]
    simp only [List.map_cons, ih]
    rw [(runDomainTurn base w a domain url).named]

theorem runAllPaired (domains : List (String × String)) :
    ∀ r ∈ (o.runAll base w a domains).2.2, r.error.isSome ↔ r.configPath = none := by
  induction domains generalizing w a with
  | nil => simp [runAll]
  | cons d rest ih =>
    obtain ⟨domain, url⟩ := d
    intro r inside
    rw [runAllCons] at inside
    cases List.mem_cons.mp inside with
    | inl first =>
      subst first
      exact (runDomainTurn base w a domain url).paired
    | inr later => exact ih _ _ r later

theorem runAllSpares {domains : List (String × String)} {l : Location} {c : Contents}
    (held : w.tree.fileAt l = some c)
    (others : ∀ d ∈ domains, l ≠ Disk.locationOf w.tree.base (o.configPath d.1)) :
    Tree.Spares (· ≠ l) w.tree (o.runAll base w a domains).1.tree := by
  induction domains generalizing w a with
  | nil => exact .refl _ _
  | cons d rest ih =>
    obtain ⟨domain, url⟩ := d
    have first := (runDomainTurn (o := o) base w a domain url).spares held
      (others (domain, url) List.mem_cons_self)
    have still := first.files l (by simp)
    rw [runAllCons]
    refine first.trans (ih _ _ (still.trans held) fun d inside => ?_)
    rw [first.base]
    exact others d (List.mem_cons_of_mem _ inside)

theorem runAllSettled {domains : List (String × String)} (whole : ∀ d ∈ domains, '/' ∉ d.1.toList)
    (distinct : (domains.map (·.1)).Nodup) {before after : List (String × String)} {domain url : String}
    (turn : domains = before ++ (domain, url) :: after) :
    let (v, b, _) := o.runAll base w a before
    let (u, _, r) := o.runDomain base v b domain url
    (o.runAll base w a domains).2.2[before.length]? = some r ∧
      o.Settled v b domain url u.tree (o.runAll base w a domains).1.tree r := by
  have count : (o.runAll base w a before).2.2.length = before.length := by
    simpa using congrArg List.length (o.runAllNamed base w a before)
  subst turn
  rw [runAllAppend]
  generalize o.runAll base w a before = reached at count
  obtain ⟨v, b, first⟩ := reached
  have own := runDomainTurn (o := o) base v b domain url
  simp only [runAllCons]
  generalize o.runDomain base v b domain url = done at own
  obtain ⟨u, c, r⟩ := done
  refine ⟨?_, own.unchanged, fun clean => ?_⟩
  · rw [← count]
    simp
  · obtain ⟨path, doc, l, fetched, text⟩ := own.holds clean
    have place : l = Disk.locationOf u.tree.base (o.configPath domain) :=
      Disk.followLocation (Tree.locateFollow text)
    have held := Tree.fileAtSome.mpr (Tree.followEntry (Tree.locateFollow text))
    have later : Tree.Spares (· ≠ l) u.tree (o.runAll base u c after).1.tree := by
      refine o.runAllSpares base u c held fun d inside => ?_
      rw [place]
      refine o.configApart u.tree.base (whole (domain, url) (by simp)) (whole d (by simp [inside])) ?_
      rw [List.map_append, List.map_cons] at distinct
      have once := (List.nodup_cons.mp (List.nodup_append.mp distinct).2.1).1
      exact fun same => once (List.mem_map.mpr ⟨d, inside, same.symm⟩)
    exact ⟨path, doc, fetched, Tree.readTextExactly.mpr ⟨l, later.locateText (by simp) text⟩⟩

end

theorem selectedListed {env : Environment} {name : Option String} {domains : List (String × String)}
    (selected : env.select name = .ok domains) :
    (∀ d ∈ domains, d.1 ∈ env.domains.keys) ∧ (domains.map (·.1)).Nodup := by
  cases name with
  | none =>
    simp only [Environment.select] at selected
    split_ifs at selected
    cases selected
    exact ⟨fun d inside => List.mem_map_of_mem inside, SortedMap.keysNodup env.domains⟩
  | some name =>
    simp only [Environment.select] at selected
    cases known : env.domains.get? (Text.lower name) with
    | none =>
      rw [known] at selected
      contradiction
    | some url =>
      rw [known] at selected
      cases selected
      have listed := List.mem_map_of_mem (f := (·.1)) (SortedMap.entryOfGet.mp known)
      exact ⟨fun d inside => by rwa [List.mem_singleton.mp inside], by simp⟩

theorem domainsReported {env : Environment} (names : ∀ d ∈ env.domains.keys, '/' ∉ d.toList)
    (w : Workspace) (a : Access) {domains : List (String × String)}
    (selected : env.select o.domain = .ok domains) :
    ∃ reports, (o.run env w a).2.2 = .ok ⟨reports⟩ ∧
      reports.map (·.domain) = domains.map (·.1) ∧
      (∀ r ∈ reports, r.error.isSome ↔ r.configPath = none) ∧
      ∀ before domain url after, domains = before ++ (domain, url) :: after →
        let (v, b, _) := o.runAll env.baseUrl w a before
        let (u, _, r) := o.runDomain env.baseUrl v b domain url
        reports[before.length]? = some r ∧
          o.Settled v b domain url u.tree (o.run env w a).1.tree r := by
  obtain ⟨listed, distinct⟩ := selectedListed selected
  have whole : ∀ d ∈ domains, '/' ∉ d.1.toList := fun d inside => names d.1 (listed d inside)
  unfold run
  simp only [selected]
  exact ⟨_, rfl, o.runAllNamed env.baseUrl w a domains, o.runAllPaired env.baseUrl w a domains,
    fun before domain url after turn => o.runAllSettled env.baseUrl w a whole distinct turn⟩

def oneAnswered : Access where
  base := "http://api"
  credentials := none
  session := { access := some "token" }
  wire := { answers := fun n => if n = 0 then .ok ⟨200, "\x7b\"paths\": \x7b\x7d\x7d"⟩ else .error .unreachable }

theorem twoDomainsReported :
    let env : Environment :=
      ⟨"http://api", none, ⟨[("orders", "http://api/orders"), ("users", "http://api/users")], by decide⟩⟩
    let before := (runDomain {} env.baseUrl {} oneAnswered "orders" "http://api/orders").1.tree
    let final := (run {} env {} oneAnswered).1.tree
    (∀ d ∈ env.domains.keys, '/' ∉ d.toList) ∧
      env.select none = .ok [("orders", "http://api/orders"), ("users", "http://api/users")] ∧
      ∃ orders users, (run {} env {} oneAnswered).2.2 = .ok ⟨[orders, users]⟩ ∧
        orders.error = none ∧ orders.configPath = some "configs/orders.json" ∧
        final.readText "configs/orders.json" =
          .ok (solutionOf {} "orders" ⟨.object [("paths", .object [])]⟩).toJson.pretty ∧
        users.error = some (.fetch .unreachable) ∧ users.configPath = none ∧
        ∀ k, final.fileAt k = before.fileAt k := by
  intro env before final
  have names : ∀ d ∈ env.domains.keys, '/' ∉ d.toList := by decide
  have selected : env.select none =
      .ok [("orders", "http://api/orders"), ("users", "http://api/users")] := by decide
  have fetched : (oneAnswered.document "http://api/orders").2 = .ok ⟨.object [("paths", .object [])]⟩ := by
    decide +kernel
  have clean : (runDomain {} env.baseUrl {} oneAnswered "orders" "http://api/orders").2.2.error = none := by
    decide +kernel
  have failed : (let (v, b, _) := runDomain {} env.baseUrl {} oneAnswered "orders" "http://api/orders"
      runDomain {} env.baseUrl v b "users" "http://api/users").2.2.error = some (.fetch .unreachable) := by
    decide +kernel
  subst before final
  -- the two turns are known now, so that nothing has to be computed below
  generalize oneAnswered = a at *
  obtain ⟨reports, done, named, paired, settled⟩ := domainsReported {} names {} a selected
  have first := settled [] "orders" "http://api/orders" _ rfl
  have second := settled [("orders", "http://api/orders")] "users" "http://api/users" [] rfl
  have last : (run {} env {} a).1 =
      (runAll {} env.baseUrl {} a [("orders", "http://api/orders"), ("users", "http://api/users")]).1 := by
    simp only [run, selected]
  rw [last] at first second ⊢
  simp only [runAll] at first second failed ⊢
  generalize runDomain {} env.baseUrl {} a "orders" "http://api/orders" = turn at *
  obtain ⟨v, b, r⟩ := turn
  simp only at first second failed ⊢
  generalize runDomain {} env.baseUrl v b "users" "http://api/users" = turn at *
  obtain ⟨u, c, s⟩ := turn
  obtain ⟨here, orders⟩ := first
  obtain ⟨there, users⟩ := second
  obtain ⟨x, y, rfl⟩ := List.length_eq_two.mp (by simpa using congrArg List.length named : reports.length = 2)
  obtain rfl : x = r := Option.some.inj here
  obtain rfl : y = s := Option.some.inj there
  have unreached : y.error.isSome := by
    rw [show y.error = _ from failed]
    rfl
  obtain ⟨place, doc, answer, text⟩ := orders.written clean
  cases fetched.symm.trans answer
  exact ⟨names, selected, x, y, done, clean, place, text, failed, (paired y (by simp)).mp unreached,
    users.failed unreached⟩

end DomainOptions
end ApiScreens
