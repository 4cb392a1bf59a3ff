import ApiScreens.Settings.Environment
import ApiScreens.Proofs.SortedMap

/-! The order in which an environment lists its variables. A name that is listed once has one value wherever it
stands; but domain names are folded to lower case, and of two variables that name one domain the last counts. -/
namespace ApiScreens.Environment
variable {vars other : Variables}

theorem effectiveListed (order : other.Perm vars) (x : String × String) :
    x ∈ effective other ↔ x ∈ effective vars :=
  (order.filter _).mem_iff

section
variable (distinct : (vars.map (·.1)).Nodup)
include distinct

theorem valueListed {name v : String} : valueOf? vars name = some v ↔ (name, v) ∈ effective vars := by
  have reversed : ((effective vars).reverse.map (·.1)).Nodup := by
    rw [List.map_reverse, List.nodup_reverse]
    exact distinct.sublist (List.filter_sublist.map _)
  rw [valueOf?, lookupListed reversed, List.mem_reverse]

theorem valueReordered (order : other.Perm vars) (name : String) : valueOf? other name = valueOf? vars name := by
  have distinctToo : (other.map (·.1)).Nodup := (order.map (·.1)).nodup_iff.mpr distinct
  refine Option.ext fun v => ?_
  rw [valueListed distinct, valueListed distinctToo, effectiveListed order]

theorem credentialsReordered (order : other.Perm vars) : credentialsOf other = credentialsOf vars := by
  simp only [credentialsOf, valueReordered distinct order]

end

def documents (vars : Variables) : List (String × String) :=
  (effective vars).filterMap fun x => (domainOf? x.1).map (·, x.2)

theorem documentListed {domain url : String} :
    (domain, url) ∈ documents vars ↔ ∃ name, (name, url) ∈ effective vars ∧ domainOf? name = some domain := by
  simp only [documents, List.mem_filterMap, Option.map_eq_some_iff, Prod.mk.injEq, Prod.exists]
  constructor
  · rintro ⟨name, v, listed, d, named, rfl, rfl⟩
    exact ⟨name, listed, named⟩
  · rintro ⟨name, listed, named⟩
    exact ⟨name, url, listed, domain, named, rfl, rfl⟩

/-- Variables that are set and name the same domain name the same document. -/
def DomainsAgree (vars : Variables) : Prop :=
  ∀ x ∈ effective vars, ∀ y ∈ effective vars, (domainOf? x.1).isSome → domainOf? x.1 = domainOf? y.1 → x.2 = y.2

instance (vars : Variables) : Decidable (DomainsAgree vars) := by unfold DomainsAgree; infer_instance

theorem documentsAgree (agree : DomainsAgree vars) :
    ∀ p ∈ documents vars, ∀ q ∈ documents vars, p.1 = q.1 → p.2 = q.2 := by
  intro p first q second same
  obtain ⟨m, left, named⟩ := documentListed.mp first
  obtain ⟨n, right, again⟩ := documentListed.mp second
  refine agree (m, p.2) left (n, q.2) right (by rw [named]; rfl) ?_
  rw [named, again, same]

theorem domainsReordered (agree : DomainsAgree vars) (order : other.Perm vars) : domainsOf other = domainsOf vars := by
  refine SortedMap.ofListSame (documentsAgree agree) fun ⟨domain, url⟩ => ?_
  have reordered : (domain, url) ∈ documents other ↔ (domain, url) ∈ documents vars := by
    simp only [documentListed, effectiveListed order]
  exact reordered

theorem domainLast {x : String × String} {domain : String} (before : Variables) (set : Text.trim x.2 ≠ "")
    (named : domainOf? x.1 = some domain) : (domainsOf (before ++ [x])).get? domain = some x.2 := by
  have last : documents (before ++ [x]) = documents before ++ [(domain, x.2)] := by
    simp [documents, effective, set, named]
  have same : domainsOf (before ++ [x]) = .ofList (documents (before ++ [x])) := rfl
  rw [same, last, SortedMap.getOfList, List.findRev?_eq_find?_reverse]
  simp

theorem domainsOfRead {env : Environment} (read : ofVariables vars = .ok env) : env.domains = domainsOf vars := by
  unfold ofVariables at read
  split at read
  · cases read
  · dsimp only at read
    split at read
    · cases read
      rfl
    · cases read

theorem refusedReordered (distinct : (vars.map (·.1)).Nodup) (order : other.Perm vars) {e : SettingsError}
    (refused : ofVariables vars = .error e) : ofVariables other = .error e := by
  unfold ofVariables at refused ⊢
  rw [valueReordered distinct order]
  split at refused
  · exact refused
  · dsimp only at refused ⊢
    split at refused
    · cases refused
    · rename_i foreign
      rwa [if_neg foreign]

theorem variablesReordered (distinct : (vars.map (·.1)).Nodup) :
    (∀ other : Variables, other.Perm vars → ofVariables other = ofVariables vars) ↔
      (∃ e, ofVariables vars = .error e) ∨ DomainsAgree vars := by
  constructor
  · intro same
    cases read : ofVariables vars with
    | error e => exact .inl ⟨e, rfl⟩
    | ok env =>
      refine .inr fun x first y second isDomain folded => ?_
      obtain ⟨domain, named⟩ := Option.isSome_iff_exists.mp isDomain
      -- each of the two may stand last
      have decides {z : String × String} (listed : z ∈ effective vars) (named : domainOf? z.1 = some domain) :
          env.domains.get? domain = some z.2 := by
        obtain ⟨inside, set⟩ := List.mem_filter.mp listed
        obtain ⟨front, back, split⟩ := List.append_of_mem inside
        have order : (front ++ back ++ [z]).Perm vars := by
          rw [split]
          simpa using (List.perm_append_singleton z back).append_left front
        have moved := (same _ order).trans read
        rw [domainsOfRead moved]
        exact domainLast _ (by simpa using set) named
      have one := (decides first named).symm.trans (decides second (folded ▸ named))
      exact Option.some.inj one
  · rintro (⟨e, refused⟩ | agree) other order
    · rw [refused, refusedReordered distinct order refused]
    · simp only [ofVariables, valueReordered distinct order, credentialsReordered distinct order,
        domainsReordered agree order]

theorem salesReordered :
    let vars : Variables :=
      [("SWAGGER_URL_SALES", "http://docs/sales"), ("SWAGGER_API_BASE_URL", "http://docs/"), ("SWAGGER_URL_sales", " "),
        ("SWAGGER_USERNAME", "reader"), ("SWAGGER_URL_STOCK", "http://docs/stock"), ("SWAGGER_PASSWORD", "secret")]
    (vars.map (·.1)).Nodup ∧ ofVariables vars.reverse = ofVariables vars := by
  intro vars
  have distinct : (vars.map (·.1)).Nodup := by decide +kernel
  have agree : DomainsAgree vars := by decide +kernel
  exact ⟨distinct, (variablesReordered distinct).mpr (.inr agree) _ vars.reverse_perm⟩

theorem foldedNameDecides :
    let vars : Variables := [("SWAGGER_API_BASE_URL", "http://docs"), ("SWAGGER_URL_SALES", "old"),
      ("SWAGGER_URL_sales", "new")]
    let other : Variables := [("SWAGGER_API_BASE_URL", "http://docs"), ("SWAGGER_URL_sales", "new"),
      ("SWAGGER_URL_SALES", "old")]
    (vars.map (·.1)).Nodup ∧ other.Perm vars ∧ ofVariables other ≠ ofVariables vars := by
  refine ⟨by decide, by decide, fun same => ?_⟩
  have read := congrArg Except.toOption same
  revert read
  decide +kernel

end ApiScreens.Environment
