import AdExchange.Proofs.Ascending
import AdExchange.Proofs.Results
import AdExchange.Scope.Basic

/-!
# What scoping comes to, name by name

Every name of a request contributes on its own: the requests of a successful scoping are those of
the single names, in the order of the names.  As no name is there twice, a name has at most one
request.
-/

namespace AdExchange

namespace BidRequest

theorem nodup_partnerNames (r : BidRequest) : r.partnerNames.Nodup := nodup_eraseDups _

/-- A name comes up if an imp has parameters for it. -/
theorem mem_partnerNames {r : BidRequest} {name : String} :
    name ∈ r.partnerNames ↔ ∃ imp ∈ r.imps, (imp.fragment? name).isSome := by
  simp only [partnerNames, List.mem_eraseDups, List.mem_flatMap, Imp.fragment?, Dictionary.get?,
    Dictionary.keys, List.lookup_isSome_iff, List.mem_map, beq_iff_eq, eq_comm (a := name)]

/-- Site, app and user once fragments are merged into them. -/
def mergedSections (r : BidRequest) (f : OrtbFragments) :
    Except AuctionError (Option Site × Option App × Option User) := do
  let site ← mergeSection .site Site.read? Site.toJson r.site f.site
  let app ← mergeSection .app App.read? App.toJson r.app f.app
  let user ← mergeSection .user User.read? User.toJson r.user f.user
  if site.isSome ∧ app.isSome then .error .siteAndApp else .ok (site, app, user)

/-- Merging fragments touches no other section, and it depends on no other section. -/
theorem mergeFragments_eq (r : BidRequest) (f : OrtbFragments) :
    r.mergeFragments f = (fun merged => { r with
      site := merged.1
      app := merged.2.1
      user := merged.2.2 }) <$> r.mergedSections f := by
  simp only [mergeFragments, mergedSections]
  cases mergeSection .site Site.read? Site.toJson r.site f.site with
  | error e => rfl
  | ok site =>
    cases mergeSection .app App.read? App.toJson r.app f.app with
    | error e => rfl
    | ok app =>
      cases mergeSection .user User.read? User.toJson r.user f.user with
      | error e => rfl
      | ok user =>
        simp only [ok_bind]
        split <;> rfl

/-- Neither leaving out first-party data nor merging fragments touches anything but site, app and
user. -/
theorem eq_of_sectionsFor {r own : BidRequest} {partner : String}
    (h : r.sectionsFor partner = .ok own) :
    own = { r with site := own.site, app := own.app, user := own.user } := by
  rw [sectionsFor] at h
  split at h
  · split at h
    · next f _ =>
      rw [mergeFragments_eq] at h
      cases hm : r.mergedSections f with
      | error e => simp [hm] at h
      | ok merged =>
        rw [hm] at h
        cases h
        rfl
    · cases h
      rfl
  · cases h
    rfl

theorem imps_of_sectionsFor {r own : BidRequest} {partner : String}
    (h : r.sectionsFor partner = .ok own) : own.imps = r.imps := by
  rw [eq_of_sectionsFor h]

/-- A partner's view of a request has the imps that name the partner. -/
theorem imps_of_scopeFor {r own : BidRequest} {partner code : String} {multibid : Option MultiBid}
    (h : r.scopeFor partner code multibid = .ok own) :
    own.imps = r.impsFor partner (r.mayUseData partner) := by
  obtain ⟨sections, hsections, h⟩ := bind_eq_ok_iff.1 h
  refine Eq.trans ?_ (imps_of_sectionsFor hsections)
  cases h
  cases (r.prebid?.bind (·.data)).bind (·.eidPermissions) <;> cases r.schainFor? partner <;> rfl

@[simp] theorem imps_masked (r : BidRequest) (decision : Option PrivacyDecision) :
    (r.masked decision).imps = r.imps := by
  cases decision with
  | none => rfl
  | some d =>
    rw [masked]
    split <;> rfl

/-- An imp that a partner sees is an imp of the request that names the partner. -/
theorem exists_imp_of_mem_impsFor {r : BidRequest} {partner : String} {mayUseData : Bool}
    {imp : Imp} (h : imp ∈ r.impsFor partner mayUseData) :
    ∃ original ∈ r.imps, original.id = imp.id ∧ (original.fragment? partner).isSome := by
  obtain ⟨original, hmem, h⟩ := List.mem_filterMap.1 h
  obtain ⟨fragment, hfragment, rfl⟩ := Option.map_eq_some_iff.1 h
  exact ⟨original, hmem, rfl, by simp [hfragment]⟩

end BidRequest

/-- An eligible name stands for a partner that takes part in auctions, and the decision is the one
for the name. -/
theorem Standing.of_eq_eligible {catalog : Catalog} {aliases : Dictionary String}
    {decisions : List PrivacyDecision} {name : String} {partner : Partner}
    {decision : Option PrivacyDecision}
    (h : Standing.of catalog aliases decisions name = .eligible partner decision) :
    catalog.resolve? aliases name = some partner ∧ partner.enabled = true ∧
      decision = PrivacyDecision.forPartner? decisions name := by
  rw [Standing.of] at h
  split at h
  · cases h
  · next found hfound =>
    split at h
    · cases h
    · next henabled =>
      dsimp only at h
      split at h
      · cases h
      · cases h
        exact ⟨hfound, by simpa using henabled, rfl⟩

section Scope

variable {request : BidRequest} {catalog : Catalog} {multibid : Dictionary MultiBid}
  {decisions : List PrivacyDecision} {deadline : Deadline} {now : Nat} {s : ScopedRequests}

theorem scope_eq_ok_iff :
    scope request catalog multibid decisions deadline now = .ok s ↔
      request.imps ≠ [] ∧ ∃ parts : List Contribution,
        List.Forall₂
          (fun name part =>
            contribution request catalog multibid decisions deadline now name = .ok part)
          request.partnerNames parts ∧
        s = ⟨parts.filterMap (·.request), parts.filterMap (·.warning)⟩ := by
  rw [scope]
  by_cases h : request.imps = []
  · simp [h]
  · simp only [List.isEmpty_iff, h, if_false, bind_eq_ok_iff, mapM_eq_ok_iff, ne_eq,
      not_false_eq_true, true_and]
    simp only [pure, Except.pure, Except.ok.injEq, eq_comm (a := s)]

/-- The request that a name contributes, if it contributes one. -/
def requestFor? (request : BidRequest) (catalog : Catalog) (multibid : Dictionary MultiBid)
    (decisions : List PrivacyDecision) (deadline : Deadline) (now : Nat) (name : String) :
    Option PartnerRequest :=
  (contribution request catalog multibid decisions deadline now name).toOption.bind (·.request)

/-- A name has a request exactly if its partner may be asked and its view of the request can be
made. -/
theorem requestFor?_eq_some_iff {name : String} {q : PartnerRequest} :
    requestFor? request catalog multibid decisions deadline now name = some q ↔
      ∃ partner decision own,
        Standing.of catalog request.aliases decisions name = .eligible partner decision ∧
        request.scopeFor name partner.name (Dictionary.get? multibid name) = .ok own ∧
        q = {
          partner := name
          code := partner.name
          request := own.masked decision
          multibid := Dictionary.get? multibid name
          deadline := deadline.boundedBy now (partner.timeoutMs.map (·.toNat)) } := by
  rw [requestFor?, contribution]
  cases hs : Standing.of catalog request.aliases decisions name with
  | unknown => simp [Except.toOption]
  | disabled => simp [Except.toOption]
  | blocked => simp [Except.toOption]
  | eligible partner decision =>
    cases ho : request.scopeFor name partner.name (Dictionary.get? multibid name) with
    | error e =>
      simp only [ho, error_bind, Except.toOption, Option.bind_none, reduceCtorEq, false_iff]
      rintro ⟨partner', decision', own, hst, hown, -⟩
      cases hst
      simp [ho] at hown
    | ok own =>
      simp only [ho, ok_bind, pure, Except.pure, Except.toOption, Option.bind_some,
        Option.some.injEq]
      constructor
      · intro h
        exact ⟨partner, decision, own, rfl, ho, h.symm⟩
      · rintro ⟨partner', decision', own', hst, hown, rfl⟩
        cases hst
        rw [ho, Except.ok.injEq] at hown
        rw [hown]

theorem partner_of_requestFor? {name : String} {q : PartnerRequest}
    (h : requestFor? request catalog multibid decisions deadline now name = some q) :
    q.partner = name := by
  obtain ⟨_, _, _, -, -, rfl⟩ := requestFor?_eq_some_iff.1 h
  rfl

/-- The requests of a successful scoping, name by name. -/
theorem requests_of_scope
    (h : scope request catalog multibid decisions deadline now = .ok s) :
    s.requests = request.partnerNames.filterMap
      (requestFor? request catalog multibid decisions deadline now) := by
  obtain ⟨_, parts, hparts, rfl⟩ := scope_eq_ok_iff.1 h
  exact filterMap_of_forall₂_ok hparts

/-- The requests for one partner: the one that its name contributes, if it comes up at all. -/
theorem filter_partner_of_scope (partner : String)
    (h : scope request catalog multibid decisions deadline now = .ok s) :
    s.requests.filter (·.partner == partner) =
      if partner ∈ request.partnerNames then
        (requestFor? request catalog multibid decisions deadline now partner).toList
      else [] := by
  have key : ∀ names : List String,
      (names.filterMap (requestFor? request catalog multibid decisions deadline now)).filter
          (·.partner == partner) =
        (names.filter (· == partner)).filterMap
          (requestFor? request catalog multibid decisions deadline now) := by
    intro names
    induction names with
    | nil => rfl
    | cons name names ih =>
      cases hq : requestFor? request catalog multibid decisions deadline now name with
      | none =>
        rw [List.filterMap_cons_none hq, ih]
        by_cases hn : name = partner
        · simp [hn ▸ hq, hn]
        · simp [hn]
      | some q =>
        rw [List.filterMap_cons_some hq]
        by_cases hn : name = partner
        · simp [partner_of_requestFor? hq, hn, hn ▸ hq, ih]
        · simp [partner_of_requestFor? hq, hn, ih]
  rw [requests_of_scope h, key, List.filter_beq, request.nodup_partnerNames.count]
  split
  · cases hq : requestFor? request catalog multibid decisions deadline now partner <;> simp [hq]
  · rfl

/-- The requests are for those names that have one, in the order of the names. -/
theorem partners_of_scope (h : scope request catalog multibid decisions deadline now = .ok s) :
    s.requests.map (·.partner) = request.partnerNames.filter fun name =>
      (requestFor? request catalog multibid decisions deadline now name).isSome := by
  rw [requests_of_scope h]
  refine (map_filterMap_of_eq (h := id) ?_ _).trans (List.map_id _)
  exact fun _ _ hq => partner_of_requestFor? hq

/-- What a request of a successful scoping is: the view that an eligible name has. -/
theorem exists_view_of_mem_requests {q : PartnerRequest}
    (h : scope request catalog multibid decisions deadline now = .ok s) (hq : q ∈ s.requests) :
    ∃ name ∈ request.partnerNames, ∃ partner decision own,
      Standing.of catalog request.aliases decisions name = .eligible partner decision ∧
      request.scopeFor name partner.name (Dictionary.get? multibid name) = .ok own ∧
      q = {
        partner := name
        code := partner.name
        request := own.masked decision
        multibid := Dictionary.get? multibid name
        deadline := deadline.boundedBy now (partner.timeoutMs.map (·.toNat)) } := by
  rw [requests_of_scope h] at hq
  obtain ⟨name, hname, hrequest⟩ := List.mem_filterMap.1 hq
  exact ⟨name, hname, requestFor?_eq_some_iff.1 hrequest⟩

/-- The partners that are asked take part in auctions. -/
theorem enabled_of_mem_requests {q : PartnerRequest}
    (h : scope request catalog multibid decisions deadline now = .ok s) (hq : q ∈ s.requests) :
    ∃ partner, catalog.resolve? request.aliases q.partner = some partner ∧
      partner.enabled = true := by
  obtain ⟨name, -, partner, decision, own, hstanding, -, rfl⟩ := exists_view_of_mem_requests h hq
  obtain ⟨hresolve, henabled, -⟩ := Standing.of_eq_eligible hstanding
  exact ⟨partner, hresolve, henabled⟩

/-- The imps that a partner is asked for are imps of the request that name it. -/
theorem exists_imp_of_mem_requests {q : PartnerRequest} {imp : Imp}
    (h : scope request catalog multibid decisions deadline now = .ok s) (hq : q ∈ s.requests)
    (himp : imp ∈ q.request.imps) :
    ∃ original ∈ request.imps, original.id = imp.id ∧
      (original.fragment? q.partner).isSome := by
  obtain ⟨name, -, partner, decision, own, -, hown, rfl⟩ := exists_view_of_mem_requests h hq
  rw [BidRequest.imps_masked, BidRequest.imps_of_scopeFor hown] at himp
  exact BidRequest.exists_imp_of_mem_impsFor himp

end Scope

end AdExchange
