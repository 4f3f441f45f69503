import AdExchange.Proofs.Scope.FirstPartyData

/-!
# What partners are shown of the visitor

A request may list the partners that may see first-party data, and may lay down for the sources of
identifiers which partners may see those.  Both are kept to before the privacy service has its say.
A visitor that the service puts in place of the one of the request is shown as it is.
-/

namespace AdExchange

namespace BidRequest

/-- The partners that may see first-party data, if the request lists them. -/
def allowList? (r : BidRequest) : Option (List String) := (r.prebid?.bind (·.data)).bind (·.bidders)

def eidRules? (r : BidRequest) : Option (List EidPermission) :=
  (r.prebid?.bind (·.data)).bind (·.eidPermissions)

/-- First-party data on the visitor: on the user itself, and in its extension. -/
def userData (r : BidRequest) : List Json :=
  ((r.user.bind (·.data)).map .array).toList ++ ((r.user.bind (·.ext)).bind (·.data)).toList

def eids (r : BidRequest) : List Eid := ((r.user.bind (·.ext)).bind (·.eids)).getD []

variable {r own : BidRequest} {partner code : String} {multibid : Option MultiBid}
  {rules : List EidPermission}

theorem eidAllowed_iff {source : String} :
    eidAllowed rules partner code source ↔
      (∀ rule ∈ rules, rule.source ≠ source) ∨
      ∃ rule ∈ rules, rule.source = source ∧
        ∃ name ∈ rule.bidders, name = wildcard ∨ name = partner ∨ name = code := by
  simp [eidAllowed, or_assoc]

@[simp] theorem userData_filterEids : (r.filterEids rules partner code).userData = r.userData := by
  cases hu : r.user with
  | none => simp [userData, filterEids, hu]
  | some u => cases he : u.ext <;> simp [userData, filterEids, keepEids, hu, he]

theorem eids_filterEids :
    (r.filterEids rules partner code).eids =
      r.eids.filter (eidAllowed rules partner code ·.source) := by
  cases hu : r.user with
  | none => simp [eids, filterEids, hu]
  | some u =>
    cases he : u.ext with
    | none => simp [eids, filterEids, hu, he]
    | some e =>
      cases hes : e.eids with
      | none => simp [eids, filterEids, keepEids, hu, he, hes]
      | some es =>
        simp only [eids, filterEids, keepEids, hu, he, hes, Option.map_some, Option.bind_some,
          Option.getD_some]
        split
        · next h => simpa using h.symm
        · rfl

@[simp] theorem userData_withoutData : r.withoutData.userData = [] := by
  cases hu : r.user with
  | none => simp [userData, withoutData, hu]
  | some u =>
    cases he : u.ext with
    | none => simp [userData, withoutData, hu, he]
    | some e =>
      simp only [userData, withoutData, hu, he, Option.map_some, Option.bind_some,
        UserExt.withoutData?]
      split <;> rfl

/-- The visitor with the identifiers that a partner may see. -/
def visitorFor (r : BidRequest) (partner code : String) : Option User :=
  match r.eidRules? with
  | some rules => (r.filterEids rules partner code).user
  | none => r.user

/-- The source with the supply chain that is meant for a partner. -/
def sourceFor (r : BidRequest) (partner : String) : Option Source :=
  match r.schainFor? partner with
  | some schain => (r.withSchain schain).source
  | none => r.source

/-- A partner's view of a request has the sections that are meant for the partner, of the visitor
those identifiers that the partner may see, and the supply chain that is meant for it. -/
theorem parts_of_scopeFor (h : r.scopeFor partner code multibid = .ok own) :
    ∃ sections : BidRequest,
      ({ r with imps := r.impsFor partner (r.mayUseData partner) } : BidRequest).sectionsFor
        partner = .ok sections ∧
      own.site = sections.site ∧ own.app = sections.app ∧
      own.user = sections.visitorFor partner code ∧ own.source = r.sourceFor partner := by
  obtain ⟨sections, hsections, h⟩ := bind_eq_ok_iff.1 h
  have hrest := eq_of_sectionsFor hsections
  have hrules : sections.eidRules? = r.eidRules? := by
    rw [hrest]
    rfl
  have hsource : sections.source = r.source := by rw [hrest]
  refine ⟨sections, hsections, ?_⟩
  cases h
  rw [visitorFor, hrules, sourceFor]
  rw [eidRules?]
  cases (r.prebid?.bind (·.data)).bind (·.eidPermissions) <;> cases r.schainFor? partner <;>
    exact ⟨rfl, rfl, rfl, by simp [withSchain, filterEids, hsource]⟩

/-- A partner's view of a request has the visitor of its sections, with the identifiers that it may
see. -/
theorem user_of_scopeFor (h : r.scopeFor partner code multibid = .ok own) :
    ∃ sections : BidRequest,
      ({ r with imps := r.impsFor partner (r.mayUseData partner) } : BidRequest).sectionsFor
        partner = .ok sections ∧
      own.user = match r.eidRules? with
        | some rules => (sections.filterEids rules partner code).user
        | none => sections.user := by
  obtain ⟨sections, hsections, -, -, huser, -⟩ := parts_of_scopeFor h
  have hrules : sections.eidRules? = r.eidRules? := by
    rw [eq_of_sectionsFor hsections]
    rfl
  exact ⟨sections, hsections, by rw [huser, visitorFor, hrules]⟩

/-- A partner outside the list is shown no first-party data on the visitor. -/
theorem userData_of_scopeFor {allowed : List String} (hallowed : r.allowList? = some allowed)
    (hpartner : partner ∉ allowed) (h : r.scopeFor partner code multibid = .ok own) :
    own.userData = [] := by
  have hmay : r.mayUseData partner = false := by
    rw [allowList?] at hallowed
    simp [mayUseData, hallowed, hpartner]
  obtain ⟨sections, hsections, huser⟩ := user_of_scopeFor h
  rw [sectionsFor_of_not hmay, Except.ok.injEq] at hsections
  subst hsections
  rw [userData, huser]
  cases r.eidRules? with
  | none => exact userData_withoutData
  | some rules => exact userData_filterEids.trans userData_withoutData

/-- A partner is shown those identifiers alone that the rules let it see. -/
theorem eids_of_scopeFor (hrules : r.eidRules? = some rules)
    (h : r.scopeFor partner code multibid = .ok own) :
    ∀ eid ∈ own.eids, eidAllowed rules partner code eid.source := by
  obtain ⟨sections, -, huser⟩ := user_of_scopeFor h
  rw [hrules] at huser
  have heids : own.eids = (sections.filterEids rules partner code).eids := by
    rw [eids, huser, eids]
  intro eid heid
  rw [heids, eids_filterEids] at heid
  exact (List.mem_filter.1 heid).2

end BidRequest

/-- What a partner is asked shows no more of the visitor than the partner may see: no first-party
data if it is not on the list, and of a source that the rules name identifiers only if one of them
lists the partner, under either name, or everybody. -/
structure PartnerRequest.WithinRules (request : BidRequest) (q : PartnerRequest) : Prop where
  userData : ∀ allowed, request.allowList? = some allowed → q.partner ∉ allowed →
    q.request.userData = []
  eids : ∀ rules, request.eidRules? = some rules → ∀ eid ∈ q.request.eids,
    (∃ rule ∈ rules, rule.source = eid.source) →
      ∃ rule ∈ rules, rule.source = eid.source ∧
        ∃ name ∈ rule.bidders, name = wildcard ∨ name = q.partner ∨ name = q.code

/-- The decision by which a partner is shown another visitor and another device. -/
def PrivacyDecision.masking? (decisions : List PrivacyDecision) (partner : String) :
    Option PrivacyDecision :=
  (forPartner? decisions partner).filter (·.masked)

/-- A partner whose visitor is not masked is shown the request as it is. -/
theorem BidRequest.masked_of_unmasked {decisions : List PrivacyDecision} {partner : String}
    (h : PrivacyDecision.masking? decisions partner = none) (r : BidRequest) :
    r.masked (PrivacyDecision.forPartner? decisions partner) = r := by
  rw [PrivacyDecision.masking?, Option.filter_eq_none_iff] at h
  cases hd : PrivacyDecision.forPartner? decisions partner with
  | none => rfl
  | some d => simp [masked, h d hd]

section Scope

variable {request : BidRequest} {catalog : Catalog} {multibid : Dictionary MultiBid}
  {decisions : List PrivacyDecision} {deadline : Deadline} {now : Nat} {s : ScopedRequests}
  {q : PartnerRequest}

/-- A partner's view of a request shows no more of the visitor than the partner may see. -/
theorem PartnerRequest.withinRules_of_scopeFor {limit : Option MultiBid}
    (h : request.scopeFor q.partner q.code limit = .ok q.request) : q.WithinRules request where
  userData _ hallowed hpartner := BidRequest.userData_of_scopeFor hallowed hpartner h
  eids rules hrules eid heid := by
    rintro ⟨rule, hrule, hsource⟩
    rcases BidRequest.eidAllowed_iff.1 (BidRequest.eids_of_scopeFor hrules h eid heid) with
      hnone | hlisted
    · exact absurd hsource (hnone rule hrule)
    · exact hlisted

/-- Where the privacy service puts another visitor in the place of that of the request, a partner is
shown exactly the visitor and the device of its decision; else it is shown no more of the visitor
than it may see. -/
theorem scope_within_rules (h : scope request catalog multibid decisions deadline now = .ok s)
    (hq : q ∈ s.requests) :
    (∀ decision, PrivacyDecision.masking? decisions q.partner = some decision →
      q.request.user = decision.user ∧ q.request.device = decision.device) ∧
    (PrivacyDecision.masking? decisions q.partner = none → q.WithinRules request) := by
  rw [requests_of_scope h] at hq
  obtain ⟨name, -, hname⟩ := List.mem_filterMap.1 hq
  obtain ⟨partner, decision, own, hstanding, hown, rfl⟩ := requestFor?_eq_some_iff.1 hname
  obtain ⟨-, -, rfl⟩ := Standing.of_eq_eligible hstanding
  simp only [PrivacyDecision.masking?, Option.filter_eq_some_iff, Option.filter_eq_none_iff]
  constructor
  · rintro decision ⟨hdecision, hmasked⟩
    simp [hdecision, BidRequest.masked, hmasked]
  · intro hunmasked
    have hsame : own.masked (PrivacyDecision.forPartner? decisions name) = own := by
      cases hd : PrivacyDecision.forPartner? decisions name with
      | none => rfl
      | some d => simp [BidRequest.masked, hunmasked d hd]
    rw [hsame]
    exact PartnerRequest.withinRules_of_scopeFor hown

end Scope

/-- A visitor with first-party data and with identifiers of two sources. -/
def knownVisitor (id : String) : User where
  id := some id
  data := some [.string "gardener"]
  ext := some {
    data := some (.string "adult")
    eids := some [{ source := "s" }, { source := "t" }] }

/-- A request that names `rubicon` and `openx`, neither of which may see first-party data.  The
identifiers of the source `s` are for others, too. -/
def visitorRequest : BidRequest where
  id := "r"
  imps := [{ id := "1", ext := some [("openx", .nat 1), ("rubicon", .nat 2)] }]
  user := some (knownVisitor "visitor")
  ext := some { prebid := some { data := some {
    bidders := some ["appnexus"]
    eidPermissions := some [{ source := "s", bidders := ["appnexus"] }] } } }

/-- The privacy service wants `rubicon` to see another visitor. -/
def maskForRubicon : PrivacyDecision where
  partner := "rubicon"
  masked := true
  user := some (knownVisitor "masked")

def scopeVisitor : Except AuctionError ScopedRequests :=
  scope visitorRequest twoPartners [] [maskForRubicon] ⟨10⟩ 0

/-- `openx` is shown a visitor without data and with one identifier, `rubicon` the other visitor. -/
theorem scope_within_rules_visitor : ∃ s, scopeVisitor = .ok s ∧
    s.requests.map (fun q => (q.partner, q.request.userData.length,
      q.request.eids.map (·.source))) = [("openx", 0, ["t"]), ("rubicon", 2, ["s", "t"])] ∧
    ∀ q ∈ s.requests,
      (q.partner = "rubicon" → q.request.user = some (knownVisitor "masked")) ∧
      (q.partner = "openx" → q.WithinRules visitorRequest) := by
  have h : scopeVisitor = .ok (scopeVisitor.toOption.getD {}) := rfl
  refine ⟨_, h, rfl, ?_⟩
  intro q hq
  obtain ⟨hmasked, hunmasked⟩ := scope_within_rules h hq
  constructor
  · intro hpartner
    rw [hpartner] at hmasked
    exact (hmasked maskForRubicon rfl).1
  · intro hpartner
    rw [hpartner] at hunmasked
    exact hunmasked rfl

/-- What `rubicon` is shown is more than it may see: there is a list of those that may see
first-party data, and a rule for the source `s`, and both are without it. -/
theorem masked_not_within_rules : ∃ s, scopeVisitor = .ok s ∧ ∃ q ∈ s.requests,
    visitorRequest.allowList? = some ["appnexus"] ∧ q.partner ∉ ["appnexus"] ∧
    q.request.userData ≠ [] ∧
    visitorRequest.eidRules? = some [{ source := "s", bidders := ["appnexus"] }] ∧
    (∃ eid ∈ q.request.eids, eid.source = "s") ∧ q.code ∉ ["*", "appnexus"] ∧
    ¬ q.WithinRules visitorRequest := by
  let s := scopeVisitor.toOption.getD {}
  let q := s.requests.get ⟨1, by decide⟩
  have h : scopeVisitor = .ok s := rfl
  have heid : { source := "s" } ∈ q.request.eids := List.mem_cons_self
  refine ⟨s, h, q, List.get_mem _ _, rfl, by decide, by decide, rfl, ⟨_, heid, rfl⟩, by decide, ?_⟩
  intro hrules
  have hnone := hrules.userData ["appnexus"] rfl (by decide)
  cases hnone

end AdExchange
