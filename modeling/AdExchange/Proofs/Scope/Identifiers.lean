import AdExchange.Proofs.Scope.Fragments
import AdExchange.Proofs.Scope.Standings
import AdExchange.Proofs.Scope.Visitor

/-!
# Which identifiers of the visitor a partner is shown

A request may lay down rules on the identifiers of single sources.  An identifier is shown to a
partner if there is no rule on its source, or if one of them lists the partner, by its name in the
request or by its own name, or everybody.  Each identifier is looked at by itself, and of a rule
only its source and those names count.
-/

namespace AdExchange

/-! ## Rules -/

namespace EidPermission

/-- The rules let a partner see the identifiers of a source: none of them is on the source, or one
of them is and lists the partner, under either name, or everybody. -/
def Grants (rules : List EidPermission) (partner code source : String) : Prop :=
  (∀ rule ∈ rules, rule.source ≠ source) ∨
    ∃ rule ∈ rules, rule.source = source ∧
      ∃ name ∈ rule.bidders, name = wildcard ∨ name = partner ∨ name = code

instance (rules : List EidPermission) (partner code source : String) :
    Decidable (Grants rules partner code source) :=
  decidable_of_iff (BidRequest.eidAllowed rules partner code source) BidRequest.eidAllowed_iff

/-- Two lists of rules are on the same sources, rule by rule, and list the partner, under either
name, and everybody alike. -/
def AgreeOn (partner code : String) (rules rules' : List EidPermission) : Prop :=
  List.Forall₂ (fun rule rule' => rule.source = rule'.source ∧
    ∀ name, name = wildcard ∨ name = partner ∨ name = code →
      (name ∈ rule.bidders ↔ name ∈ rule'.bidders)) rules rules'

variable {rules rules' : List EidPermission} {partner code source : String}

theorem AgreeOn.symm (h : AgreeOn partner code rules rules') : AgreeOn partner code rules' rules :=
  (List.Forall₂.flip h).imp fun _ _ hsame =>
    ⟨hsame.1.symm, fun name hname => (hsame.2 name hname).symm⟩

theorem AgreeOn.grants (h : AgreeOn partner code rules rules')
    (hgrants : Grants rules partner code source) : Grants rules' partner code source := by
  rcases hgrants with hnone | ⟨rule, hrule, hsource, name, hname, hmeant⟩
  · left
    intro rule' hrule' heq
    obtain ⟨rule, hrule, hsame, -⟩ := exists_of_mem_right h hrule'
    exact hnone rule hrule (hsame.trans heq)
  · right
    obtain ⟨rule', hrule', hsame, hlists⟩ := exists_of_mem_left h hrule
    exact ⟨rule', hrule', hsame.symm.trans hsource, name, (hlists name hmeant).1 hname, hmeant⟩

/-- Other names in the rules do not matter. -/
theorem AgreeOn.grants_iff (h : AgreeOn partner code rules rules') :
    Grants rules partner code source ↔ Grants rules' partner code source :=
  ⟨h.grants, h.symm.grants⟩

end EidPermission

/-! ## Identifiers -/

/-- The identifiers of a visitor, if there is a list of them. -/
def listedEids? (visitor : Option User) : Option (List Eid) :=
  (visitor.bind (·.ext)).bind (·.eids)

def listedEids (visitor : Option User) : List Eid := (listedEids? visitor).getD []

/-- Of the identifiers of one visitor the other one has, in their order, those that the rules let a
partner see.  If there is none, there is no list. -/
structure ShowsEids (rules : List EidPermission) (partner code : String)
    (before after : Option User) : Prop where
  shown : listedEids after =
    (listedEids before).filter fun eid => EidPermission.Grants rules partner code eid.source
  absent : listedEids after = [] → listedEids? after = none

theorem ShowsEids.mem_iff {rules : List EidPermission} {partner code : String}
    {before after : Option User} (h : ShowsEids rules partner code before after) {eid : Eid}
    (heid : eid ∈ listedEids before) :
    eid ∈ listedEids after ↔ EidPermission.Grants rules partner code eid.source := by
  rw [h.shown, List.mem_filter, decide_eq_true_iff]
  exact and_iff_right heid

namespace BidRequest

/-- The visitor that a partner's view of a request is made from: the one of the request, with the
fragment that is meant for the partner merged in if it may have it. -/
inductive VisitorFor (r : BidRequest) (partner : String) : Option User → Prop where
  | own (h : r.mayUseData partner = false ∨ r.fragmentsFor? partner = none) :
    VisitorFor r partner r.user
  | merged {f : OrtbFragments} {user : Option User} (hmay : r.mayUseData partner = true)
    (hmeant : r.fragmentsFor? partner = some f)
    (h : mergeSection .user User.read? User.toJson r.user f.user = .ok user) :
    VisitorFor r partner user

variable {r own : BidRequest} {partner code : String} {multibid : Option MultiBid}
  {rules : List EidPermission}

theorem VisitorFor.unique {user user' : Option User} (h : r.VisitorFor partner user)
    (h' : r.VisitorFor partner user') : user = user' := by
  cases h with
  | own hown =>
    cases h' with
    | own _ => rfl
    | merged hmay hmeant _ => simp [hmay, hmeant] at hown
  | merged hmay hmeant hmerge =>
    cases h' with
    | own hown => simp [hmay, hmeant] at hown
    | merged _ hmeant' hmerge' =>
      cases hmeant.symm.trans hmeant'
      exact Except.ok.inj (hmerge.symm.trans hmerge')

/-- Leaving out first-party data leaves the identifiers. -/
theorem listedEids?_withoutData : listedEids? r.withoutData.user = listedEids? r.user := by
  cases hu : r.user with
  | none => simp [listedEids?, withoutData, hu]
  | some u =>
    cases he : u.ext with
    | none => simp [listedEids?, withoutData, hu, he]
    | some e =>
      simp only [listedEids?, withoutData, hu, he, Option.map_some, Option.bind_some,
        UserExt.withoutData?]
      split
      · next hempty =>
        simp only [UserExt.isEmpty, Bool.and_eq_true, Option.isNone_iff_eq_none] at hempty
        rw [hempty.1.2]
        rfl
      · rfl

theorem listedEids?_filterEids :
    listedEids? (r.filterEids rules partner code).user = (listedEids? r.user).bind fun eids =>
      let kept := eids.filter (eidAllowed rules partner code ·.source)
      if kept.isEmpty then none else some kept := by
  cases hu : r.user with
  | none => simp [listedEids?, filterEids, hu]
  | some u => cases he : u.ext <;> simp [listedEids?, filterEids, keepEids, hu, he]

/-- The identifiers once the rules have been applied. -/
theorem showsEids_filterEids :
    ShowsEids rules partner code r.user (r.filterEids rules partner code).user where
  shown := by
    refine (eids_filterEids (r := r)).trans (List.filter_congr ?_)
    intro eid _
    rw [Bool.eq_iff_iff, decide_eq_true_iff]
    exact eidAllowed_iff
  absent := by
    rw [listedEids, listedEids?_filterEids]
    cases listedEids? r.user with
    | none => simp
    | some eids =>
      simp only [Option.bind_some]
      split
      · simp
      · next hkept => simpa using hkept

/-- The sections of a partner's view have the identifiers of the visitor that it is made from. -/
theorem exists_visitorFor_of_sectionsFor {sections : BidRequest} {imps : List Imp}
    (h : ({ r with imps } : BidRequest).sectionsFor partner = .ok sections) :
    ∃ user, r.VisitorFor partner user ∧ listedEids? sections.user = listedEids? user := by
  cases hmay : r.mayUseData partner with
  | false =>
    rw [sectionsFor_of_not hmay] at h
    obtain rfl := Except.ok.inj h
    exact ⟨r.user, .own (.inl hmay), listedEids?_withoutData⟩
  | true =>
    have hmay' : ({ r with imps } : BidRequest).mayUseData partner = true := hmay
    have hmeant' : ({ r with imps } : BidRequest).fragmentsFor? partner =
        r.fragmentsFor? partner := rfl
    rw [sectionsFor, if_pos hmay', hmeant'] at h
    cases hmeant : r.fragmentsFor? partner with
    | none =>
      rw [hmeant] at h
      obtain rfl := Except.ok.inj h
      exact ⟨r.user, .own (.inr hmeant), rfl⟩
    | some f =>
      rw [hmeant] at h
      obtain ⟨site, app, user, -, -, huser, -, rfl⟩ := mergeFragments_eq_ok_iff.1 h
      exact ⟨user, .merged hmay hmeant huser, rfl⟩

/-- A partner's view of a request with rules has those identifiers that they let it see. -/
theorem showsEids_of_scopeFor (hrules : r.eidRules? = some rules)
    (h : r.scopeFor partner code multibid = .ok own) :
    ∃ user, r.VisitorFor partner user ∧ ShowsEids rules partner code user own.user := by
  obtain ⟨sections, hsections, hown⟩ := user_of_scopeFor h
  obtain ⟨user, huser, hsame⟩ := exists_visitorFor_of_sectionsFor hsections
  rw [hrules] at hown
  have hshows : ShowsEids rules partner code sections.user own.user := by
    rw [hown]
    exact showsEids_filterEids
  have hlist : listedEids sections.user = listedEids user := by rw [listedEids, hsame, listedEids]
  refine ⟨user, huser, ?_, hshows.absent⟩
  rw [← hlist]
  exact hshows.shown

end BidRequest

/-! ## Scoping -/

section Scope

variable {request : BidRequest} {catalog : Catalog} {multibid : Dictionary MultiBid}
  {decisions : List PrivacyDecision} {deadline : Deadline} {now : Nat} {s : ScopedRequests}
  {q : PartnerRequest} {rules : List EidPermission}

/-- A partner whose visitor is not masked is sent its view of the request. -/
theorem exists_scopeFor_of_unmasked
    (h : scope request catalog multibid decisions deadline now = .ok s) (hq : q ∈ s.requests)
    (hunmasked : PrivacyDecision.masking? decisions q.partner = none) :
    ∃ partner, catalog.LeadsTo request.aliases q.partner partner ∧ q.code = partner.name ∧
      request.scopeFor q.partner q.code (Dictionary.get? multibid q.partner) = .ok q.request := by
  obtain ⟨name, -, partner, decision, own, hstanding, hown, rfl⟩ := exists_view_of_mem_requests h hq
  obtain ⟨hresolve, -, rfl⟩ := Standing.of_eq_eligible hstanding
  refine ⟨partner, Catalog.resolve?_eq_some_iff.1 hresolve, rfl, ?_⟩
  rw [own.masked_of_unmasked hunmasked]
  exact hown

theorem showsEids_of_mem_requests
    (h : scope request catalog multibid decisions deadline now = .ok s) (hq : q ∈ s.requests)
    (hrules : request.eidRules? = some rules)
    (hunmasked : PrivacyDecision.masking? decisions q.partner = none) :
    ∃ partner user, catalog.LeadsTo request.aliases q.partner partner ∧ q.code = partner.name ∧
      request.VisitorFor q.partner user ∧
      ShowsEids rules q.partner q.code user q.request.user := by
  obtain ⟨partner, hleads, hcode, hown⟩ := exists_scopeFor_of_unmasked h hq hunmasked
  obtain ⟨user, huser, hshows⟩ := BidRequest.showsEids_of_scopeFor hrules hown
  exact ⟨partner, user, hleads, hcode, huser, hshows⟩

/-- Where a request has rules on identifiers, a partner whose visitor is not masked is shown, in
their order, exactly those identifiers that the rules let it see, and no list if there is none.
Whether it is shown one of them depends neither on the others nor on what the rules say about other
partners: it is the same for every other request that has the identifier, too, and whose rules agree
on the partner. -/
theorem scope_shows_eids (h : scope request catalog multibid decisions deadline now = .ok s)
    (hq : q ∈ s.requests) (hrules : request.eidRules? = some rules)
    (hunmasked : PrivacyDecision.masking? decisions q.partner = none) :
    (∃ partner user, catalog.LeadsTo request.aliases q.partner partner ∧ q.code = partner.name ∧
      request.VisitorFor q.partner user ∧
      ShowsEids rules q.partner q.code user q.request.user) ∧
    ∀ request' s' q' rules' user user',
      scope request' catalog multibid decisions deadline now = .ok s' → q' ∈ s'.requests →
      q'.partner = q.partner → q'.code = q.code → request'.eidRules? = some rules' →
      EidPermission.AgreeOn q.partner q.code rules rules' →
      request.VisitorFor q.partner user → request'.VisitorFor q.partner user' →
      ∀ eid, eid ∈ listedEids user → eid ∈ listedEids user' →
        (eid ∈ listedEids q.request.user ↔ eid ∈ listedEids q'.request.user) := by
  obtain ⟨partner, visitor, hleads, hcode, hvisitor, hshows⟩ :=
    showsEids_of_mem_requests h hq hrules hunmasked
  refine ⟨⟨partner, visitor, hleads, hcode, hvisitor, hshows⟩, ?_⟩
  intro request' s' q' rules' user user' h' hq' hpartner hcode' hrules' hagree huser huser' eid heid
    heid'
  -- The visitors that both views are made from are the ones that are compared.
  rw [← hpartner] at hunmasked
  obtain ⟨_, visitor', -, -, hvisitor', hshows'⟩ :=
    showsEids_of_mem_requests h' hq' hrules' hunmasked
  rw [hpartner] at hvisitor'
  rw [hpartner, hcode'] at hshows'
  obtain rfl := hvisitor.unique huser
  obtain rfl := hvisitor'.unique huser'
  rw [hshows.mem_iff heid, hshows'.mem_iff heid', hagree.grants_iff]

end Scope

/-- Rules on three sources, two of which list some others, too. -/
def eidRules (others : List String) : List EidPermission :=
  [{ source := "s", bidders := others }, { source := "t", bidders := others },
    { source := "s", bidders := ["rubicon"] }, { source := "u", bidders := [wildcard] }]

/-- A request that names `rubicon` by another name, and has identifiers of these sources merged in
for it. -/
def eidRequest (others sources : List String) : BidRequest where
  id := "r"
  imps := [{ id := "1", ext := some [("mine", .nat 1)] }]
  ext := some { prebid := some {
    aliases := some [("mine", "rubicon")]
    data := some { eidPermissions := some (eidRules others) }
    bidderConfig := some [⟨["mine"], ⟨some { user := some (.object [("ext", .object [("eids",
      .array (sources.map fun source => .object [("source", .string source)]))])]) }⟩⟩] } }

/-- A visitor with identifiers of these sources, and nothing else. -/
def visitorWith (sources : List String) : Option User :=
  some { ext := some { eids := some (sources.map fun source => { source }) } }

def scopeEids (others sources : List String) : Except AuctionError ScopedRequests :=
  scope (eidRequest others sources) twoPartners [] [] ⟨10⟩ 0

/-- The identifiers of the source `t` are for others, whoever they are and whatever other
identifiers there are. -/
theorem scope_shows_eids_mine : ∃ s q s' q',
    scopeEids [] ["s", "t", "u", "v"] = .ok s ∧ q ∈ s.requests ∧
    scopeEids ["openx"] ["t"] = .ok s' ∧ q' ∈ s'.requests ∧
    (q.partner, q.code) = ("mine", "rubicon") ∧
    q.request.user = visitorWith ["s", "u", "v"] ∧ listedEids? q'.request.user = none ∧
    ShowsEids (eidRules []) "mine" "rubicon" (visitorWith ["s", "t", "u", "v"]) q.request.user ∧
    ({ source := "t" } ∈ listedEids q.request.user ↔
      { source := "t" } ∈ listedEids q'.request.user) := by
  let s := (scopeEids [] ["s", "t", "u", "v"]).toOption.getD {}
  let s' := (scopeEids ["openx"] ["t"]).toOption.getD {}
  let q := s.requests.get ⟨0, by decide⟩
  let q' := s'.requests.get ⟨0, by decide⟩
  have h : scopeEids [] ["s", "t", "u", "v"] = .ok s := rfl
  have h' : scopeEids ["openx"] ["t"] = .ok s' := rfl
  have hq : q ∈ s.requests := List.get_mem _ _
  have hq' : q' ∈ s'.requests := List.get_mem _ _
  have hagree : EidPermission.AgreeOn "mine" "rubicon" (eidRules []) (eidRules ["openx"]) := by
    have hopenx : ∀ name, name = wildcard ∨ name = "mine" ∨ name = "rubicon" →
        (name ∈ ([] : List String) ↔ name ∈ ["openx"]) := by
      rintro name (rfl | rfl | rfl) <;> decide
    exact .cons ⟨rfl, hopenx⟩ (.cons ⟨rfl, hopenx⟩ (.cons ⟨rfl, fun _ _ => Iff.rfl⟩
      (.cons ⟨rfl, fun _ _ => Iff.rfl⟩ .nil)))
  have hvisitor : (eidRequest [] ["s", "t", "u", "v"]).VisitorFor "mine"
      (visitorWith ["s", "t", "u", "v"]) := .merged rfl rfl rfl
  have hvisitor' : (eidRequest ["openx"] ["t"]).VisitorFor "mine" (visitorWith ["t"]) :=
    .merged rfl rfl rfl
  obtain ⟨⟨_, user, -, -, huser, hshows⟩, htwo⟩ := scope_shows_eids h hq rfl rfl
  obtain rfl := huser.unique hvisitor
  refine ⟨s, q, s', q', h, hq, h', hq', rfl, rfl, rfl, hshows, ?_⟩
  exact htwo _ s' q' _ _ _ h' hq' rfl rfl rfl hagree hvisitor hvisitor' { source := "t" }
    (by simp [listedEids, listedEids?, visitorWith])
    (by simp [listedEids, listedEids?, visitorWith])

end AdExchange
