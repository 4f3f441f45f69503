import AdExchange.Proofs.Scope.Fragments
import AdExchange.Proofs.Scope.Isolation
import AdExchange.Proofs.Scope.Visitor

/-!
# Which settings count for a partner

Supply chains and fragments of sections are laid down for lists of partners.  Of the settings that
list a partner the first one counts, and only if there is none the first one that lists everybody.
So to a partner that is listed somewhere, settings that list everybody, and not the partner by its
name, make no difference, wherever they stand.

## Main definitions

* `Selects` — the setting that counts for a partner.
* `SameButGeneral` — settings that differ in general ones only, where those do not count.
* `Source.WithChain` — a source after a supply chain has been put into it.
* `PartnerRequest.HasSectionsOf` — a partner is sent the sections of a request.

## Main statements

* `selects_iff` — the setting that is looked up is the one that counts.
* `selectFor?_of_sameButGeneral` — general settings make no difference.
* `scope_selects_specific` — the settings that count in what partners are sent.
-/

namespace AdExchange

/-! ## Settings for lists of partners -/

section Entries

variable {α : Type} {entries entries' : List (List String × α)} {partner : String}

/-- The setting that counts for a partner, if one does. -/
inductive Selects (entries : List (List String × α)) (partner : String) : Option α → Prop where
  /-- The first setting that lists the partner. -/
  | listed {before after : List (List String × α)} {names : List String} {value : α}
      (h : entries = before ++ (names, value) :: after) (hnames : partner ∈ names)
      (hbefore : ∀ e ∈ before, partner ∉ e.1) : Selects entries partner (some value)
  /-- No setting lists the partner, and this is the first one that lists everybody. -/
  | general (hnone : ∀ e ∈ entries, partner ∉ e.1) {before after : List (List String × α)}
      {names : List String} {value : α} (h : entries = before ++ (names, value) :: after)
      (hnames : wildcard ∈ names) (hbefore : ∀ e ∈ before, wildcard ∉ e.1) :
      Selects entries partner (some value)
  /-- No setting lists the partner or everybody. -/
  | nothing (hnone : ∀ e ∈ entries, partner ∉ e.1 ∧ wildcard ∉ e.1) : Selects entries partner none

theorem find?_contains_eq_some_iff {name : String} {e : List String × α} :
    entries.find? (·.1.contains name) = some e ↔
      name ∈ e.1 ∧ ∃ before after, entries = before ++ e :: after ∧
        ∀ e ∈ before, name ∉ e.1 := by
  simp [List.find?_eq_some_iff_append]

theorem find?_contains_eq_none_iff {name : String} :
    entries.find? (·.1.contains name) = none ↔ ∀ e ∈ entries, name ∉ e.1 := by
  simp [List.find?_eq_none]

/-- The setting that is looked up for a partner is the one that counts for it. -/
theorem selects_iff {value? : Option α} :
    Selects entries partner value? ↔ selectFor? entries partner = value? := by
  constructor
  · rintro (⟨h, hnames, hbefore⟩ | ⟨hnone, h, hnames, hbefore⟩ | hnone)
    · rw [selectFor?, find?_contains_eq_some_iff.2 ⟨hnames, _, _, h, hbefore⟩]
      rfl
    · rw [selectFor?, find?_contains_eq_none_iff.2 hnone,
        find?_contains_eq_some_iff.2 ⟨hnames, _, _, h, hbefore⟩]
      rfl
    · rw [selectFor?, find?_contains_eq_none_iff.2 fun e he => (hnone e he).1,
        find?_contains_eq_none_iff.2 fun e he => (hnone e he).2]
      rfl
  · rintro rfl
    rw [selectFor?]
    cases hlisted : entries.find? (·.1.contains partner) with
    | some e =>
      obtain ⟨hnames, before, after, h, hbefore⟩ := find?_contains_eq_some_iff.1 hlisted
      exact .listed h hnames hbefore
    | none =>
      have hnone := find?_contains_eq_none_iff.1 hlisted
      rw [Option.none_or]
      cases hgeneral : entries.find? (·.1.contains wildcard) with
      | some e =>
        obtain ⟨hnames, before, after, h, hbefore⟩ := find?_contains_eq_some_iff.1 hgeneral
        exact .general hnone h hnames hbefore
      | none => exact .nothing fun e he =>
          ⟨hnone e he, find?_contains_eq_none_iff.1 hgeneral e he⟩

/-- The setting lists everybody, and the partner not by its name. -/
def IsGeneral (partner : String) (e : List String × α) : Prop := wildcard ∈ e.1 ∧ partner ∉ e.1

instance (partner : String) (e : List String × α) : Decidable (IsGeneral partner e) :=
  inferInstanceAs (Decidable (_ ∧ _))

/-- The settings are the same, or the partner is listed and they are the same but for general ones:
those may have been moved, added or taken out. -/
def SameButGeneral (partner : String) (entries entries' : List (List String × α)) : Prop :=
  entries = entries' ∨ (∃ e ∈ entries, partner ∈ e.1) ∧
    (entries.filter fun e => ¬ IsGeneral partner e) = entries'.filter fun e => ¬ IsGeneral partner e

/-- Whether a partner is listed is not up to general settings. -/
theorem find?_filter_not_general (partner : String) (entries : List (List String × α)) :
    (entries.filter fun e => ¬ IsGeneral partner e).find? (·.1.contains partner) =
      entries.find? (·.1.contains partner) := by
  rw [List.find?_filter]
  refine congrArg (List.find? · entries) (funext fun e => ?_)
  by_cases h : partner ∈ e.1 <;> simp [IsGeneral, h]

/-- To a partner that is listed general settings make no difference. -/
theorem selectFor?_of_sameButGeneral (h : SameButGeneral partner entries entries') :
    selectFor? entries' partner = selectFor? entries partner := by
  rcases h with rfl | ⟨⟨e, he, hlisted⟩, hfilter⟩
  · rfl
  · have hfind : entries'.find? (·.1.contains partner) = entries.find? (·.1.contains partner) := by
      rw [← find?_filter_not_general, ← hfilter, find?_filter_not_general]
    have hsome : (entries.find? (·.1.contains partner)).isSome := by
      rw [List.find?_isSome]
      exact ⟨e, he, by simpa using hlisted⟩
    obtain ⟨found, hfound⟩ := Option.isSome_iff_exists.1 hsome
    rw [selectFor?, selectFor?, hfind, hfound, Option.some_or, Option.some_or]

end Entries

/-! ## The source -/

def Source.chain? (source : Option Source) : Option SupplyChain :=
  (source.bind (·.ext)).bind (·.schain)

/-- A source without its supply chain; an absent source and an absent extension count as empty
ones. -/
def Source.withoutChain (source : Option Source) : Source :=
  let s := source.getD {}
  { s with ext := some { s.ext.getD {} with schain := none } }

/-- The source after a supply chain has been put into the one before; if there is none to put in,
all is as it was. -/
structure Source.WithChain (chain? : Option SupplyChain) (before after : Option Source) : Prop where
  chain : Source.chain? after = chain?.or (Source.chain? before)
  rest : Source.withoutChain after = Source.withoutChain before
  untouched : chain? = none → after = before

namespace BidRequest

variable {r r' own merged : BidRequest} {partner code : String} {multibid : Option MultiBid}

/-- The supply chains that are laid down for lists of partners. -/
def chainEntries (r : BidRequest) : List (List String × SupplyChain) :=
  ((r.prebid?.bind (·.schains)).getD []).map fun e => (e.bidders, e.schain)

/-- The fragments that are laid down for lists of partners. -/
def configEntries (r : BidRequest) : List (List String × BidderConfig) :=
  ((r.prebid?.bind (·.bidderConfig)).getD []).map fun e => (e.bidders, e.config)

theorem schainFor?_eq : r.schainFor? partner = selectFor? r.chainEntries partner := by
  rw [schainFor?, chainEntries]
  cases r.prebid?.bind (·.schains) <;> rfl

theorem fragmentsFor?_eq :
    r.fragmentsFor? partner = (selectFor? r.configEntries partner).bind (·.ortb2) := by
  rw [fragmentsFor?, configEntries]
  cases r.prebid?.bind (·.bidderConfig) <;> rfl

theorem withChain_sourceFor :
    Source.WithChain (selectFor? r.chainEntries partner) r.source (r.sourceFor partner) := by
  rw [sourceFor, schainFor?_eq]
  cases selectFor? r.chainEntries partner with
  | none => exact ⟨rfl, rfl, fun _ => rfl⟩
  | some chain =>
    refine ⟨rfl, rfl, ?_⟩
    intro hnone
    cases hnone

/-- Only visitor and device are masked. -/
theorem masked_eq (r : BidRequest) (decision : Option PrivacyDecision) :
    r.masked decision =
      { r with user := (r.masked decision).user, device := (r.masked decision).device } := by
  cases decision with
  | none => rfl
  | some d =>
    rw [masked]
    split <;> rfl

end BidRequest

/-! ## The sections -/

/-- A partner is sent the site and the app of a request, and, unless its visitor is masked, those
identifiers of the visitor that it may see. -/
structure PartnerRequest.HasSectionsOf (q : PartnerRequest) (r : BidRequest)
    (decisions : List PrivacyDecision) : Prop where
  site : q.request.site = r.site
  app : q.request.app = r.app
  user : PrivacyDecision.masking? decisions q.partner = none →
    q.request.user = r.visitorFor q.partner q.code

namespace BidRequest

variable {r r' own : BidRequest} {partner code : String} {multibid : Option MultiBid}

/-- The request once fragments are merged into it, if there are any. -/
def merging (r : BidRequest) (config? : Option BidderConfig) : Except AuctionError BidRequest :=
  (config?.bind (·.ortb2)).elim (.ok r) r.mergeFragments

/-- The sections that are meant for a partner that may see first-party data are those of the request
with the fragments merged in that count for the partner. -/
theorem exists_merging_of_sectionsFor {imps : List Imp} {sections : BidRequest}
    (hmay : r.mayUseData partner = true)
    (h : ({ r with imps } : BidRequest).sectionsFor partner = .ok sections) :
    ∃ merged, r.merging (selectFor? r.configEntries partner) = .ok merged ∧
      sections = { merged with imps } := by
  have hmay' : ({ r with imps } : BidRequest).mayUseData partner = true := hmay
  have hmeant : ({ r with imps } : BidRequest).fragmentsFor? partner =
      (selectFor? r.configEntries partner).bind (·.ortb2) := fragmentsFor?_eq
  rw [sectionsFor, if_pos hmay', hmeant] at h
  rw [merging]
  cases hf : (selectFor? r.configEntries partner).bind (·.ortb2) with
  | none =>
    rw [hf] at h
    cases h
    exact ⟨r, rfl, rfl⟩
  | some f =>
    rw [hf] at h
    obtain ⟨site, app, user, hsite, happ, huser, hapart, rfl⟩ := mergeFragments_eq_ok_iff.1 h
    exact ⟨_, mergeFragments_eq_ok_iff.2 ⟨site, app, user, hsite, happ, huser, hapart, rfl⟩, rfl⟩

/-! ## What does not matter -/

/-- The request without supply chains and fragments for lists of partners. -/
def withoutSettings (r : BidRequest) : BidRequest :=
  { r with ext := r.ext.map fun e =>
      { e with prebid := e.prebid.map fun p => { p with schains := none, bidderConfig := none } } }

theorem prebid?_withoutSettings :
    r.withoutSettings.prebid? =
      r.prebid?.map fun p => { p with schains := none, bidderConfig := none } := by
  cases he : r.ext <;> simp [prebid?, withoutSettings, he]

theorem data_withoutSettings :
    r.withoutSettings.prebid?.bind (·.data) = r.prebid?.bind (·.data) := by
  rw [prebid?_withoutSettings]
  cases r.prebid? <;> rfl

theorem aliases_withoutSettings : r.withoutSettings.aliases = r.aliases := by
  rw [aliases, aliases?, prebid?_withoutSettings, aliases, aliases?]
  cases r.prebid? <;> rfl

theorem scopedExt_withoutSettings :
    (r.withoutSettings.ext.map fun e =>
        { e with prebid := e.prebid.map fun p => prebidFor p partner multibid }) =
      r.ext.map fun e =>
        { e with prebid := e.prebid.map fun p => prebidFor p partner multibid } := by
  simp [withoutSettings, Function.comp_def, prebidFor]

/-- A partner's view of a request depends on the settings for lists of partners only by those that
count for it. -/
theorem scopeFor_of_sameSettings (h : r'.withoutSettings = r.withoutSettings)
    (hchain : selectFor? r'.chainEntries partner = selectFor? r.chainEntries partner)
    (hconfig : selectFor? r'.configEntries partner = selectFor? r.configEntries partner) :
    r'.scopeFor partner code multibid = r.scopeFor partner code multibid := by
  have hsame : r' = r.withExt r'.ext :=
    calc r' = r'.withoutSettings.withExt r'.ext := rfl
      _ = r.withExt r'.ext := by rw [h]; rfl
  refine r.scopeFor_congr ?_ ?_ ?_ ?_ ?_ ?_
  · rw [hsame]
    rfl
  · rw [hsame]
    rfl
  · rw [← data_withoutSettings, h, data_withoutSettings]
  · rw [fragmentsFor?_eq, fragmentsFor?_eq, hconfig]
  · rw [schainFor?_eq, schainFor?_eq, hchain]
  · rw [← scopedExt_withoutSettings, h, scopedExt_withoutSettings]

end BidRequest

/-! ## Scoping -/

section Scope

variable {request request' : BidRequest} {catalog : Catalog} {multibid : Dictionary MultiBid}
  {decisions : List PrivacyDecision} {deadline : Deadline} {now : Nat} {s s' : ScopedRequests}
  {q : PartnerRequest} {partner : String}

/-- What a name contributes is the same for every request with the same settings that count for
it. -/
theorem contribution_of_sameSettings (h : request'.withoutSettings = request.withoutSettings)
    (hchain : selectFor? request'.chainEntries partner = selectFor? request.chainEntries partner)
    (hconfig : selectFor? request'.configEntries partner =
      selectFor? request.configEntries partner) :
    contribution request' catalog multibid decisions deadline now partner =
      contribution request catalog multibid decisions deadline now partner := by
  have haliases : request'.aliases = request.aliases := by
    rw [← BidRequest.aliases_withoutSettings, h, BidRequest.aliases_withoutSettings]
  simp only [contribution, haliases, BidRequest.scopeFor_of_sameSettings h hchain hconfig]

/-- A partner that is asked is asked alone under its name. -/
theorem filter_partner_of_mem_requests
    (h : scope request catalog multibid decisions deadline now = .ok s) (hq : q ∈ s.requests) :
    s.requests.filter (·.partner == q.partner) = [q] := by
  have hmem := hq
  rw [requests_of_scope h] at hmem
  obtain ⟨name, hname, hrequest⟩ := List.mem_filterMap.1 hmem
  obtain rfl := partner_of_requestFor? hrequest
  rw [filter_partner_of_scope _ h, if_pos hname, hrequest]
  rfl

/-- What a partner is asked names the supply chain that counts for the partner, and the fragments
that count for it are merged into its sections if it may see first-party data.  Of the settings that
list the partner the first one counts, else the first one that lists everybody.  To a partner that
is listed somewhere settings that list everybody make no difference: its name contributes the same,
and it is asked the same if the other names let scoping succeed. -/
theorem scope_selects_specific
    (h : scope request catalog multibid decisions deadline now = .ok s) (hq : q ∈ s.requests) :
    (∃ chain?, Selects request.chainEntries q.partner chain? ∧
      Source.WithChain chain? request.source q.request.source) ∧
    (request.mayUseData q.partner = true →
      ∃ config? merged, Selects request.configEntries q.partner config? ∧
        request.merging config? = .ok merged ∧ q.HasSectionsOf merged decisions) ∧
    ∀ request', request'.withoutSettings = request.withoutSettings →
      SameButGeneral q.partner request.chainEntries request'.chainEntries →
      SameButGeneral q.partner request.configEntries request'.configEntries →
      contribution request' catalog multibid decisions deadline now q.partner =
        contribution request catalog multibid decisions deadline now q.partner ∧
      ∀ s', scope request' catalog multibid decisions deadline now = .ok s' →
        s'.requests.filter (·.partner == q.partner) = [q] := by
  have hone := filter_partner_of_mem_requests h hq
  rw [filter_partner_of_scope _ h] at hone
  obtain ⟨name, hname, partner, decision, own, hstanding, hown, rfl⟩ :=
    exists_view_of_mem_requests h hq
  obtain ⟨-, -, rfl⟩ := Standing.of_eq_eligible hstanding
  obtain ⟨sections, hsections, hsite, happ, huser, hsource⟩ := BidRequest.parts_of_scopeFor hown
  refine ⟨⟨_, selects_iff.2 rfl, ?_⟩, ?_, ?_⟩
  · rw [BidRequest.masked_eq, hsource]
    exact BidRequest.withChain_sourceFor
  · intro hmay
    obtain ⟨merged, hmerged, rfl⟩ := BidRequest.exists_merging_of_sectionsFor hmay hsections
    refine ⟨_, merged, selects_iff.2 rfl, hmerged, ?_, ?_, ?_⟩
    · rw [BidRequest.masked_eq]
      exact hsite
    · rw [BidRequest.masked_eq]
      exact happ
    · intro hunmasked
      rw [own.masked_of_unmasked hunmasked]
      exact huser
  · intro request' hrest hchains hconfigs
    have hcontribution : contribution request' catalog multibid decisions deadline now name =
        contribution request catalog multibid decisions deadline now name :=
      contribution_of_sameSettings hrest (selectFor?_of_sameButGeneral hchains)
        (selectFor?_of_sameButGeneral hconfigs)
    refine ⟨hcontribution, ?_⟩
    intro s' h'
    have himps : request'.imps = request.imps := congrArg (·.imps) hrest
    have hnames : request'.partnerNames = request.partnerNames := by
      rw [BidRequest.partnerNames, himps, BidRequest.partnerNames]
    rw [filter_partner_of_scope _ h', hnames, requestFor?, hcontribution]
    exact hone

end Scope

/-- A supply chain that is known by its version. -/
def chainOf (ver : String) : SupplyChain := { ver, complete := 1 }

def siteNamed (name : String) : BidderConfig :=
  { ortb2 := some { site := some (.object [("name", .string name)]) } }

/-- A request that names `rubicon` and `openx`, with these settings. -/
def requestWithSettings (schains : List SchainEntry) (configs : List BidderConfigEntry) :
    BidRequest where
  id := "r"
  imps := [{ id := "1", ext := some [("openx", .nat 1), ("rubicon", .nat 2)] }]
  source := some {
    tid := some "t"
    ext := some { schain := some (chainOf "own"), other := [("x", .nat 3)] } }
  ext := some { prebid := some { schains := some schains, bidderConfig := some configs } }

/-- A general setting before those for `rubicon`, one of which lists everybody, too. -/
def generalFirst : BidRequest :=
  requestWithSettings
    [⟨["*"], chainOf "general"⟩, ⟨["rubicon", "*"], chainOf "mine"⟩, ⟨["rubicon"], chainOf "late"⟩]
    [⟨["*"], siteNamed "General"⟩, ⟨["rubicon"], siteNamed "Mine"⟩]

/-- The general settings are behind them, or gone. -/
def generalLast : BidRequest :=
  requestWithSettings
    [⟨["rubicon", "*"], chainOf "mine"⟩, ⟨["rubicon"], chainOf "late"⟩, ⟨["*"], chainOf "other"⟩]
    [⟨["rubicon"], siteNamed "Mine"⟩]

def scopeSettings (request : BidRequest) : Except AuctionError ScopedRequests :=
  scope request twoPartners [] [] ⟨10⟩ 0

/-- What partners are told: their names, the version of the supply chain and the name of the
site. -/
def toldOf (s : ScopedRequests) : List (String × Option String × Option String) :=
  s.requests.map fun q =>
    (q.partner, (Source.chain? q.request.source).map (·.ver), q.request.site.bind (·.name))

/-- `rubicon` is asked the same in both cases, and `openx` is not. -/
theorem scope_selects_specific_rubicon : ∃ s s' q,
    scopeSettings generalFirst = .ok s ∧ scopeSettings generalLast = .ok s' ∧ q ∈ s.requests ∧
    toldOf s = [("openx", some "general", some "General"), ("rubicon", some "mine", some "Mine")] ∧
    toldOf s' = [("openx", some "mine", none), ("rubicon", some "mine", some "Mine")] ∧
    Source.withoutChain q.request.source = Source.withoutChain generalFirst.source ∧
    s'.requests.filter (·.partner == "rubicon") = [q] := by
  let s := (scopeSettings generalFirst).toOption.getD {}
  let s' := (scopeSettings generalLast).toOption.getD {}
  let q := s.requests.get ⟨1, by decide⟩
  have h : scopeSettings generalFirst = .ok s := rfl
  have h' : scopeSettings generalLast = .ok s' := rfl
  have hq : q ∈ s.requests := List.get_mem _ _
  obtain ⟨⟨_, -, hsource⟩, -, hsame⟩ := scope_selects_specific h hq
  obtain ⟨-, hfilter⟩ := hsame generalLast rfl
    (.inr ⟨⟨_, List.mem_cons_of_mem _ List.mem_cons_self, by decide⟩, rfl⟩)
    (.inr ⟨⟨_, List.mem_cons_of_mem _ List.mem_cons_self, by decide⟩, rfl⟩)
  exact ⟨s, s', q, h, h', hq, rfl, rfl, hsource.rest, hfilter s' h'⟩

end AdExchange
