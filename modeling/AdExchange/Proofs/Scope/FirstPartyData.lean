import AdExchange.Proofs.Scope.Isolation

/-!
# First-party data is not seen by partners that may not see it

`BidRequest.eraseData` takes first-party data out of a request, wherever it may be, together with
the settings by which more of it is merged in for single partners.  What a partner outside the list
of those that may see such data is asked is made from what is left.  So it cannot even tell whether
there was any.
-/

namespace AdExchange

/-! ## Imps -/

namespace Imp

/-- The imp without first-party data on its context. -/
def eraseData (imp : Imp) : Imp := { imp with ext := imp.ext.map dropContextData }

variable {ext : Dictionary Json}

theorem dropContextData_of_object {context : Dictionary Json}
    (h : Dictionary.get? ext "context" = some (.object context)) :
    dropContextData ext =
      Dictionary.modify ext "context" fun _ => .object (Dictionary.erase context "data") := by
  rw [dropContextData, h]

theorem dropContextData_of_not
    (h : ∀ context, Dictionary.get? ext "context" ≠ some (.object context)) :
    dropContextData ext = ext := by
  rw [dropContextData]
  split
  · next context hc => exact absurd hc (h context)
  · rfl

theorem get?_dropContextData {key : String} (h : key ≠ "context") :
    Dictionary.get? (dropContextData ext) key = Dictionary.get? ext key := by
  rw [dropContextData]
  split
  · exact Dictionary.get?_modify_of_ne _ _ h
  · rfl

theorem get?_dropNested {key : String} (h : key ≠ "prebid") :
    Dictionary.get? (dropNested ext) key = Dictionary.get? ext key := by
  rw [dropNested]
  split
  · dsimp only
    split
    · exact Dictionary.get?_erase_of_ne _ h
    · exact Dictionary.get?_modify_of_ne _ _ h
  · rfl

@[simp] theorem dropContextData_dropContextData (ext : Dictionary Json) :
    dropContextData (dropContextData ext) = dropContextData ext := by
  by_cases h : ∃ context, Dictionary.get? ext "context" = some (.object context)
  · obtain ⟨context, hc⟩ := h
    have hc' : Dictionary.get? (dropContextData ext) "context" =
        some (.object (Dictionary.erase context "data")) := by
      simp [dropContextData_of_object hc, hc]
    rw [dropContextData_of_object hc', dropContextData_of_object hc, Dictionary.modify_modify]
    simp [Function.comp_def]
  · rw [dropContextData_of_not (not_exists.1 h), dropContextData_of_not (not_exists.1 h)]

/-- The two members that are changed are different ones. -/
theorem dropNested_dropContextData (ext : Dictionary Json) :
    dropNested (dropContextData ext) = dropContextData (dropNested ext) := by
  have hget : Dictionary.get? (dropNested ext) "context" = Dictionary.get? ext "context" :=
    get?_dropNested (by decide)
  by_cases h : ∃ context, Dictionary.get? ext "context" = some (.object context)
  · obtain ⟨context, hc⟩ := h
    rw [dropContextData_of_object (hget.trans hc), dropContextData_of_object hc]
    unfold dropNested
    rw [Dictionary.get?_modify_of_ne _ _ (by decide)]
    split
    · dsimp only
      split
      · exact Dictionary.erase_modify_comm _ _
      · exact Dictionary.modify_comm _ _ _ (by decide)
    · rfl
  · rw [dropContextData_of_not (not_exists.1 h), dropContextData_of_not fun context => ?_]
    rw [hget]
    exact not_exists.1 h context

theorem filter_dropContextData (ext : Dictionary Json) :
    (dropContextData ext).filter (fun e => reservedImpKeys.contains e.1) =
      dropContextData (ext.filter fun e => reservedImpKeys.contains e.1) := by
  have hget := Dictionary.get?_filter ext (reservedImpKeys.contains ·) "context"
  rw [if_pos (by decide)] at hget
  by_cases h : ∃ context, Dictionary.get? ext "context" = some (.object context)
  · obtain ⟨context, hc⟩ := h
    rw [dropContextData_of_object (hget.trans hc), dropContextData_of_object hc]
    exact Dictionary.filter_modify _ _ _ (reservedImpKeys.contains ·)
  · rw [dropContextData_of_not (not_exists.1 h), dropContextData_of_not fun context => ?_]
    rw [hget]
    exact not_exists.1 h context

@[simp] theorem nestedPartners?_dropContextData (ext : Dictionary Json) :
    nestedPartners? (dropContextData ext) = nestedPartners? ext := by
  rw [nestedPartners?, get?_dropContextData (by decide)]
  rfl

/-- The context of an imp never names a partner. -/
@[simp] theorem fragment?_eraseData (imp : Imp) (partner : String) :
    imp.eraseData.fragment? partner = imp.fragment? partner := by
  unfold fragment? partners eraseData
  cases imp.ext with
  | none => rfl
  | some ext =>
    simp only [Option.map_some, nestedPartners?_dropContextData]
    cases nestedPartners? ext with
    | some configs => rfl
    | none =>
      dsimp only
      rw [Dictionary.get?_filter _ (!reservedImpKeys.contains ·),
        Dictionary.get?_filter _ (!reservedImpKeys.contains ·)]
      split
      · next hpartner =>
        refine get?_dropContextData ?_
        rintro rfl
        exact absurd hpartner (by decide)
      · rfl

/-- A partner that may not see the data is shown the imp as if there were none. -/
@[simp] theorem scopedTo_eraseData (imp : Imp) (fragment : Json) :
    imp.eraseData.scopedTo fragment false = imp.scopedTo fragment false := by
  unfold scopedTo partners eraseData
  cases imp.ext with
  | none => rfl
  | some ext =>
    simp only [Option.map_some, Option.getD_some, nestedPartners?_dropContextData,
      dropNested_dropContextData]
    cases nestedPartners? ext <;>
      simp only [Bool.false_eq_true, if_false, if_true, filter_dropContextData,
        dropContextData_dropContextData]

end Imp

/-! ## Sections -/

theorem UserExt.bind_withoutData? (e : Option UserExt) :
    (e.map fun e => { e with data := none }).bind withoutData? = e.bind withoutData? := by
  cases e <;> rfl

theorem DataExt.bind_withoutData? (e : Option DataExt) :
    (e.map fun e => { e with data := none }).bind withoutData? = e.bind withoutData? := by
  cases e <;> rfl

def User.eraseData (u : User) : User :=
  { u with data := none, ext := u.ext.map fun e => { e with data := none } }

/-- The site without first-party data, on itself or on its content. -/
def Site.eraseData (s : Site) : Site :=
  { s with
    content := s.content.map fun c => { c with data := none }
    ext := s.ext.map fun e => { e with data := none } }

def App.eraseData (a : App) : App := { a with ext := a.ext.map fun e => { e with data := none } }

/-- The controls without sections that are merged in for single partners. -/
def PrebidExt.eraseConfig (p : PrebidExt) : PrebidExt := { p with bidderConfig := none }

namespace BidRequest

/-- The request without first-party data, and without sections that are merged in for single
partners.  Sections and extensions that are left empty stay. -/
def eraseData (r : BidRequest) : BidRequest :=
  { r with
    imps := r.imps.map Imp.eraseData
    user := r.user.map User.eraseData
    site := r.site.map Site.eraseData
    app := r.app.map App.eraseData
    ext := r.ext.map fun e => { e with prebid := e.prebid.map PrebidExt.eraseConfig } }

variable (r : BidRequest) (partner : String)

theorem prebid?_eraseData : r.eraseData.prebid? = r.prebid?.map PrebidExt.eraseConfig := by
  simp only [prebid?, eraseData]
  cases r.ext <;> rfl

@[simp] theorem mem_partnerNames_eraseData :
    partner ∈ r.eraseData.partnerNames ↔ partner ∈ r.partnerNames := by
  simp [mem_partnerNames, eraseData]

@[simp] theorem aliases_eraseData : r.eraseData.aliases = r.aliases := by
  simp only [aliases, aliases?, prebid?_eraseData]
  cases r.prebid? <;> rfl

@[simp] theorem data_eraseData : r.eraseData.prebid?.bind (·.data) = r.prebid?.bind (·.data) := by
  rw [prebid?_eraseData]
  cases r.prebid? <;> rfl

@[simp] theorem mayUseData_eraseData : r.eraseData.mayUseData partner = r.mayUseData partner := by
  rw [mayUseData, data_eraseData]
  rfl

@[simp] theorem schainFor?_eraseData : r.eraseData.schainFor? partner = r.schainFor? partner := by
  simp only [schainFor?, prebid?_eraseData]
  cases r.prebid? <;> rfl

@[simp] theorem impsFor_eraseData :
    r.eraseData.impsFor partner false = r.impsFor partner false := by
  simp [impsFor, eraseData, List.filterMap_map]

/-- Leaving out first-party data twice is leaving it out once. -/
theorem withoutData_eraseData (imps : List Imp) :
    ({ r.eraseData with imps } : BidRequest).withoutData =
      { ({ r with imps } : BidRequest).withoutData with ext := r.eraseData.ext } := by
  simp only [withoutData, eraseData, Option.map_map, Function.comp_def, User.eraseData,
    Site.eraseData, App.eraseData, UserExt.bind_withoutData?, DataExt.bind_withoutData?]

variable {r partner}

/-- A partner that may not see first-party data gets none, whatever is to be merged in for it. -/
theorem sectionsFor_of_not (h : r.mayUseData partner = false) (imps : List Imp) :
    ({ r with imps } : BidRequest).sectionsFor partner =
      .ok ({ r with imps } : BidRequest).withoutData := by
  have h' : ({ r with imps } : BidRequest).mayUseData partner = false := h
  simp [sectionsFor, h']

/-- The view of a partner that may not see first-party data is made from the rest. -/
theorem scopeFor_eraseData (h : r.mayUseData partner = false) (code : String)
    (multibid : Option MultiBid) :
    r.eraseData.scopeFor partner code multibid = r.scopeFor partner code multibid := by
  have h' : r.eraseData.mayUseData partner = false := by rwa [mayUseData_eraseData]
  have hext : (r.eraseData.ext.map fun e =>
        { e with prebid := e.prebid.map fun p => prebidFor p partner multibid }) =
      r.ext.map fun e =>
        { e with prebid := e.prebid.map fun p => prebidFor p partner multibid } := by
    simp [eraseData, Function.comp_def, PrebidExt.eraseConfig, prebidFor]
  simp only [scopeFor, h, h', sectionsFor_of_not h, sectionsFor_of_not h', ok_bind,
    impsFor_eraseData, schainFor?_eraseData, data_eraseData, hext, withoutData_eraseData]
  cases (r.prebid?.bind (·.data)).bind (·.eidPermissions) <;>
    cases r.schainFor? partner <;> rfl

end BidRequest

/-! ## Scoping -/

section Scope

variable {r₁ r₂ : BidRequest} {catalog : Catalog} {multibid : Dictionary MultiBid}
  {decisions : List PrivacyDecision} {deadline : Deadline} {now : Nat} {partner : String}

/-- What a partner that may not see first-party data is asked is made from the rest. -/
theorem requestFor?_eraseData {r : BidRequest} (h : r.mayUseData partner = false) :
    requestFor? r.eraseData catalog multibid decisions deadline now partner =
      requestFor? r catalog multibid decisions deadline now partner := by
  simp only [requestFor?, contribution, BidRequest.aliases_eraseData,
    BidRequest.scopeFor_eraseData h]

/-- Two requests that differ only in first-party data, and in sections to be merged in, ask a
partner outside the list of those that may see such data the same: if scoping succeeds for both, the
requests for the partner are equal, or there is none in either. -/
theorem scope_hides_data {allowed : List String} {s₁ s₂ : ScopedRequests}
    (h : r₁.eraseData = r₂.eraseData)
    (hallowed : (r₁.prebid?.bind (·.data)).bind (·.bidders) = some allowed)
    (hpartner : partner ∉ allowed)
    (h₁ : scope r₁ catalog multibid decisions deadline now = .ok s₁)
    (h₂ : scope r₂ catalog multibid decisions deadline now = .ok s₂) :
    s₁.requests.filter (·.partner == partner) = s₂.requests.filter (·.partner == partner) := by
  have hn : partner ∈ r₁.partnerNames ↔ partner ∈ r₂.partnerNames := by
    rw [← r₁.mem_partnerNames_eraseData, h, r₂.mem_partnerNames_eraseData]
  have hmay₁ : r₁.mayUseData partner = false := by
    simp [BidRequest.mayUseData, hallowed, hpartner]
  have hmay₂ : r₂.mayUseData partner = false := by
    rw [← r₂.mayUseData_eraseData, ← h, r₁.mayUseData_eraseData, hmay₁]
  rw [filter_partner_of_scope partner h₁, filter_partner_of_scope partner h₂,
    ← requestFor?_eraseData hmay₁, h, requestFor?_eraseData hmay₂]
  simp only [hn]

end Scope

/-- A request that names `rubicon` and `openx`, with first-party data, or none, wherever it can be.
Only `openx` may see it. -/
def requestWithData (data : Option Json) : BidRequest where
  id := "r"
  imps :=
    [{ id := "1", ext := some
        [("context", .object (data.toList.map ("data", ·))), ("openx", .nat 1),
         ("rubicon", .nat 2)] }]
  site := some {
    content := some { data := data.map ([·]) }
    ext := some { data, other := [("amp", .nat 1)] } }
  user := some { data := data.map ([·]), ext := some { data } }
  ext := some { prebid := some {
    data := some { bidders := some ["openx"] }
    bidderConfig := data.map fun v => [⟨["*"], ⟨some { user := some v }⟩⟩] } }

def scopeWithData (data : Option Json) : Except AuctionError ScopedRequests :=
  scope (requestWithData data) twoPartners [] [] ⟨10⟩ 0

/-- With data in it the request for `openx` is another one, that for `rubicon` is the same. -/
theorem scope_hides_data_requestWithData : ∃ s₁ s₂,
    scopeWithData (some (.object [("gender", .string "f")])) = .ok s₁ ∧
    scopeWithData none = .ok s₂ ∧
    s₁.requests.map (fun q => (q.partner, q.request.user.bind (·.gender))) =
      [("openx", some "f"), ("rubicon", none)] ∧
    s₂.requests.map (fun q => (q.partner, q.request.user.bind (·.gender))) =
      [("openx", none), ("rubicon", none)] ∧
    s₁.requests.filter (·.partner == "rubicon") = s₂.requests.filter (·.partner == "rubicon") := by
  have h : (requestWithData (some (.object [("gender", .string "f")]))).eraseData =
      (requestWithData none).eraseData := rfl
  have h₁ : scopeWithData (some (.object [("gender", .string "f")])) = .ok
      ((scopeWithData (some (.object [("gender", .string "f")]))).toOption.getD {}) := rfl
  have h₂ : scopeWithData none = .ok ((scopeWithData none).toOption.getD {}) := rfl
  refine ⟨_, _, h₁, h₂, rfl, rfl, ?_⟩
  exact scope_hides_data h rfl (by decide) h₁ h₂

end AdExchange
