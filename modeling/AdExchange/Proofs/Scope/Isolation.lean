import AdExchange.Proofs.Scope.Outcome

/-!
# What one partner is sent does not depend on the others

`BidRequest.onlyFor` takes everything out of a request that concerns other partners only: their
parameters in the imps and in the controls, the settings that list neither the partner nor
everybody, and the multibid declarations.  Two requests differ only in what concerns other partners
exactly if they are equal after that.  Each part of a partner's view of a request is computed from
what is left, so the partner's requests are the same for both.

## Main definitions

* `Imp.onlyFor`, `PrebidExt.onlyFor`, `BidRequest.onlyFor` — without what concerns others only.

## Main statements

* `BidRequest.scopeFor_onlyFor` — a partner's view is made from what concerns the partner.
* `scope_isolated` — requests that agree on what concerns a partner ask it the same.
-/

namespace AdExchange

/-! ## Imps -/

namespace Imp

/-- An extension whose partners under `prebid.bidder` are replaced. -/
def withNested (ext configs : Dictionary Json) : Dictionary Json :=
  Dictionary.modify ext "prebid" fun prebid =>
    .object (Dictionary.modify (prebid.asObject?.getD []) "bidder" fun _ => .object configs)

/-- An extension without the parameters of all partners but one, in either form. -/
def extOnlyFor (partner : String) (ext : Dictionary Json) : Dictionary Json :=
  match nestedPartners? ext with
  | some configs => withNested ext (configs.filter (·.1 == partner))
  | none => ext.filter fun e => reservedImpKeys.contains e.1 || e.1 == partner

/-- The imp without the parameters of all partners but one.  Of an imp that does not name the
partner nothing is left of the extension. -/
def onlyFor (partner : String) (imp : Imp) : Imp :=
  { imp with ext :=
      match imp.fragment? partner with
      | some _ => imp.ext.map (extOnlyFor partner)
      | none => none }

theorem nestedPartners?_eq_some_iff {ext configs : Dictionary Json} :
    nestedPartners? ext = some configs ↔
      ∃ prebid, Dictionary.get? ext "prebid" = some (.object prebid) ∧
        Dictionary.get? prebid "bidder" = some (.object configs) := by
  simp only [nestedPartners?, Json.get?]
  cases hp : Dictionary.get? ext "prebid" with
  | none => simp
  | some prebid =>
    cases prebid <;> simp only [Option.bind_some, Json.asObject?, Option.bind_none, reduceCtorEq,
      Option.some.injEq, Json.object.injEq, false_and, exists_false, exists_eq_left']
    rename_i fields
    cases hb : Dictionary.get? fields "bidder" with
    | none => simp
    | some bidder => cases bidder <;> simp

theorem get?_withNested {ext prebid : Dictionary Json} (configs : Dictionary Json)
    (h : Dictionary.get? ext "prebid" = some (.object prebid)) :
    Dictionary.get? (withNested ext configs) "prebid" =
      some (.object (Dictionary.modify prebid "bidder" fun _ => .object configs)) := by
  simp [withNested, h, Json.asObject?]

theorem nestedPartners?_withNested {ext configs : Dictionary Json} (configs' : Dictionary Json)
    (h : nestedPartners? ext = some configs) :
    nestedPartners? (withNested ext configs') = some configs' := by
  obtain ⟨prebid, hp, hb⟩ := nestedPartners?_eq_some_iff.1 h
  exact nestedPartners?_eq_some_iff.2 ⟨_, get?_withNested configs' hp, by simp [hb]⟩

/-- The partners under `prebid.bidder` are dropped, whichever they are. -/
theorem dropNested_withNested {ext configs : Dictionary Json} (configs' : Dictionary Json)
    (h : nestedPartners? ext = some configs) :
    dropNested (withNested ext configs') = dropNested ext := by
  obtain ⟨prebid, hp, -⟩ := nestedPartners?_eq_some_iff.1 h
  simp only [dropNested]
  rw [get?_withNested configs' hp, hp]
  simp only [Dictionary.erase_modify, withNested]
  rw [Dictionary.modify_modify]
  rfl

/-- Members that never name a partner, chosen among those that are left for one. -/
theorem filter_reserved_filter (partner : String) (ext : Dictionary Json) :
    (ext.filter fun e => reservedImpKeys.contains e.1 || e.1 == partner).filter
        (fun e => reservedImpKeys.contains e.1) =
      ext.filter fun e => reservedImpKeys.contains e.1 := by
  rw [List.filter_filter]
  refine List.filter_congr fun e _ => ?_
  cases reservedImpKeys.contains e.1 <;> simp

theorem get?_filter_reserved (partner : String) (ext : Dictionary Json) {key : String}
    (h : reservedImpKeys.contains key = true) :
    Dictionary.get? (ext.filter fun e => reservedImpKeys.contains e.1 || e.1 == partner) key =
      Dictionary.get? ext key := by
  rw [Dictionary.get?_filter ext fun k => reservedImpKeys.contains k || k == partner, h]
  rfl

/-- In the older form the `prebid` of an extension is treated alike, whichever partners stand
beside it. -/
theorem filter_dropNested_filter (partner : String) (ext : Dictionary Json) :
    (dropNested (ext.filter fun e => reservedImpKeys.contains e.1 || e.1 == partner)).filter
        (fun e => reservedImpKeys.contains e.1) =
      (dropNested ext).filter fun e => reservedImpKeys.contains e.1 := by
  unfold dropNested
  rw [get?_filter_reserved partner ext (by decide)]
  split
  · dsimp only
    split
    · rw [Dictionary.erase, List.filter_filter, List.filter_filter, Dictionary.erase,
        List.filter_filter]
      refine List.filter_congr fun e _ => ?_
      cases reservedImpKeys.contains e.1 <;> simp
    · rw [Dictionary.filter_modify _ _ _ fun k => reservedImpKeys.contains k,
        filter_reserved_filter, Dictionary.filter_modify _ _ _ fun k => reservedImpKeys.contains k]
  · exact filter_reserved_filter partner ext

theorem nestedPartners?_filter_reserved (partner : String) (ext : Dictionary Json) :
    nestedPartners? (ext.filter fun e => reservedImpKeys.contains e.1 || e.1 == partner) =
      nestedPartners? ext := by
  simp only [nestedPartners?]
  rw [get?_filter_reserved partner ext (by decide)]

/-- In the older form the parameters of the partner itself are left. -/
theorem get?_filter_partner (partner : String) (ext : Dictionary Json) :
    Dictionary.get? ((ext.filter fun e => reservedImpKeys.contains e.1 || e.1 == partner).filter
        fun e => !reservedImpKeys.contains e.1) partner =
      Dictionary.get? (ext.filter fun e => !reservedImpKeys.contains e.1) partner := by
  rw [Dictionary.get?_filter _ fun k => !reservedImpKeys.contains k,
    Dictionary.get?_filter _ fun k => reservedImpKeys.contains k || k == partner,
    Dictionary.get?_filter _ fun k => !reservedImpKeys.contains k]
  simp

/-- The parameters of the partner itself are left. -/
@[simp] theorem fragment?_onlyFor (partner : String) (imp : Imp) :
    (imp.onlyFor partner).fragment? partner = imp.fragment? partner := by
  rw [onlyFor]
  cases hf : imp.fragment? partner with
  | none => rfl
  | some fragment =>
    dsimp only
    rw [← hf]
    unfold fragment? partners extOnlyFor
    cases hx : imp.ext with
    | none => rfl
    | some ext =>
      simp only [Option.map_some]
      cases hn : nestedPartners? ext with
      | some configs =>
        simp only [nestedPartners?_withNested _ hn]
        rw [Dictionary.get?_filter configs (· == partner)]
        simp
      | none =>
        simp only [nestedPartners?_filter_reserved, hn]
        exact get?_filter_partner partner ext

/-- A partner is shown an imp that names it alike, whatever the parameters of the others are. -/
theorem scopedTo_onlyFor {partner : String} {imp : Imp} {fragment : Json}
    (h : imp.fragment? partner = some fragment) (mayUseData : Bool) :
    (imp.onlyFor partner).scopedTo fragment mayUseData = imp.scopedTo fragment mayUseData := by
  simp only [onlyFor, h]
  unfold scopedTo partners extOnlyFor
  cases hx : imp.ext with
  | none => rfl
  | some ext =>
    simp only [Option.map_some, Option.getD_some]
    cases hn : nestedPartners? ext with
    | some configs =>
      simp only [nestedPartners?_withNested _ hn, dropNested_withNested _ hn]
    | none =>
      simp only [nestedPartners?_filter_reserved, hn, if_true, filter_dropNested_filter]

end Imp

/-! ## Controls -/

/-- Of the settings for lists of partners those that list the partner or everybody. -/
def entriesFor {α : Type} (bidders : α → List String) (partner : String)
    (entries : List α) : List α :=
  entries.filter fun e => (bidders e).contains partner || (bidders e).contains wildcard

/-- A setting that lists neither the partner nor everybody does not count. -/
theorem selectFor?_entriesFor {α β : Type} (bidders : α → List String) (value : α → β)
    (partner : String) (entries : List α) :
    selectFor? ((entriesFor bidders partner entries).map fun e => (bidders e, value e)) partner =
      selectFor? (entries.map fun e => (bidders e, value e)) partner := by
  simp only [selectFor?, entriesFor]
  simp only [List.find?_map, List.find?_filter, Function.comp_def]
  congr 3
  · refine congrArg (List.find? · entries) (funext fun e => ?_)
    cases (bidders e).contains partner <;> simp
  · refine congrArg (List.find? · entries) (funext fun e => ?_)
    cases (bidders e).contains wildcard <;> simp

/-- The controls without what concerns other partners only.  Absent parameters and settings count
as empty ones. -/
def PrebidExt.onlyFor (partner : String) (p : PrebidExt) : PrebidExt :=
  { p with
    bidders := some ((p.bidders.getD []).filter (·.1 == partner))
    bidderConfig := some (entriesFor (·.bidders) partner (p.bidderConfig.getD []))
    schains := some (entriesFor (·.bidders) partner (p.schains.getD []))
    multibid := none }

namespace BidRequest

/-- The request without what concerns other partners only. -/
def onlyFor (partner : String) (r : BidRequest) : BidRequest :=
  { r with
    imps := r.imps.map (Imp.onlyFor partner)
    ext := r.ext.map fun e => { e with prebid := e.prebid.map (PrebidExt.onlyFor partner) } }

variable (partner : String) (r : BidRequest)

theorem prebid?_onlyFor : (r.onlyFor partner).prebid? = r.prebid?.map (.onlyFor partner) := by
  simp only [prebid?, onlyFor]
  cases r.ext with
  | none => rfl
  | some e => rfl

@[simp] theorem mem_partnerNames_onlyFor :
    partner ∈ (r.onlyFor partner).partnerNames ↔ partner ∈ r.partnerNames := by
  simp only [mem_partnerNames, onlyFor, List.mem_map]
  constructor
  · rintro ⟨_, ⟨imp, himp, rfl⟩, h⟩
    exact ⟨imp, himp, by simpa using h⟩
  · rintro ⟨imp, himp, h⟩
    exact ⟨_, ⟨imp, himp, rfl⟩, by simpa using h⟩

@[simp] theorem aliases_onlyFor : (r.onlyFor partner).aliases = r.aliases := by
  simp only [aliases, aliases?]
  rw [prebid?_onlyFor]
  cases r.prebid? <;> rfl

@[simp] theorem impsFor_onlyFor (mayUseData : Bool) :
    (r.onlyFor partner).impsFor partner mayUseData = r.impsFor partner mayUseData := by
  rw [impsFor, onlyFor]
  rw [List.filterMap_map]
  refine congrArg (List.filterMap · r.imps) (funext fun imp => ?_)
  simp only [Function.comp_apply, Imp.fragment?_onlyFor]
  cases hf : imp.fragment? partner with
  | none => rfl
  | some fragment => simp only [Option.map_some, Imp.scopedTo_onlyFor hf]

@[simp] theorem data_onlyFor :
    (r.onlyFor partner).prebid?.bind (·.data) = r.prebid?.bind (·.data) := by
  rw [prebid?_onlyFor]
  cases r.prebid? <;> rfl

@[simp] theorem fragmentsFor?_onlyFor :
    (r.onlyFor partner).fragmentsFor? partner = r.fragmentsFor? partner := by
  simp only [fragmentsFor?]
  rw [prebid?_onlyFor]
  cases r.prebid? with
  | none => rfl
  | some p =>
    cases hc : p.bidderConfig with
    | none => simp [PrebidExt.onlyFor, hc, entriesFor, selectFor?]
    | some configs =>
      simp only [Option.map_some, Option.bind_some, PrebidExt.onlyFor, hc, Option.getD_some,
        Option.bind_eq_bind]
      rw [selectFor?_entriesFor]

@[simp] theorem schainFor?_onlyFor :
    (r.onlyFor partner).schainFor? partner = r.schainFor? partner := by
  simp only [schainFor?]
  rw [prebid?_onlyFor]
  cases r.prebid? with
  | none => rfl
  | some p =>
    cases hc : p.schains with
    | none => simp [PrebidExt.onlyFor, hc, entriesFor, selectFor?]
    | some entries =>
      simp only [Option.map_some, Option.bind_some, PrebidExt.onlyFor, hc, Option.getD_some,
        Option.bind_eq_bind]
      rw [selectFor?_entriesFor]

/-- The controls that a partner is sent hold nothing that concerns others only. -/
@[simp] theorem prebidFor_onlyFor (p : PrebidExt) (multibid : Option MultiBid) :
    prebidFor (p.onlyFor partner) partner multibid = prebidFor p partner multibid := by
  have hb : (some ((p.bidders.getD []).filter (·.1 == partner))).bind (Dictionary.get? · partner) =
      p.bidders.bind (Dictionary.get? · partner) := by
    rw [Option.bind_some, Dictionary.get?_filter _ (· == partner)]
    cases p.bidders <;> simp
  simp only [prebidFor, PrebidExt.onlyFor]
  rw [hb]

def withExt (r : BidRequest) (ext : Option RequestExt) : BidRequest := { r with ext }

/-- Merging fragments does not touch the extension. -/
theorem mergeFragments_withExt (f : OrtbFragments) (ext : Option RequestExt) :
    (r.withExt ext).mergeFragments f = (·.withExt ext) <$> r.mergeFragments f := by
  rw [mergeFragments_eq, mergeFragments_eq]
  have hmerged : (r.withExt ext).mergedSections f = r.mergedSections f := rfl
  rw [hmerged]
  cases r.mergedSections f <;> rfl

/-- Neither leaving out first-party data nor merging fragments touches the extension. -/
theorem sectionsFor_withExt {ext : Option RequestExt}
    (hm : (r.withExt ext).mayUseData partner = r.mayUseData partner)
    (hf : (r.withExt ext).fragmentsFor? partner = r.fragmentsFor? partner) :
    (r.withExt ext).sectionsFor partner = (·.withExt ext) <$> r.sectionsFor partner := by
  simp only [sectionsFor]
  rw [hm, hf]
  cases r.mayUseData partner with
  | false => rfl
  | true =>
    cases r.fragmentsFor? partner with
    | none => rfl
    | some f => exact r.mergeFragments_withExt f ext

/-- A partner's view depends on the imps and on the controls only by what they hold for the
partner. -/
theorem scopeFor_congr {r' : BidRequest} {partner code : String} {multibid : Option MultiBid}
    (hsame : r' = { r with imps := r'.imps, ext := r'.ext })
    (himps : r'.impsFor partner (r.mayUseData partner) = r.impsFor partner (r.mayUseData partner))
    (hdata : r'.prebid?.bind (·.data) = r.prebid?.bind (·.data))
    (hfragments : r'.fragmentsFor? partner = r.fragmentsFor? partner)
    (hschain : r'.schainFor? partner = r.schainFor? partner)
    (hext : (r'.ext.map fun e =>
        { e with prebid := e.prebid.map fun p => prebidFor p partner multibid }) =
      r.ext.map fun e =>
        { e with prebid := e.prebid.map fun p => prebidFor p partner multibid }) :
    r'.scopeFor partner code multibid = r.scopeFor partner code multibid := by
  have hmay : r'.mayUseData partner = r.mayUseData partner := by
    rw [mayUseData, mayUseData, hdata]
  have hown : ∀ imps, { r' with imps } = ({ r with imps } : BidRequest).withExt r'.ext := by
    intro imps
    rw [hsame]
    rfl
  simp only [scopeFor, hmay, himps, hdata, hschain, hext]
  rw [hown]
  generalize hr : { r with imps := r.impsFor partner (r.mayUseData partner) } = own
  rw [own.sectionsFor_withExt partner (by rw [← hr, ← hown]; exact hmay)
    (by rw [← hr, ← hown]; exact hfragments)]
  cases own.sectionsFor partner with
  | error e => rfl
  | ok own =>
    cases (r.prebid?.bind (·.data)).bind (·.eidPermissions) <;>
      cases r.schainFor? partner <;> rfl

/-- A partner's view of a request is made from what concerns the partner. -/
theorem scopeFor_onlyFor (code : String) (multibid : Option MultiBid) :
    (r.onlyFor partner).scopeFor partner code multibid = r.scopeFor partner code multibid :=
  r.scopeFor_congr rfl (r.impsFor_onlyFor partner _) (r.data_onlyFor partner)
    (r.fragmentsFor?_onlyFor partner) (r.schainFor?_onlyFor partner)
    (by simp [onlyFor, Function.comp_def])

end BidRequest

/-! ## Scoping -/

section Scope

variable {r₁ r₂ : BidRequest} {m₁ m₂ : Dictionary MultiBid} {catalog : Catalog}
  {decisions : List PrivacyDecision} {deadline : Deadline} {now : Nat} {partner : String}

/-- What a name contributes is made from what concerns the partner. -/
theorem requestFor?_congr (h : r₁.onlyFor partner = r₂.onlyFor partner)
    (hm : Dictionary.get? m₁ partner = Dictionary.get? m₂ partner) :
    requestFor? r₁ catalog m₁ decisions deadline now partner =
      requestFor? r₂ catalog m₂ decisions deadline now partner := by
  have ha : r₁.aliases = r₂.aliases := by
    rw [← r₁.aliases_onlyFor partner, h, r₂.aliases_onlyFor]
  have hs : ∀ code multibid,
      r₁.scopeFor partner code multibid = r₂.scopeFor partner code multibid := by
    intro code multibid
    rw [← r₁.scopeFor_onlyFor, h, r₂.scopeFor_onlyFor]
  simp only [requestFor?, contribution]
  rw [ha, hm]
  simp only [hs]

/-- Two requests that differ only in what concerns other partners ask a partner the same: if
scoping succeeds for both, the requests for the partner are equal, or there is none in either. -/
theorem scope_isolated {s₁ s₂ : ScopedRequests}
    (h : r₁.onlyFor partner = r₂.onlyFor partner)
    (hm : Dictionary.get? m₁ partner = Dictionary.get? m₂ partner)
    (h₁ : scope r₁ catalog m₁ decisions deadline now = .ok s₁)
    (h₂ : scope r₂ catalog m₂ decisions deadline now = .ok s₂) :
    s₁.requests.filter (·.partner == partner) = s₂.requests.filter (·.partner == partner) := by
  have hn : partner ∈ r₁.partnerNames ↔ partner ∈ r₂.partnerNames := by
    rw [← r₁.mem_partnerNames_onlyFor, h, r₂.mem_partnerNames_onlyFor]
  rw [filter_partner_of_scope partner h₁, filter_partner_of_scope partner h₂,
    requestFor?_congr h hm]
  simp only [hn]

end Scope

/-- A request that names `rubicon` and one other partner in both forms, with settings for each. -/
def requestNaming (other : String) : BidRequest where
  id := "r"
  imps :=
    [{ id := "1", ext := some [("prebid", .object
        [("bidder", .object [(other, .nat 9), ("rubicon", .nat 1)])])] },
     { id := "2", ext := some [(other, .nat 8), ("rubicon", .nat 2)] },
     { id := "3", ext := some [(other, .nat 7)] }]
  ext := some { prebid := some {
    bidders := some [(other, .nat 6), ("rubicon", .nat 3)]
    schains := some
      [⟨[other], { ver := "1.0", complete := 1 }⟩, ⟨["*"], { ver := "1.0", complete := 0 }⟩]
    multibid := some [{ bidder := some other, maxBids := some 3 }]
    bidderConfig := some
      [⟨[other], ⟨some { user := some (.object [("id", .string other)]) }⟩⟩,
       ⟨["rubicon"], ⟨some { site := some (.object [("domain", .string "d")]) }⟩⟩] } }

def multibidNaming (other : String) : Dictionary MultiBid :=
  (MultiBid.resolve [{ bidder := some other, maxBids := some 3 }]).configs

/-- A catalog with `rubicon` and `openx`. -/
def twoPartners : Catalog :=
  .ofList [{ id := 1, name := "rubicon", endpoint := "http://r" },
    { id := 2, name := "openx", endpoint := "http://o" }]

def scopeNaming (other : String) : Except AuctionError ScopedRequests :=
  scope (requestNaming other) twoPartners (multibidNaming other) [] ⟨10⟩ 0

/-- The other partner is unknown in the first request and asked in the second one. -/
theorem scope_isolated_requestNaming : ∃ s₁ s₂,
    scopeNaming "appnexus" = .ok s₁ ∧ scopeNaming "openx" = .ok s₂ ∧
    s₁.requests.map (·.partner) = ["rubicon"] ∧
    s₂.requests.map (·.partner) = ["openx", "rubicon"] ∧
    s₁.requests.filter (·.partner == "rubicon") = s₂.requests.filter (·.partner == "rubicon") := by
  have h : (requestNaming "appnexus").onlyFor "rubicon" =
      (requestNaming "openx").onlyFor "rubicon" := rfl
  have hm : Dictionary.get? (multibidNaming "appnexus") "rubicon" =
      Dictionary.get? (multibidNaming "openx") "rubicon" := rfl
  have h₁ : scopeNaming "appnexus" = .ok ((scopeNaming "appnexus").toOption.getD {}) := rfl
  have h₂ : scopeNaming "openx" = .ok ((scopeNaming "openx").toOption.getD {}) := rfl
  exact ⟨_, _, h₁, h₂, rfl, rfl, scope_isolated h hm h₁ h₂⟩

end AdExchange
