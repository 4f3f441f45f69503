import AdExchange.Proofs.Scope.Classification
import AdExchange.Proofs.Scope.Visitor

/-!
# Which imps a partner is shown, and as what

A partner is shown the imps that name it, in their order, and of each of them everything but what
its extension says about partners.  The extension has the partner's own parameters under `bidder`;
the partners under `prebid.bidder` are gone and, in the older form, all members that may name one;
and so is first-party data that the partner may not see.  All else in it is as it was.
-/

namespace AdExchange

/-! ## Members that are taken out of a value -/

namespace Json

/-- What is left of a value once a member is taken out; only an object has members. -/
def without (v : Json) (key : String) : Json :=
  match v with
  | .object fields => .object (Dictionary.erase fields key)
  | v => v

def isEmptyObject : Json → Bool
  | .object fields => fields.isEmpty
  | _ => false

end Json

namespace Imp

/-! ## The imps that name a partner -/

/-- No object stands under `prebid.bidder`, so that the partners are members of the extension
itself. -/
def IsOlderExt (ext : Dictionary Json) : Prop :=
  ∀ prebid configs, Dictionary.get? ext "prebid" = some (.object prebid) →
    Dictionary.get? prebid "bidder" ≠ some (.object configs)

/-- The imp names a partner and has these parameters for it: under `prebid.bidder`, or, in the older
form, in a member of the extension that may name a partner. -/
inductive Names (imp : Imp) (partner : String) (fragment : Json) : Prop where
  | nested {ext prebid configs : Dictionary Json} (hext : imp.ext = some ext)
    (hprebid : Dictionary.get? ext "prebid" = some (.object prebid))
    (hconfigs : Dictionary.get? prebid "bidder" = some (.object configs))
    (h : Dictionary.get? configs partner = some fragment) : Names imp partner fragment
  | older {ext : Dictionary Json} (hext : imp.ext = some ext) (hform : IsOlderExt ext)
    (hname : partner ∉ reservedImpKeys) (h : Dictionary.get? ext partner = some fragment) :
    Names imp partner fragment

variable {ext : Dictionary Json} {imp : Imp} {partner : String} {fragment : Json}

theorem isOlderExt_iff : IsOlderExt ext ↔ nestedPartners? ext = none := by
  rw [Option.eq_none_iff_forall_ne_some]
  simp only [ne_eq, nestedPartners?_eq_some_iff]
  constructor
  · rintro h configs ⟨prebid, hprebid, hconfigs⟩
    exact h prebid configs hprebid hconfigs
  · intro h prebid configs hprebid hconfigs
    exact h configs ⟨prebid, hprebid, hconfigs⟩

theorem fragment?_eq_some_iff : imp.fragment? partner = some fragment ↔
    imp.Names partner fragment := by
  rw [fragment?, partners]
  constructor
  · intro h
    cases hext : imp.ext with
    | none => simp [hext] at h
    | some ext =>
      simp only [hext] at h
      cases hnested : nestedPartners? ext with
      | some configs =>
        obtain ⟨prebid, hprebid, hconfigs⟩ := nestedPartners?_eq_some_iff.1 hnested
        exact .nested hext hprebid hconfigs (by simpa [hnested] using h)
      | none =>
        simp only [hnested] at h
        rw [Dictionary.get?_filter ext (!reservedImpKeys.contains ·)] at h
        split at h
        · next hname => exact .older hext (isOlderExt_iff.2 hnested) (by simpa using hname) h
        · cases h
  · intro h
    cases h with
    | nested hext hprebid hconfigs h =>
      simp only [hext, nestedPartners?_eq_some_iff.2 ⟨_, hprebid, hconfigs⟩]
      exact h
    | older hext hform hname h =>
      simp only [hext, isOlderExt_iff.1 hform]
      rw [Dictionary.get?_filter _ (!reservedImpKeys.contains ·), if_pos (by simpa using hname)]
      exact h

instance (imp : Imp) (partner : String) : Decidable (∃ fragment, imp.Names partner fragment) :=
  decidable_of_iff ((imp.fragment? partner).isSome = true) <| by
    rw [Option.isSome_iff_exists]
    exact exists_congr fun _ => fragment?_eq_some_iff

/-! ## The extension that a partner is shown -/

/-- The extension of an imp as a partner with these parameters is to see it, if it may not see
first-party data or may.  The parameters are in `bidder`.  Of `prebid` all is left but `bidder`, and
nothing of it if that was all; of `context` all but the data, if the partner may not see it.  In the
older form other members that may name a partner are gone, and all others are as they were. -/
structure ShownExt (barred : Prop) (fragment : Json) (old new : Dictionary Json) : Prop where
  ordered : Dictionary.Ordered old → Dictionary.Ordered new
  bidder : Dictionary.get? new "bidder" = some fragment
  prebid : Dictionary.get? new "prebid" =
    ((Dictionary.get? old "prebid").map (·.without "bidder")).filter (!·.isEmptyObject)
  context : barred → Dictionary.get? new "context" =
    (Dictionary.get? old "context").map (·.without "data")
  contextKept : ¬ barred → Dictionary.get? new "context" = Dictionary.get? old "context"
  partnersGone : IsOlderExt old → ∀ key, key ≠ "bidder" → key ∉ reservedImpKeys →
    Dictionary.get? new key = none
  othersKept : ∀ key, key ∉ ["bidder", "prebid", "context"] →
    (IsOlderExt old → key ∈ reservedImpKeys) → Dictionary.get? new key = Dictionary.get? old key

theorem get?_prebid_dropNested (ext : Dictionary Json) :
    Dictionary.get? (dropNested ext) "prebid" =
      ((Dictionary.get? ext "prebid").map (·.without "bidder")).filter (!·.isEmptyObject) := by
  rw [dropNested]
  cases hprebid : Dictionary.get? ext "prebid" with
  | none => simp [hprebid]
  | some v =>
    rw [Option.map_some, Option.filter_some]
    cases v with
    | object prebid =>
      by_cases hempty : (Dictionary.erase prebid "bidder").isEmpty
      · simp [hempty, Json.without, Json.isEmptyObject]
      · simp [hempty, hprebid, Json.without, Json.isEmptyObject]
    | _ => simp [hprebid, Json.without, Json.isEmptyObject]

theorem get?_context_dropContextData (ext : Dictionary Json) :
    Dictionary.get? (dropContextData ext) "context" =
      (Dictionary.get? ext "context").map (·.without "data") := by
  rw [dropContextData]
  cases hcontext : Dictionary.get? ext "context" with
  | none => simp [hcontext]
  | some v => cases v <;> simp [hcontext, Json.without]

theorem ordered_dropNested (h : Dictionary.Ordered ext) :
    Dictionary.Ordered (dropNested ext) := by
  rw [dropNested]
  split
  · dsimp only
    split
    · exact h.erase _
    · exact h.modify _ _
  · exact h

theorem ordered_dropContextData (h : Dictionary.Ordered ext) :
    Dictionary.Ordered (dropContextData ext) := by
  rw [dropContextData]
  split
  · exact h.modify _ _
  · exact h

/-- An extension without what it says about partners. -/
def withoutPartners (ext : Dictionary Json) : Dictionary Json :=
  if (nestedPartners? ext).isNone then
    (dropNested ext).filter fun e => reservedImpKeys.contains e.1
  else dropNested ext

theorem ordered_withoutPartners (h : Dictionary.Ordered ext) :
    Dictionary.Ordered (withoutPartners ext) := by
  rw [withoutPartners]
  split
  · exact (ordered_dropNested h).filter _
  · exact ordered_dropNested h

variable {key : String}

/-- In the older form a member that may name a partner is gone. -/
theorem get?_withoutPartners_of_gone (hform : IsOlderExt ext) (hkey : key ∉ reservedImpKeys) :
    Dictionary.get? (withoutPartners ext) key = none := by
  rw [withoutPartners, isOlderExt_iff.1 hform, if_pos (by rfl),
    Dictionary.get?_filter _ (reservedImpKeys.contains ·), if_neg (by simpa using hkey)]

/-- Any other member is left, if not as it was. -/
theorem get?_withoutPartners_of_kept (hkey : IsOlderExt ext → key ∈ reservedImpKeys) :
    Dictionary.get? (withoutPartners ext) key = Dictionary.get? (dropNested ext) key := by
  rw [withoutPartners]
  split
  · next hnone =>
    have hform : IsOlderExt ext := isOlderExt_iff.2 (Option.isNone_iff_eq_none.1 hnone)
    rw [Dictionary.get?_filter _ (reservedImpKeys.contains ·), if_pos (by simpa using hkey hform)]
  · rfl

theorem ext_scopedTo (hext : imp.ext = some ext) (fragment : Json) (mayUseData : Bool) :
    (imp.scopedTo fragment mayUseData).ext = some (Dictionary.insert
      (if mayUseData then withoutPartners ext else dropContextData (withoutPartners ext))
      "bidder" fragment) := by
  have hlegacy : imp.partners.legacy = (nestedPartners? ext).isNone := by
    rw [partners, hext]
    dsimp only
    cases nestedPartners? ext <;> rfl
  rw [scopedTo, hlegacy, hext]
  rfl

/-- The extension that a partner is shown. -/
theorem shownExt_insert (ext : Dictionary Json) (fragment : Json) {mayUseData : Bool}
    {barred : Prop} (hmay : mayUseData = true ↔ ¬ barred) :
    ShownExt barred fragment ext (Dictionary.insert
      (if mayUseData then withoutPartners ext else dropContextData (withoutPartners ext))
      "bidder" fragment) := by
  -- Beside the parameters and `context`, what is shown has the members without the partners.
  have hget : ∀ key, key ≠ "bidder" → key ≠ "context" → Dictionary.get? (Dictionary.insert
      (if mayUseData then withoutPartners ext else dropContextData (withoutPartners ext))
      "bidder" fragment) key = Dictionary.get? (withoutPartners ext) key := by
    intro key hbidder hcontext
    rw [Dictionary.get?_insert_of_ne _ _ hbidder]
    cases mayUseData with
    | true => rfl
    | false => exact get?_dropContextData hcontext
  have hcontext : Dictionary.get? (withoutPartners ext) "context" =
      Dictionary.get? ext "context" := by
    rw [get?_withoutPartners_of_kept (fun _ => by decide), get?_dropNested (by decide)]
  constructor
  case ordered =>
    intro h
    apply Dictionary.Ordered.insert
    cases mayUseData with
    | true => exact ordered_withoutPartners h
    | false => exact ordered_dropContextData (ordered_withoutPartners h)
  case bidder => exact Dictionary.get?_insert_self _ _ _
  case prebid =>
    rw [hget _ (by decide) (by decide), get?_withoutPartners_of_kept (fun _ => by decide),
      get?_prebid_dropNested]
  case context =>
    intro hbarred
    have hfalse : mayUseData = false := by
      cases mayUseData with
      | true => exact absurd hbarred (hmay.1 rfl)
      | false => rfl
    rw [Dictionary.get?_insert_of_ne _ _ (by decide), hfalse, if_neg (by decide),
      get?_context_dropContextData, hcontext]
  case contextKept =>
    intro hfree
    rw [Dictionary.get?_insert_of_ne _ _ (by decide), hmay.2 hfree, if_pos rfl, hcontext]
  case partnersGone =>
    intro hform key hbidder hkey
    have hne : key ≠ "context" := by
      rintro rfl
      exact hkey (by decide)
    rw [hget key hbidder hne, get?_withoutPartners_of_gone hform hkey]
  case othersKept =>
    intro key hkey hkept
    simp only [List.mem_cons, List.not_mem_nil, or_false, not_or] at hkey
    obtain ⟨hbidder, hprebid, hne⟩ := hkey
    rw [hget key hbidder hne, get?_withoutPartners_of_kept hkept, get?_dropNested hprebid]

/-! ## The imp that a partner is shown -/

/-- The imp as a partner is to see it: it names the partner, and is shown as it is but for its
extension. -/
structure ShownAs (partner : String) (barred : Prop) (imp shown : Imp) : Prop where
  rest : { shown with ext := imp.ext } = imp
  ext : ∃ old fragment new, imp.ext = some old ∧ imp.Names partner fragment ∧
    shown.ext = some new ∧ ShownExt barred fragment old new

theorem shownAs_scopedTo {mayUseData : Bool} {barred : Prop} (hmay : mayUseData = true ↔ ¬ barred)
    (h : imp.fragment? partner = some fragment) :
    imp.ShownAs partner barred (imp.scopedTo fragment mayUseData) where
  rest := rfl
  ext := by
    have hnames := fragment?_eq_some_iff.1 h
    obtain ⟨ext, hext⟩ : ∃ ext, imp.ext = some ext := by
      cases hnames with
      | nested hext _ _ _ => exact ⟨_, hext⟩
      | older hext _ _ _ => exact ⟨_, hext⟩
    exact ⟨ext, fragment, _, hext, hnames, ext_scopedTo hext fragment mayUseData,
      shownExt_insert ext fragment hmay⟩

end Imp

/-! ## Requests -/

namespace BidRequest

/-- The request lists the partners that may see first-party data, and this one is not among
them. -/
def BarsFromData (r : BidRequest) (partner : String) : Prop :=
  ∃ allowed, r.allowList? = some allowed ∧ partner ∉ allowed

variable {r : BidRequest} {partner : String}

theorem mayUseData_iff : r.mayUseData partner = true ↔ ¬ r.BarsFromData partner := by
  rw [mayUseData, BarsFromData, allowList?]
  cases (r.prebid?.bind (·.data)).bind (·.bidders) <;> simp

/-- The imps of a partner's view of a request are those that name it, each as the partner is to see
it. -/
theorem forall₂_impsFor (r : BidRequest) (partner : String) :
    List.Forall₂ (Imp.ShownAs partner (r.BarsFromData partner))
      (r.imps.filter fun imp => ∃ fragment, imp.Names partner fragment)
      (r.impsFor partner (r.mayUseData partner)) := by
  rw [impsFor]
  induction r.imps with
  | nil => exact .nil
  | cons imp imps ih =>
    cases hfragment : imp.fragment? partner with
    | none =>
      have hnot : ¬ ∃ fragment, imp.Names partner fragment := by
        rintro ⟨fragment, hnames⟩
        simp [Imp.fragment?_eq_some_iff.2 hnames] at hfragment
      rw [List.filter_cons_of_neg (by simpa using hnot), List.filterMap_cons_none]
      · exact ih
      · rw [hfragment]
        rfl
    | some fragment =>
      have hnames : ∃ fragment, imp.Names partner fragment :=
        ⟨fragment, Imp.fragment?_eq_some_iff.1 hfragment⟩
      rw [List.filter_cons_of_pos (by simpa using hnames), List.filterMap_cons_some]
      · exact .cons (Imp.shownAs_scopedTo mayUseData_iff hfragment) ih
      · rw [hfragment]
        rfl

end BidRequest

/-- A partner that is asked is shown, in their order, exactly the imps of the request that name it,
and there is one.  Each is shown as it is but for its extension, which has the partner's own
parameters under `bidder`, nothing else about partners, and no first-party data that the partner may
not see. -/
theorem scope_shows_imps {request : BidRequest} {catalog : Catalog} {multibid : Dictionary MultiBid}
    {decisions : List PrivacyDecision} {deadline : Deadline} {now : Nat} {s : ScopedRequests}
    {q : PartnerRequest} (h : scope request catalog multibid decisions deadline now = .ok s)
    (hq : q ∈ s.requests) :
    q.request.imps ≠ [] ∧
    List.Forall₂ (Imp.ShownAs q.partner (request.BarsFromData q.partner))
      (request.imps.filter fun imp => ∃ fragment, imp.Names q.partner fragment)
      q.request.imps := by
  obtain ⟨name, hname, partner, decision, own, -, hown, rfl⟩ := exists_view_of_mem_requests h hq
  rw [BidRequest.imps_masked, BidRequest.imps_of_scopeFor hown]
  exact ⟨BidRequest.impsFor_ne_nil hname, request.forall₂_impsFor name⟩

/-- An imp in the newer form that has a member `bidder` of its own, one that names `openx` alone,
and one in the older form where something else stands under `prebid.bidder`.  Only `openx` may see
first-party data. -/
def crowdedImps : BidRequest where
  id := "r"
  imps :=
    [{ id := "1", tagId := some "top", ext := some
        [("bidder", .nat 1), ("context", .object [("data", .nat 2), ("keywords", .string "k")]),
         ("gpid", .string "g"), ("prebid", .object [("bidder", .object [("rubicon", .nat 3)])])] },
     { id := "2", ext := some [("openx", .nat 4)] },
     { id := "3", ext := some
        [("context", .object [("data", .nat 5)]), ("openx", .nat 6),
         ("prebid", .object [("bidder", .nat 7), ("stored", .nat 8)]), ("rubicon", .nat 9)] }]
  ext := some { prebid := some { data := some { bidders := some ["openx"] } } }

def scopeCrowded : Except AuctionError ScopedRequests := scope crowdedImps twoPartners [] [] ⟨10⟩ 0

theorem scope_shows_imps_crowdedImps : ∃ s q, scopeCrowded = .ok s ∧ q ∈ s.requests ∧
    q.partner = "rubicon" ∧
    q.request.imps.map (fun imp => (imp.id, imp.tagId, imp.ext)) =
      [("1", some "top", some
        [("bidder", .nat 3), ("context", .object [("keywords", .string "k")]),
         ("gpid", .string "g")]),
       ("3", none, some
        [("bidder", .nat 9), ("context", .object []), ("prebid", .object [("stored", .nat 8)])])] ∧
    q.request.imps ≠ [] ∧
    List.Forall₂ (Imp.ShownAs "rubicon" (crowdedImps.BarsFromData "rubicon"))
      (crowdedImps.imps.filter fun imp => ∃ fragment, imp.Names "rubicon" fragment)
      q.request.imps := by
  let s := scopeCrowded.toOption.getD {}
  let q := s.requests.get ⟨0, by decide⟩
  have h : scopeCrowded = .ok s := rfl
  have hq : q ∈ s.requests := List.get_mem _ _
  exact ⟨s, q, h, hq, rfl, rfl, scope_shows_imps h hq⟩

end AdExchange
