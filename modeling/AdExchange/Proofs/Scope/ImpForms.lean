import AdExchange.Proofs.Scope.Isolation

/-!
# The two forms of an imp mean the same

In the older form the partners of an imp are members of its extension, beside members that never
name one; in the newer form they stand under `prebid.bidder`.  Moving them there changes nothing:
the same names come up in the same order, and each partner is shown the same imp, because what the
one form leaves out by its keys the other one leaves out as a whole.
-/

namespace AdExchange

/-! ## Imps -/

namespace Imp

/-- An extension in the older form: no object stands under `prebid.bidder`, and `prebid` is an
object or absent. -/
structure OlderExt (ext : Dictionary Json) : Prop where
  ordered : Dictionary.Ordered ext
  nested : nestedPartners? ext = none
  prebid : ∀ v, Dictionary.get? ext "prebid" = some v → ∃ prebid, v = .object prebid

/-- The imp has its extension, if it has one, in the older form. -/
def InOlderForm (imp : Imp) : Prop := ∀ ext, imp.ext = some ext → OlderExt ext

/-- An extension whose members that name partners are moved under `prebid.bidder`. -/
def moveNested (ext : Dictionary Json) : Dictionary Json :=
  let prebid := ((Dictionary.get? ext "prebid").bind (·.asObject?)).getD []
  let configs := ext.filter fun e => !reservedImpKeys.contains e.1
  Dictionary.insert (ext.filter fun e => reservedImpKeys.contains e.1) "prebid"
    (.object (Dictionary.insert prebid "bidder" (.object configs)))

/-- What comes of an imp when its partners are moved under `prebid.bidder`.  Where there are none,
nothing need be moved. -/
inductive MovedTo (imp : Imp) : Imp → Prop where
  | moved : MovedTo imp { imp with ext := some (moveNested (imp.ext.getD [])) }
  | unnamed (h : imp.partners.configs = []) : MovedTo imp imp

theorem nestedPartners?_moveNested (ext : Dictionary Json) :
    nestedPartners? (moveNested ext) =
      some (ext.filter fun e => !reservedImpKeys.contains e.1) :=
  nestedPartners?_eq_some_iff.2
    ⟨_, Dictionary.get?_insert_self _ _ _, Dictionary.get?_insert_self _ _ _⟩

/-- Once the partners are dropped, the members that never name one are left, whichever form the
extension had. -/
theorem dropNested_moveNested {ext : Dictionary Json} (h : OlderExt ext) :
    dropNested (moveNested ext) =
      (dropNested ext).filter fun e => reservedImpKeys.contains e.1 := by
  have hget : Dictionary.get? (ext.filter fun e => reservedImpKeys.contains e.1) "prebid" =
      Dictionary.get? ext "prebid" := by
    rw [Dictionary.get?_filter ext (reservedImpKeys.contains ·), if_pos (by decide)]
  have hmoved : Dictionary.get? (moveNested ext) "prebid" = some (.object (Dictionary.insert
      (((Dictionary.get? ext "prebid").bind (·.asObject?)).getD []) "bidder"
      (.object (ext.filter fun e => !reservedImpKeys.contains e.1)))) :=
    Dictionary.get?_insert_self _ _ _
  unfold dropNested
  rw [hmoved]
  dsimp only
  rw [Dictionary.erase_insert]
  cases hp : Dictionary.get? ext "prebid" with
  | none =>
    rw [hp] at hget
    simp only [Option.bind_none, Option.getD_none, moveNested]
    rw [if_pos (by rfl), Dictionary.erase_insert, Dictionary.erase_of_get?_eq_none hget]
  | some v =>
    obtain ⟨prebid, rfl⟩ := h.prebid v hp
    rw [hp] at hget
    -- Either nothing is left of `prebid` in both forms, or the same is left of it.
    simp only [Option.bind_some, Json.asObject?, Option.getD_some, moveNested, hp]
    split
    · rw [Dictionary.erase_insert, Dictionary.erase, Dictionary.erase, List.filter_filter,
        List.filter_filter]
      exact List.filter_congr fun e _ => Bool.and_comm _ _
    · rw [Dictionary.Ordered.insert_eq_modify (h.ordered.filter _) hget, Dictionary.modify_modify,
        Dictionary.filter_modify _ _ _ (reservedImpKeys.contains ·)]
      rfl

variable {imp imp' : Imp}

theorem partners_moved (imp : Imp) :
    ({ imp with ext := some (moveNested (imp.ext.getD [])) } : Imp).partners =
      ⟨(imp.ext.getD []).filter fun e => !reservedImpKeys.contains e.1, false⟩ := by
  rw [partners]
  dsimp only
  rw [nestedPartners?_moveNested]

theorem InOlderForm.partners_eq (h : imp.InOlderForm) :
    imp.partners =
      ⟨(imp.ext.getD []).filter fun e => !reservedImpKeys.contains e.1, imp.ext.isSome⟩ := by
  rw [partners]
  cases hx : imp.ext with
  | none => rfl
  | some ext => simp [(h ext hx).nested]

/-- The partners of an imp stay the same, with their parameters. -/
theorem MovedTo.configs_eq (hmoved : imp.MovedTo imp') (h : imp.InOlderForm) :
    imp'.partners.configs = imp.partners.configs := by
  cases hmoved with
  | moved => rw [partners_moved, h.partners_eq]
  | unnamed _ => rfl

/-- A partner is shown an imp that names it alike. -/
theorem MovedTo.scopedTo_eq (hmoved : imp.MovedTo imp') (h : imp.InOlderForm) {partner : String}
    {fragment : Json} (hfragment : imp.fragment? partner = some fragment) (mayUseData : Bool) :
    imp'.scopedTo fragment mayUseData = imp.scopedTo fragment mayUseData := by
  cases hmoved with
  | unnamed _ => rfl
  | moved =>
    cases hx : imp.ext with
    | none => simp [fragment?, h.partners_eq, hx] at hfragment
    | some ext =>
      unfold scopedTo
      rw [← hx, partners_moved, h.partners_eq]
      simp only [hx, Option.getD_some, Option.isSome_some, if_true, Bool.false_eq_true, if_false,
        dropNested_moveNested (h ext hx)]

end Imp

/-! ## Requests -/

namespace BidRequest

variable {r : BidRequest} {imps : List Imp}

/-- The same names come up in the same order. -/
theorem partnerNames_moved (hform : ∀ imp ∈ r.imps, imp.InOlderForm)
    (hmoved : List.Forall₂ Imp.MovedTo r.imps imps) :
    ({ r with imps } : BidRequest).partnerNames = r.partnerNames := by
  have h := (List.forall₂_and_left _ _).2 ⟨hform, hmoved⟩
  have hkeys : imps.map (fun imp => Dictionary.keys imp.partners.configs) =
      r.imps.map fun imp => Dictionary.keys imp.partners.configs :=
    map_eq_of_forall₂ h fun imp imp' hi => by rw [hi.2.configs_eq hi.1]
  rw [partnerNames, partnerNames, List.flatMap_def, List.flatMap_def, hkeys]

/-- A partner is shown the same imps. -/
theorem impsFor_moved (hform : ∀ imp ∈ r.imps, imp.InOlderForm)
    (hmoved : List.Forall₂ Imp.MovedTo r.imps imps) (partner : String) (mayUseData : Bool) :
    ({ r with imps } : BidRequest).impsFor partner mayUseData = r.impsFor partner mayUseData := by
  have h := (List.forall₂_and_left _ _).2 ⟨hform, hmoved⟩
  have hshown : imps.map (fun imp =>
        (imp.fragment? partner).map fun fragment => imp.scopedTo fragment mayUseData) =
      r.imps.map fun imp =>
        (imp.fragment? partner).map fun fragment => imp.scopedTo fragment mayUseData := by
    refine map_eq_of_forall₂ h ?_
    rintro imp imp' ⟨hi, hi'⟩
    have hsame : imp'.fragment? partner = imp.fragment? partner := by
      rw [Imp.fragment?, Imp.fragment?, hi'.configs_eq hi]
    rw [hsame]
    cases hf : imp.fragment? partner with
    | none => rfl
    | some fragment => rw [Option.map_some, Option.map_some, hi'.scopedTo_eq hi hf]
  simpa [impsFor, List.filterMap_map] using congrArg (List.filterMap fun shown => shown) hshown

/-- A partner's view of a request is the same. -/
theorem scopeFor_moved (hform : ∀ imp ∈ r.imps, imp.InOlderForm)
    (hmoved : List.Forall₂ Imp.MovedTo r.imps imps) (partner code : String)
    (multibid : Option MultiBid) :
    ({ r with imps } : BidRequest).scopeFor partner code multibid =
      r.scopeFor partner code multibid := by
  simp only [scopeFor, impsFor_moved hform hmoved]
  rfl

end BidRequest

/-- A request whose imps are in the older form is scoped as it is with their partners moved under
`prebid.bidder`: the same requests and warnings come of it, or the same error. -/
theorem scope_forms_agree {request : BidRequest} {imps : List Imp}
    (hform : ∀ imp ∈ request.imps, imp.InOlderForm)
    (hmoved : List.Forall₂ Imp.MovedTo request.imps imps) (catalog : Catalog)
    (multibid : Dictionary MultiBid) (decisions : List PrivacyDecision) (deadline : Deadline)
    (now : Nat) :
    scope { request with imps } catalog multibid decisions deadline now =
      scope request catalog multibid decisions deadline now := by
  have hempty : imps.isEmpty = request.imps.isEmpty := by
    have hlength := hmoved.length_eq
    rw [Bool.eq_iff_iff]
    simp [List.isEmpty_iff, ← List.length_eq_zero_iff, hlength]
  have hcontribution : contribution { request with imps } catalog multibid decisions deadline now =
      contribution request catalog multibid decisions deadline now := by
    funext name
    simp only [contribution, BidRequest.scopeFor_moved hform hmoved]
    rfl
  rw [scope, scope, BidRequest.partnerNames_moved hform hmoved, hcontribution]
  dsimp only
  rw [hempty]

/-- An imp whose `prebid` holds something else and no partners, beside partners one of which is
called `bidder`; one without an extension; and one whose `prebid` is empty. -/
def olderForm : BidRequest where
  id := "r"
  imps :=
    [{ id := "1", ext := some
        [("bidder", .nat 1), ("context", .object [("data", .nat 5)]),
         ("prebid", .object [("bidder", .null), ("stored", .nat 6)]), ("rubicon", .nat 2)] },
     { id := "2" },
     { id := "3", ext := some [("openx", .nat 3), ("prebid", .object [])] }]

def newerForm : List Imp :=
  [{ id := "1", ext := some
      [("context", .object [("data", .nat 5)]),
       ("prebid", .object
        [("bidder", .object [("bidder", .nat 1), ("rubicon", .nat 2)]), ("stored", .nat 6)])] },
   { id := "2" },
   { id := "3", ext := some [("prebid", .object [("bidder", .object [("openx", .nat 3)])])] }]

def scopeForm (imps : List Imp) : Except AuctionError ScopedRequests :=
  scope { olderForm with imps } twoPartners [] [] ⟨10⟩ 0

theorem scope_forms_agree_olderForm : (∃ s, scopeForm olderForm.imps = .ok s ∧
      s.requests.map (fun q => (q.partner, q.request.imps.map (·.id))) =
        [("rubicon", ["1"]), ("openx", ["3"])] ∧
      s.warnings = [.unknown "bidder"]) ∧
    scopeForm newerForm = scopeForm olderForm.imps := by
  have hform : ∀ imp ∈ olderForm.imps, imp.InOlderForm := by
    intro imp himp ext hext
    simp only [olderForm, List.mem_cons, List.not_mem_nil, or_false] at himp
    rcases himp with rfl | rfl | rfl
    · cases hext
      exact ⟨by decide, rfl, fun v hv => ⟨_, (Option.some.inj hv).symm⟩⟩
    · cases hext
    · cases hext
      exact ⟨by decide, rfl, fun v hv => ⟨_, (Option.some.inj hv).symm⟩⟩
  have hmoved : List.Forall₂ Imp.MovedTo olderForm.imps newerForm :=
    .cons .moved (.cons (.unnamed rfl) (.cons .moved .nil))
  exact ⟨⟨_, rfl, rfl, rfl⟩, scope_forms_agree hform hmoved _ _ _ _ _⟩

end AdExchange
