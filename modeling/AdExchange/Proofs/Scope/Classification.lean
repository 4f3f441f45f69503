import AdExchange.Proofs.Scope.Standings
import Mathlib.Data.List.Induction

/-!
# Every name is accounted for

A request names partners in its imps.  Each name is in one of four classes, whatever the other names
are: it has a request, or a warning, or it is blocked and has neither.  Scoping fails only for want
of an imp, or because what is meant for a partner that would be asked cannot be merged into the
request.
-/

namespace AdExchange

/-! ## The names -/

/-- The items of a list, each once, in the order in which they first come up. -/
structure FirstAppearances (l names : List String) : Prop where
  nodup : names.Nodup
  mem_iff : ∀ name, name ∈ names ↔ name ∈ l
  ascending : names.Pairwise fun a b => l.idxOf a < l.idxOf b

theorem eraseDups_concat (l : List String) (a : String) :
    (l ++ [a]).eraseDups = if a ∈ l then l.eraseDups else l.eraseDups ++ [a] := by
  rw [List.eraseDups_append]
  by_cases h : a ∈ l
  · simp [List.removeAll, h]
  · simp [List.removeAll, h, List.eraseDups_cons]

theorem firstAppearances_eraseDups (l : List String) : FirstAppearances l l.eraseDups where
  nodup := nodup_eraseDups l
  mem_iff _ := List.mem_eraseDups
  ascending := by
    induction l using List.reverseRecOn with
    | nil => exact List.Pairwise.nil
    | append_singleton l a ih =>
      -- An item that has come up before has its first place there.
      have hold : l.eraseDups.Pairwise fun b c => (l ++ [a]).idxOf b < (l ++ [a]).idxOf c := by
        refine ih.imp_of_mem ?_
        intro b c hb hc hlt
        rw [List.idxOf_append_of_mem (List.mem_eraseDups.1 hb),
          List.idxOf_append_of_mem (List.mem_eraseDups.1 hc)]
        exact hlt
      rw [eraseDups_concat]
      by_cases ha : a ∈ l
      · rw [if_pos ha]
        exact hold
      · rw [if_neg ha, List.pairwise_append]
        refine ⟨hold, List.pairwise_singleton _ _, ?_⟩
        intro b hb c hc
        obtain rfl : c = a := List.mem_singleton.1 hc
        have hbl : b ∈ l := List.mem_eraseDups.1 hb
        rw [List.idxOf_append_of_mem hbl, List.idxOf_append_of_notMem ha]
        have hlt : l.idxOf b < l.length := List.idxOf_lt_length_iff.2 hbl
        omega

namespace BidRequest

/-- The names that the imps bring up, each as often as it is there. -/
def mentions (r : BidRequest) : List String :=
  r.imps.flatMap fun imp => Dictionary.keys imp.partners.configs

/-! ## When scoping fails -/

variable {r : BidRequest} {partner code : String} {multibid : Option MultiBid}

/-- The partner may see first-party data, and what is meant for it cannot be merged into the
request. -/
def MergeFails (r : BidRequest) (partner : String) : Prop :=
  r.mayUseData partner = true ∧ ∃ f, r.fragmentsFor? partner = some f ∧
    ∃ e, r.mergeFragments f = .error e

theorem mergeFragments_eq_error_iff {f : OrtbFragments} {e : AuctionError} :
    r.mergeFragments f = .error e ↔ r.mergedSections f = .error e := by
  rw [mergeFragments_eq]
  cases r.mergedSections f with
  | error e => simp
  | ok merged => simp

/-- The sections that are meant for a partner cannot be made exactly if merging fails. -/
theorem sectionsFor_eq_error_iff :
    (∃ e, r.sectionsFor partner = .error e) ↔ r.MergeFails partner := by
  rw [sectionsFor, MergeFails]
  cases r.mayUseData partner with
  | false => simp
  | true =>
    cases r.fragmentsFor? partner with
    | none => simp
    | some f => simp

/-- A partner's view of a request cannot be made exactly if merging fails. -/
theorem scopeFor_eq_error_iff :
    (∃ e, r.scopeFor partner code multibid = .error e) ↔ r.MergeFails partner := by
  let shown : BidRequest := { r with imps := r.impsFor partner (r.mayUseData partner) }
  -- The imps have no part in it.
  have hsame : shown.MergeFails partner ↔ r.MergeFails partner := by
    simp only [MergeFails, mergeFragments_eq_error_iff]
    exact Iff.rfl
  rw [← hsame, ← sectionsFor_eq_error_iff, scopeFor]
  cases shown.sectionsFor partner with
  | error e => simp
  | ok own => simp

/-- A partner that comes up is shown an imp. -/
theorem impsFor_ne_nil {mayUseData : Bool} (h : partner ∈ r.partnerNames) :
    r.impsFor partner mayUseData ≠ [] := by
  obtain ⟨imp, himp, hfragment⟩ := mem_partnerNames.1 h
  obtain ⟨fragment, hfragment⟩ := Option.isSome_iff_exists.1 hfragment
  have hmem : imp.scopedTo fragment mayUseData ∈ r.impsFor partner mayUseData :=
    List.mem_filterMap.2 ⟨imp, himp, by rw [hfragment]; rfl⟩
  exact List.ne_nil_of_mem hmem

end BidRequest

section Scope

variable {request : BidRequest} {catalog : Catalog} {multibid : Dictionary MultiBid}
  {decisions : List PrivacyDecision} {deadline : Deadline} {now : Nat} {s : ScopedRequests}

theorem contribution_eq_error_iff {name : String} :
    (∃ e, contribution request catalog multibid decisions deadline now name = .error e) ↔
      (Standing.of catalog request.aliases decisions name).nameClass = .emitted ∧
        request.MergeFails name := by
  rw [contribution]
  cases Standing.of catalog request.aliases decisions name with
  | unknown => simp [Standing.nameClass]
  | disabled => simp [Standing.nameClass]
  | blocked => simp [Standing.nameClass]
  | eligible partner decision =>
    rw [← BidRequest.scopeFor_eq_error_iff]
    simp only [Standing.nameClass, true_and]
    cases request.scopeFor name partner.name (Dictionary.get? multibid name) with
    | error e => simp
    | ok own => simp [pure, Except.pure]

/-- Scoping fails exactly if there is no imp, or if what is meant for a partner that is to be asked
cannot be merged. -/
theorem scope_eq_error_iff :
    (∃ e, scope request catalog multibid decisions deadline now = .error e) ↔
      request.imps = [] ∨ ∃ name ∈ request.partnerNames,
        (Standing.of catalog request.aliases decisions name).nameClass = .emitted ∧
          request.MergeFails name := by
  have hpart : ∀ name, ((Standing.of catalog request.aliases decisions name).nameClass = .emitted ∧
      request.MergeFails name) ↔
      ∃ e, contribution request catalog multibid decisions deadline now name = .error e :=
    fun _ => contribution_eq_error_iff.symm
  simp only [hpart]
  rw [← mapM_eq_error_iff, scope]
  by_cases h : request.imps = []
  · simp [h]
  · simp only [List.isEmpty_iff, h, if_false, false_or]
    cases request.partnerNames.mapM
        (contribution request catalog multibid decisions deadline now) with
    | error e => simp
    | ok parts => simp [pure, Except.pure]

/-! ## What scoping comes to -/

/-- The requests are for the emitted names, each with the name of the partner in the catalog and
with an imp, and the warnings are about the unknown and the disabled names, all in the order of the
names. -/
structure ScopedRequests.ClassifiedBy (request : BidRequest) (catalog : Catalog)
    (classOf : String → NameClass) (s : ScopedRequests) : Prop where
  partners : s.requests.map (·.partner) =
    request.partnerNames.filter fun name => classOf name = .emitted
  codes : ∀ q ∈ s.requests, ∃ partner,
    catalog.LeadsTo request.aliases q.partner partner ∧ q.code = partner.name
  imps : ∀ q ∈ s.requests, q.request.imps ≠ []
  warnings : s.warnings = request.partnerNames.filterMap fun name => (classOf name).warning? name

/-- The warnings of a successful scoping, name by name. -/
theorem warnings_of_scope (h : scope request catalog multibid decisions deadline now = .ok s) :
    s.warnings = request.partnerNames.filterMap fun name =>
      (Standing.of catalog request.aliases decisions name).nameClass.warning? name := by
  obtain ⟨-, parts, hparts, rfl⟩ := scope_eq_ok_iff.1 h
  refine (filterMap_of_forall₂_ok hparts).trans (List.filterMap_congr ?_)
  intro name _
  rw [contribution]
  cases Standing.of catalog request.aliases decisions name with
  | unknown => rfl
  | disabled => rfl
  | blocked => rfl
  | eligible partner decision =>
    dsimp only
    cases request.scopeFor name partner.name (Dictionary.get? multibid name) with
    | error e => rfl
    | ok own => rfl

theorem classifiedBy_scope (h : scope request catalog multibid decisions deadline now = .ok s) :
    s.ClassifiedBy request catalog fun name =>
      (Standing.of catalog request.aliases decisions name).nameClass where
  partners := partners_eq_filter h
  warnings := warnings_of_scope h
  codes := by
    intro q hq
    obtain ⟨name, -, partner, decision, own, hstanding, -, rfl⟩ := exists_view_of_mem_requests h hq
    obtain ⟨hresolve, -, -⟩ := Standing.of_eq_eligible hstanding
    exact ⟨partner, Catalog.resolve?_eq_some_iff.1 hresolve, rfl⟩
  imps := by
    intro q hq
    obtain ⟨name, hname, partner, decision, own, -, hown, rfl⟩ := exists_view_of_mem_requests h hq
    rw [BidRequest.imps_masked, BidRequest.imps_of_scopeFor hown]
    exact BidRequest.impsFor_ne_nil hname

/-- Where no name has two decisions, each name is in exactly one class, in the order in which the
names first come up.  A successful scoping has what the classes of the names say; scoping fails
exactly if there is no imp or if merging fails for a name that is to be emitted. -/
theorem scope_classifies (honce : (decisions.map (·.partner)).Nodup) :
    FirstAppearances request.mentions request.partnerNames ∧
    ∃ classOf : String → NameClass,
      (∀ name k, classOf name = k ↔
        k.Holds catalog request.aliases (PrivacyDecision.Blocks decisions name) name) ∧
      (∀ s, scope request catalog multibid decisions deadline now = .ok s →
        s.ClassifiedBy request catalog classOf) ∧
      ((∃ e, scope request catalog multibid decisions deadline now = .error e) ↔
        request.imps = [] ∨ ∃ name ∈ request.partnerNames,
          classOf name = .emitted ∧ request.MergeFails name) := by
  refine ⟨firstAppearances_eraseDups _, _, ?_, fun s h => classifiedBy_scope h,
    scope_eq_error_iff⟩
  intro name k
  rw [Standing.nameClass_of_eq_iff, PrivacyDecision.bars_iff_blocks honce]

end Scope

/-- Brings up a partner by its own name and by another one, an unknown partner, a partner that takes
no part and one that is barred. -/
def mixedNames : BidRequest where
  id := "r"
  imps := [{ id := "1", ext := some [("other", .nat 1), ("stranger", .nat 1)] },
    { id := "2", ext := some [("a", .nat 1), ("b", .nat 1), ("off", .nat 1), ("other", .nat 1)] }]
  ext := some { prebid := some { aliases := some [("other", "a")] } }

/-- The partners `a` and `b`, and `off`, which takes no part. -/
def mixedCatalog : Catalog :=
  .ofList [{ id := 1, name := "a", endpoint := "http://a" },
    { id := 2, name := "b", endpoint := "http://b" },
    { id := 3, name := "off", endpoint := "http://off", enabled := false }]

/-- One decision for each of two names. -/
def decisionsOnce : List PrivacyDecision := [.block "b", .allow "a"]

theorem scope_classifies_mixedNames : ∃ s,
    scope mixedNames mixedCatalog [] decisionsOnce ⟨500⟩ 0 = .ok s ∧
    s.requests.map (fun q => (q.partner, q.code, q.request.imps.map (·.id))) =
      [("other", "a", ["1", "2"]), ("a", "a", ["2"])] ∧
    s.warnings = [.unknown "stranger", .disabled "off"] ∧
    ∃ classOf : String → NameClass,
      (∀ name k, classOf name = k ↔ k.Holds mixedCatalog mixedNames.aliases
        (PrivacyDecision.Blocks decisionsOnce name) name) ∧
      s.ClassifiedBy mixedNames mixedCatalog classOf := by
  have hscope : scope mixedNames mixedCatalog [] decisionsOnce ⟨500⟩ 0 =
      .ok ((scope mixedNames mixedCatalog [] decisionsOnce ⟨500⟩ 0).toOption.getD {}) := rfl
  obtain ⟨-, classOf, hclass, hok, -⟩ :=
    @scope_classifies mixedNames mixedCatalog [] decisionsOnce ⟨500⟩ 0 (by decide)
  exact ⟨_, hscope, rfl, rfl, classOf, hclass, hok _ hscope⟩

end AdExchange
