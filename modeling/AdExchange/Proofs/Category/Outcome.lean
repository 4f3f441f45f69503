import AdExchange.Proofs.Category.Contest
import AdExchange.Proofs.Category.Places
import AdExchange.Proofs.Results

/-!
# What the mapping of video bids comes to

A video bid is rejected for its form, for its category, or because another one of its group wins.
The rejections come up in three places and are sorted at last.  That none is lost or doubled is
seen from what is conserved: at each stage the video bids are the rejected ones together with those
that go on.

## Main definitions

* `MappingRules.contender?` — what a video bid competes as, if it comes to that.
* `MappingRules.contenders`, `MappingRules.contest` — all that compete, and how that ends.
* `MappingRules.Priced` — the prices have buckets.

## Main statements

* `mapByRules_eq_none_iff` — there is no mapping if a price has no bucket.
* `refs_rejections` — the rejections are those of some video bids, in the order of the bids.
* `names_rejections` — the rejections name the bids at their places, in the order of the bids.
* `eq_of_place_rejections` — a place has one rejection at most.
* `not_rejected_iff_wins` — of those that compete the winners are not rejected.
* `duplicate_mem_rejections` — the others are rejected as duplicates.
-/

namespace AdExchange

namespace MappingRules

variable (store : CategoryStore) (rules : MappingRules) (deadline : Deadline) (now : Nat)

/-- Each video bid whose form is right has a price with a bucket. -/
def Priced (rules : MappingRules) (responses : List PartnerResponse) : Prop :=
  ∀ e ∈ videoEntries responses, ∀ form, rules.categoryAndDuration e.bid = .ok form →
    rules.granularity.bucket? e.bid.price ≠ none

/-- What a candidate competes as, or why it is rejected. -/
def resolve (c : Candidate) : Except Rejection Contender :=
  match rules.adServer with
  | none => .ok ⟨c, c.rawCategory⟩
  | some adServer =>
    c.translated adServer rules.publisher
      (deadline.await now (store.lookup adServer.name rules.publisher c.rawCategory)).value

/-- What a video bid competes as, if its form is right and its category is known. -/
def contender? (e : VideoEntry) : Option Contender :=
  match rules.assess e with
  | some (.ok c) => (rules.resolve store deadline now c).toOption
  | _ => none

/-- All that compete, in the order of the bids. -/
def contenders (responses : List PartnerResponse) : List Contender :=
  (videoEntries responses).filterMap (rules.contender? store deadline now)

/-- How the contest of the bids ends. -/
def contest (responses : List PartnerResponse) : Contest :=
  .of rules.withCategory (rules.contenders store deadline now responses)

variable {store rules deadline now} {e : VideoEntry} {c : Candidate} {r : Rejection} {k : Contender}

theorem assess_eq_none_iff :
    rules.assess e = none ↔ (∃ form, rules.categoryAndDuration e.bid = .ok form) ∧
      rules.granularity.bucket? e.bid.price = none := by
  rw [assess]
  cases h : rules.categoryAndDuration e.bid with
  | error reason => simp
  | ok form => simp

theorem priced_iff {responses : List PartnerResponse} :
    rules.Priced responses ↔ ∀ e ∈ videoEntries responses, (rules.assess e).isSome := by
  simp only [Priced, Option.isSome_iff_ne_none, ne_eq, assess_eq_none_iff, not_and,
    forall_exists_index]

instance (rules : MappingRules) (responses : List PartnerResponse) :
    Decidable (rules.Priced responses) :=
  decidable_of_iff _ priced_iff.symm

theorem ref_of_assess_ok (h : rules.assess e = some (.ok c)) : c.toBidRef = e.ref := by
  rw [assess] at h
  split at h
  · simp at h
  · obtain ⟨bucket, -, heq⟩ := Option.map_eq_some_iff.1 h
    cases heq
    rfl

theorem ref_of_assess_error (h : rules.assess e = some (.error r)) : r.toBidRef = e.ref := by
  rw [assess] at h
  split at h
  · cases h
    rfl
  · obtain ⟨bucket, -, heq⟩ := Option.map_eq_some_iff.1 h
    cases heq

theorem candidate_of_resolve_ok (h : rules.resolve store deadline now c = .ok k) :
    k.candidate = c := by
  simp only [resolve, Candidate.translated] at h
  split at h
  · cases h
    rfl
  · split at h <;> cases h
    rfl

theorem ref_of_resolve_error (h : rules.resolve store deadline now c = .error r) :
    r.toBidRef = c.toBidRef := by
  simp only [resolve, Candidate.translated] at h
  split at h
  · cases h
  · split at h <;> cases h <;> rfl

theorem value_translate (candidates : List Candidate) :
    (translate store rules deadline now candidates).value =
      candidates.map (rules.resolve store deadline now) := by
  unfold translate resolve
  cases rules.adServer with
  | none => rfl
  | some adServer => simp

/-- What competes is the candidate that a video bid makes. -/
theorem assess_of_contender? (h : rules.contender? store deadline now e = some k) :
    rules.assess e = some (.ok k.candidate) := by
  rw [contender?] at h
  split at h
  · next c hc =>
    cases hk : rules.resolve store deadline now c with
    | error r => simp [hk, Except.toOption] at h
    | ok k' =>
      simp only [hk, Except.toOption, Option.some.injEq] at h
      rw [hc, ← h, candidate_of_resolve_ok hk]
  · simp at h

theorem ref_of_contender? (h : rules.contender? store deadline now e = some k) :
    k.candidate.toBidRef = e.ref :=
  ref_of_assess_ok (assess_of_contender? h)

theorem ascending_contenders (store : CategoryStore) (rules : MappingRules) (deadline : Deadline)
    (now : Nat) (responses : List PartnerResponse) :
    Ascending Contender.position (rules.contenders store deadline now responses) := by
  refine (ascending_videoEntries responses).filterMap ?_
  intro e _ k hk
  exact congrArg BidRef.position (ref_of_contender? hk)

theorem settled_contest (store : CategoryStore) (rules : MappingRules) (deadline : Deadline)
    (now : Nat) (responses : List PartnerResponse) :
    Contest.Settled rules.withCategory (rules.contenders store deadline now responses)
      (rules.contest store deadline now responses) :=
  Contest.settled_of (ascending_contenders store rules deadline now responses)

end MappingRules

open MappingRules

section Outcome

variable {store : CategoryStore} {rules : MappingRules} {deadline : Deadline} {now : Nat}
  {responses : List PartnerResponse} {m : Timed CategoryMapping}
  {assessed : List (Except Rejection Candidate)}

/-- There is no mapping exactly if a bid of the right form has a price without a bucket. -/
theorem mapByRules_eq_none_iff :
    mapByRules store rules deadline now responses = none ↔ ¬ rules.Priced responses := by
  have hassessed :
      (videoEntries responses).mapM rules.assess = none ↔ ¬ rules.Priced responses := by
    simp [priced_iff, mapM_eq_none_iff]
  rw [← hassessed, mapByRules]
  cases (videoEntries responses).mapM rules.assess with
  | none => simp
  | some assessed => simp

theorem priced_of_mapByRules (h : mapByRules store rules deadline now responses = some m) :
    rules.Priced responses := by
  by_contra hnot
  simp [mapByRules_eq_none_iff.2 hnot] at h

/-- Those that compete are what is left of the assessed bids. -/
theorem contenders_eq_successes
    (h : List.Forall₂ (fun e a => rules.assess e = some a) (videoEntries responses) assessed) :
    successes ((successes assessed).map (rules.resolve store deadline now)) =
      rules.contenders store deadline now responses := by
  rw [contenders]
  generalize videoEntries responses = entries at h ⊢
  induction h with
  | nil => rfl
  | @cons e a _ _ ha _ ih =>
    cases a with
    | error r =>
      have hk : rules.contender? store deadline now e = none := by simp [contender?, ha]
      rw [successes_error_cons, List.filterMap_cons_none hk, ih]
    | ok c =>
      have hk : rules.contender? store deadline now e =
          (rules.resolve store deadline now c).toOption := by simp [contender?, ha]
      rw [successes_ok_cons, List.map_cons]
      cases hc : rules.resolve store deadline now c with
      | error r =>
        rw [hc] at hk
        rw [successes_error_cons, List.filterMap_cons_none hk, ih]
      | ok k =>
        rw [hc] at hk
        rw [successes_ok_cons, List.filterMap_cons_some hk, ih]

/-- No video bid is lost or doubled when the form of all is assessed. -/
theorem perm_refs_assessed
    (h : List.Forall₂ (fun e a => rules.assess e = some a) (videoEntries responses) assessed) :
    ((failures assessed).map (·.toBidRef) ++ (successes assessed).map (·.toBidRef)).Perm
      ((videoEntries responses).map VideoEntry.ref) := by
  apply perm_failures_successes
  rw [List.forall₂_map_left_iff]
  refine h.imp ?_
  intro e a ha
  exact ⟨fun r hr => ref_of_assess_error (hr ▸ ha), fun c hc => ref_of_assess_ok (hc ▸ ha)⟩

/-- Nor when the categories of the candidates are looked up. -/
theorem perm_refs_resolved (store : CategoryStore) (rules : MappingRules) (deadline : Deadline)
    (now : Nat) (candidates : List Candidate) :
    ((failures (candidates.map (rules.resolve store deadline now))).map (·.toBidRef) ++
      (successes (candidates.map (rules.resolve store deadline now))).map
        (·.candidate.toBidRef)).Perm (candidates.map (·.toBidRef)) := by
  apply perm_failures_successes
  rw [List.forall₂_map_left_iff, List.forall₂_map_right_iff, List.forall₂_same]
  intro c _
  refine ⟨fun r hr => ref_of_resolve_error hr, fun k hk => ?_⟩
  rw [candidate_of_resolve_ok hk]

/-- What a mapping is made of. -/
theorem parts_of_mapByRules (h : mapByRules store rules deadline now responses = some m) :
    ∃ assessed,
      List.Forall₂ (fun e a => rules.assess e = some a) (videoEntries responses) assessed ∧
      m.value.rejections =
        (failures assessed ++
          failures ((successes assessed).map (rules.resolve store deadline now)) ++
          (rules.contest store deadline now responses).losers.map Contender.duplicate).mergeSort
            (fun r s => r.position ≤ s.position) ∧
      m.value.responses = withoutPlaces (m.value.rejections.map (·.place)) responses ∧
      m.value.keys =
        displayKeys rules.withCategory (rules.contest store deadline now responses).winners := by
  simp only [mapByRules, Option.bind_eq_bind, Option.bind_eq_some_iff, mapM_eq_some_iff] at h
  obtain ⟨assessed, hassessed, h⟩ := h
  cases h
  refine ⟨assessed, hassessed, ?_, rfl, ?_⟩
  · simp only [value_translate, contenders_eq_successes hassessed, contest]
  · simp only [value_translate, contenders_eq_successes hassessed, contest]

/-- How a successful mapping divides the video bids: the rejected ones together with the winners
are all of them. -/
theorem perm_refs_rejections (h : mapByRules store rules deadline now responses = some m) :
    (m.value.rejections.map (·.toBidRef) ++
      (rules.contest store deadline now responses).winners.map (·.candidate.toBidRef)).Perm
        ((videoEntries responses).map VideoEntry.ref) := by
  obtain ⟨assessed, hassessed, hrej, -, -⟩ := parts_of_mapByRules h
  have hcontest :=
    (settled_contest store rules deadline now responses).perm.map (·.candidate.toBidRef)
  have hresolved := perm_refs_resolved store rules deadline now (successes assessed)
  rw [contenders_eq_successes hassessed] at hresolved
  rw [List.map_append] at hcontest
  rw [hrej]
  refine (((List.mergeSort_perm _ _).map _).append_right _).trans ?_
  refine List.Perm.trans ?_ (perm_refs_assessed hassessed)
  -- Losers and winners are all that compete; with the failed lookups they are the candidates.
  rw [List.map_append, List.map_append, List.append_assoc, List.append_assoc, List.map_map]
  exact .append_left _ ((hcontest.append_left _).trans hresolved)

/-- The rejections are those of some video bids, in the order of the bids, each once. -/
theorem refs_rejections (h : mapByRules store rules deadline now responses = some m) :
    m.value.rejections.map (·.toBidRef) =
      ((videoEntries responses).map VideoEntry.ref).filter
        (· ∈ m.value.rejections.map (·.toBidRef)) := by
  -- Nothing is left to show but that the rejections have been sorted.
  refine (ascending_refs responses).eq_filter (perm_refs_rejections h) ?_
  obtain ⟨assessed, -, hrej, -, -⟩ := parts_of_mapByRules h
  rw [hrej, List.pairwise_map]
  refine (List.pairwise_mergeSort ?_ ?_ _).imp of_decide_eq_true
  · intro a b c hab hbc
    simp only [decide_eq_true_eq] at *
    omega
  · intro a b
    simp only [Bool.or_eq_true, decide_eq_true_eq]
    omega

/-- A rejection is that of a video bid. -/
theorem exists_entry_of_mem_rejections (h : mapByRules store rules deadline now responses = some m)
    {r : Rejection} (hr : r ∈ m.value.rejections) :
    ∃ e ∈ videoEntries responses, e.ref = r.toBidRef := by
  have hmem : r.toBidRef ∈ m.value.rejections.map (·.toBidRef) := List.mem_map_of_mem hr
  exact List.mem_map.1 ((perm_refs_rejections h).subset (List.mem_append_left _ hmem))

/-- A contender is a video bid. -/
theorem exists_entry_of_mem_contenders {c : Contender}
    (hc : c ∈ rules.contenders store deadline now responses) :
    ∃ e ∈ videoEntries responses, e.ref = c.candidate.toBidRef := by
  obtain ⟨e, he, hec⟩ := List.mem_filterMap.1 hc
  exact ⟨e, he, (ref_of_contender? hec).symm⟩

/-- A video bid is rejected exactly if a rejection has its place. -/
theorem place_mem_rejections_iff (h : mapByRules store rules deadline now responses = some m)
    {e : VideoEntry} (he : e ∈ videoEntries responses) :
    e.place ∈ m.value.rejections.map (·.place) ↔
      e.ref ∈ m.value.rejections.map (·.toBidRef) := by
  simp only [List.mem_map]
  constructor
  · rintro ⟨r, hr, hplace⟩
    obtain ⟨e', he', her⟩ := exists_entry_of_mem_rejections h hr
    rw [← her] at hplace
    refine ⟨r, hr, ?_⟩
    rw [← her, eq_of_entry_place_eq he' he hplace]
  · rintro ⟨r, hr, href⟩
    exact ⟨r, hr, congrArg BidRef.place href⟩

/-- Only video bids stand where a rejection says. -/
theorem video_of_place_mem_rejections
    (h : mapByRules store rules deadline now responses = some m) {p : PlacedBid}
    (hp : p ∈ placedBids responses) (hplace : p.place ∈ m.value.rejections.map (·.place)) :
    p.bid.mediaType = .video := by
  obtain ⟨r, hr, hrp⟩ := List.mem_map.1 hplace
  obtain ⟨e, he, her⟩ := exists_entry_of_mem_rejections h hr
  obtain ⟨hplaced, hvideo⟩ := mem_placedBids_of_mem_videoEntries he
  rw [← her] at hrp
  rw [← eq_of_place_eq hplaced hp hrp]
  exact hvideo

/-- The rejections name the bids at their places, in the order of the bids. -/
theorem names_rejections (h : mapByRules store rules deadline now responses = some m) :
    m.value.rejections.map (fun r => (r.partner, r.bidId)) =
      ((placedBids responses).filter (·.place ∈ m.value.rejections.map (·.place))).map
        fun p => (p.partner, p.bid.id) := by
  have hvideo : (placedBids responses).filter (·.place ∈ m.value.rejections.map (·.place)) =
      ((videoEntries responses).map (·.toPlacedBid)).filter
        (·.place ∈ m.value.rejections.map (·.place)) := by
    rw [map_toPlacedBid_videoEntries, List.filter_filter]
    refine List.filter_congr fun p hp => ?_
    by_cases hplace : p.place ∈ m.value.rejections.map (·.place)
    · simp [hplace, video_of_place_mem_rejections h hp hplace]
    · simp [hplace]
  have hrefs : (videoEntries responses).filter
        (fun e => e.ref ∈ m.value.rejections.map (·.toBidRef)) =
      (videoEntries responses).filter fun e => e.place ∈ m.value.rejections.map (·.place) :=
    List.filter_congr fun e he => decide_eq_decide.2 (place_mem_rejections_iff h he).symm
  calc m.value.rejections.map (fun r => (r.partner, r.bidId))
      = (m.value.rejections.map (·.toBidRef)).map fun b => (b.partner, b.bidId) := by
        rw [List.map_map]
        rfl
    _ = (((videoEntries responses).filter fun e =>
          e.ref ∈ m.value.rejections.map (·.toBidRef)).map VideoEntry.ref).map
            fun b => (b.partner, b.bidId) := by
        refine (congrArg _ (refs_rejections h)).trans ?_
        rw [List.filter_map]
        rfl
    _ = _ := by
        rw [hvideo, hrefs, List.filter_map, List.map_map, List.map_map]
        rfl

theorem nodup_refs (h : mapByRules store rules deadline now responses = some m) :
    (m.value.rejections.map (·.toBidRef) ++
      (rules.contest store deadline now responses).winners.map (·.candidate.toBidRef)).Nodup :=
  (perm_refs_rejections h).nodup_iff.2 (ascending_refs responses).nodup

/-- A place has one rejection at most. -/
theorem eq_of_place_rejections (h : mapByRules store rules deadline now responses = some m)
    {r s : Rejection} (hr : r ∈ m.value.rejections) (hs : s ∈ m.value.rejections)
    (hplace : r.place = s.place) : r = s := by
  obtain ⟨e, he, her⟩ := exists_entry_of_mem_rejections h hr
  obtain ⟨e', he', hes⟩ := exists_entry_of_mem_rejections h hs
  refine List.inj_on_of_nodup_map (List.nodup_append.1 (nodup_refs h)).1 hr hs ?_
  rw [← her, ← hes, eq_of_entry_place_eq he he' ?_]
  rw [← her, ← hes] at hplace
  exact hplace

/-- A winner is not rejected. -/
theorem not_rejected_of_wins (h : mapByRules store rules deadline now responses = some m)
    {c : Contender}
    (hwins : c.Wins rules.withCategory (rules.contenders store deadline now responses)) :
    ∀ r ∈ m.value.rejections, r.place ≠ c.candidate.place := by
  intro r hr hplace
  obtain ⟨e, he, her⟩ := exists_entry_of_mem_rejections h hr
  obtain ⟨e', he', hec⟩ := exists_entry_of_mem_contenders hwins.1
  have hwinner := ((settled_contest store rules deadline now responses).mem_winners_iff
    (ascending_contenders store rules deadline now responses)).2 hwins
  refine List.disjoint_of_nodup_append (nodup_refs h) (List.mem_map_of_mem hr) ?_
  rw [← her, ← hec] at hplace
  rw [← her, eq_of_entry_place_eq he he' hplace, hec]
  exact List.mem_map_of_mem hwinner

/-- One that competes and does not win is rejected. -/
theorem duplicate_mem_rejections (h : mapByRules store rules deadline now responses = some m)
    {c : Contender} (hc : c ∈ rules.contenders store deadline now responses)
    (hnot : ¬ c.Wins rules.withCategory (rules.contenders store deadline now responses)) :
    c.duplicate ∈ m.value.rejections := by
  obtain ⟨assessed, -, hrej, -, -⟩ := parts_of_mapByRules h
  have hloser := ((settled_contest store rules deadline now responses).mem_losers_iff
    (ascending_contenders store rules deadline now responses)).2 ⟨hc, hnot⟩
  rw [hrej, List.mem_mergeSort]
  exact List.mem_append_right _ (List.mem_map_of_mem hloser)

/-- Of those that compete exactly the winners are not rejected. -/
theorem not_rejected_iff_wins (h : mapByRules store rules deadline now responses = some m)
    {c : Contender} (hc : c ∈ rules.contenders store deadline now responses) :
    (∀ r ∈ m.value.rejections, r.place ≠ c.candidate.place) ↔
      c.Wins rules.withCategory (rules.contenders store deadline now responses) := by
  refine ⟨fun hkept => ?_, not_rejected_of_wins h⟩
  by_contra hnot
  exact hkept _ (duplicate_mem_rejections h hc hnot) rfl

/-- In the group of each one that competes exactly one is not rejected. -/
theorem existsUnique_not_rejected (h : mapByRules store rules deadline now responses = some m)
    {c : Contender} (hc : c ∈ rules.contenders store deadline now responses) :
    ∃! w : Contender, w ∈ rules.contenders store deadline now responses ∧
      w.groupingKey rules.withCategory = c.groupingKey rules.withCategory ∧
      ∀ r ∈ m.value.rejections, r.place ≠ w.candidate.place := by
  obtain ⟨w, ⟨hkey, hwins⟩, huniq⟩ :=
    (settled_contest store rules deadline now responses).existsUnique_wins
      (ascending_contenders store rules deadline now responses) hc
  refine ⟨w, ⟨hwins.1, hkey, (not_rejected_iff_wins h hwins.1).2 hwins⟩, ?_⟩
  rintro v ⟨hv, hvkey, hkept⟩
  exact huniq v ⟨hvkey, (not_rejected_iff_wins h hv).1 hkept⟩

end Outcome

section Targeting

variable {store : CategoryStore} {lookupTimeout : Nat} {targeting : Targeting}
  {deadline : Deadline} {now : Nat} {responses : List PartnerResponse}

/-- Where the rules that a request lays down come from. -/
theorem parts_of_ofTargeting {brand : BrandCategory} {rules : MappingRules}
    (hrules : ofTargeting brand targeting = .ok rules) :
    adServerOf brand = .ok rules.adServer ∧
      PriceGranularity.forVideo targeting = .ok rules.granularity ∧
      rules.durations = ascending (targeting.durationRangeSec.getD []) ∧
      rules.durations.getLast? = some rules.maxDuration := by
  rw [ofTargeting] at hrules
  split at hrules
  · cases hrules
  · next hserver =>
    dsimp only at hrules
    split at hrules
    · cases hrules
    · next hlast =>
      split at hrules
      · cases hrules
      · cases hrules
      · next hgranularity =>
        cases hrules
        exact ⟨hserver, hgranularity, rfl, hlast⟩

theorem mapCategories_of_rules {brand : BrandCategory} {rules : MappingRules}
    (hbrand : targeting.includeBrandCategory = some brand)
    (hrules : ofTargeting brand targeting = .ok rules) :
    mapCategories store lookupTimeout targeting deadline now responses =
      match mapByRules store rules (deadline.boundedBy now (some lookupTimeout)) now responses with
      | some mapping => .ok mapping
      | none => .error .overflow := by
  rw [mapCategories, hbrand]
  dsimp only
  rw [hrules]
  rfl

/-- The mapping by rules has no result if a price has no bucket. -/
theorem mapCategories_of_not_priced {brand : BrandCategory} {rules : MappingRules}
    (hbrand : targeting.includeBrandCategory = some brand)
    (hrules : ofTargeting brand targeting = .ok rules) (hpriced : ¬ rules.Priced responses) :
    mapCategories store lookupTimeout targeting deadline now responses = .error .overflow := by
  rw [mapCategories_of_rules hbrand hrules, mapByRules_eq_none_iff.2 hpriced]

/-- The mapping by rules succeeds if the prices have buckets. -/
theorem mapCategories_of_priced {brand : BrandCategory} {rules : MappingRules}
    (hbrand : targeting.includeBrandCategory = some brand)
    (hrules : ofTargeting brand targeting = .ok rules) (hpriced : rules.Priced responses) :
    ∃ m, mapByRules store rules (deadline.boundedBy now (some lookupTimeout)) now responses =
        some m ∧
      mapCategories store lookupTimeout targeting deadline now responses = .ok m := by
  rw [mapCategories_of_rules hbrand hrules]
  cases hm : mapByRules store rules (deadline.boundedBy now (some lookupTimeout)) now responses with
  | none => exact absurd hpriced (mapByRules_eq_none_iff.1 hm)
  | some m => exact ⟨m, rfl, rfl⟩

/-- A mapping that succeeds leaves all as it is, or it goes by rules. -/
theorem mapCategories_eq_ok_cases {m : Timed CategoryMapping}
    (h : mapCategories store lookupTimeout targeting deadline now responses = .ok m) :
    (targeting.includeBrandCategory = none ∧ m = ⟨0, { responses }⟩) ∨
    ∃ brand rules, targeting.includeBrandCategory = some brand ∧
      ofTargeting brand targeting = .ok rules ∧
      mapByRules store rules (deadline.boundedBy now (some lookupTimeout)) now responses =
        some m := by
  cases hbrand : targeting.includeBrandCategory with
  | none =>
    simp only [mapCategories, hbrand] at h
    cases h
    exact .inl ⟨rfl, rfl⟩
  | some brand =>
    cases hrules : ofTargeting brand targeting with
    | error f => simp [mapCategories, hbrand, hrules] at h
    | ok rules =>
      rw [mapCategories_of_rules hbrand hrules] at h
      split at h
      · next hm =>
        cases h
        exact .inr ⟨brand, rules, rfl, hrules, hm⟩
      · cases h

/-- The mapping has no result exactly if a number of the granularity does not fit, or if the price
of a bid of the right form has no bucket. -/
theorem mapCategories_eq_overflow_iff :
    mapCategories store lookupTimeout targeting deadline now responses = .error .overflow ↔
      ∃ brand, targeting.includeBrandCategory = some brand ∧
        (ofTargeting brand targeting = .error .overflow ∨
          ∃ rules, ofTargeting brand targeting = .ok rules ∧ ¬ rules.Priced responses) := by
  cases hbrand : targeting.includeBrandCategory with
  | none => simp [mapCategories, hbrand]
  | some brand =>
    cases hrules : ofTargeting brand targeting with
    | error f => simp [mapCategories, hbrand, hrules]
    | ok rules =>
      rw [mapCategories_of_rules hbrand hrules]
      cases hm : mapByRules store rules (deadline.boundedBy now (some lookupTimeout)) now
          responses with
      | none => simp [hrules, mapByRules_eq_none_iff.1 hm]
      | some m =>
        simp [hrules, priced_of_mapByRules hm]

end Targeting

end AdExchange
