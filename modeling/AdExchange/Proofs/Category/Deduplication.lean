import AdExchange.Proofs.Category.Outcome

/-!
# One bid of each group is kept

Of the video bids of one category, or of one price and length, the mapping keeps the longest one,
the last of them if there are several, and rejects all others.  No other bid is touched, and each
bid that is left out is told of.

The mapping has no result if the price of a video bid has no bucket, which the precision of a
granularity may bring about.
-/

namespace AdExchange

open MappingRules

variable {store : CategoryStore} {lookupTimeout : Nat} {targeting : Targeting}
  {deadline : Deadline} {now : Nat} {responses : List PartnerResponse}

theorem Contender.message_duplicate (c : Contender) :
    c.duplicate.message = "Bid rejected [bidder: " ++ c.candidate.partner ++ ", bid ID: " ++
      c.candidate.bidId ++ "] with a reason: " ++ "Bid was deduplicated" := rfl

/-- By rules that have been checked the bids are mapped exactly if their prices have buckets.  Of
those that compete, the winners are kept, exactly one in each group; all others are rejected as
duplicates. -/
theorem mapCategories_keeps_winners {brand : BrandCategory} {rules : MappingRules}
    (hbrand : targeting.includeBrandCategory = some brand)
    (hrules : ofTargeting brand targeting = .ok rules) :
    let bound := deadline.boundedBy now (some lookupTimeout)
    let all := rules.contenders store bound now responses
    (¬ rules.Priced responses →
      mapCategories store lookupTimeout targeting deadline now responses = .error .overflow) ∧
    (rules.Priced responses →
      ∃ m, mapCategories store lookupTimeout targeting deadline now responses = .ok m ∧
        m.value.responses = withoutPlaces (m.value.rejections.map (·.place)) responses ∧
        ∀ c ∈ all,
          (c.Wins rules.withCategory all →
            ∀ r ∈ m.value.rejections, r.place ≠ c.candidate.place) ∧
          (¬ c.Wins rules.withCategory all →
            ∃ r ∈ m.value.rejections,
              (∀ s ∈ m.value.rejections, s.place = c.candidate.place ↔ s = r) ∧
              r.message = "Bid rejected [bidder: " ++ c.candidate.partner ++ ", bid ID: " ++
                c.candidate.bidId ++ "] with a reason: " ++ "Bid was deduplicated") ∧
          ∃! w : Contender, w ∈ all ∧
            w.groupingKey rules.withCategory = c.groupingKey rules.withCategory ∧
            ∀ r ∈ m.value.rejections, r.place ≠ w.candidate.place) := by
  intro bound all
  refine ⟨mapCategories_of_not_priced hbrand hrules, ?_⟩
  intro hpriced
  obtain ⟨m, hm, hok⟩ := mapCategories_of_priced hbrand hrules hpriced
  obtain ⟨-, -, -, hresponses, -⟩ := parts_of_mapByRules hm
  refine ⟨m, hok, hresponses, ?_⟩
  intro c hc
  refine ⟨(not_rejected_iff_wins hm hc).2, ?_, existsUnique_not_rejected hm hc⟩
  intro hnot
  have hr := duplicate_mem_rejections hm hc hnot
  refine ⟨c.duplicate, hr, ?_, c.message_duplicate⟩
  intro s hs
  refine ⟨fun hplace => eq_of_place_rejections hm hs hr hplace, ?_⟩
  rintro rfl
  rfl

/-! ## A break that is sold -/

/-- Categories are part of the key and are not translated. -/
def breakBrand : BrandCategory := { withCategory := some true, translateCategories := some false }

/-- A break for videos of 15 and of 30 seconds. -/
def breakTargeting (granularity : Option Json) : Targeting where
  includeBrandCategory := some breakBrand
  durationRangeSec := some [15, 30]
  priceGranularity := granularity

def breakRules (granularity : PriceGranularity) : MappingRules where
  adServer := none
  publisher := ""
  withCategory := true
  durations := [15, 30]
  maxDuration := 30
  granularity

theorem ascending_breakDurations : ascending [15, 30] = [15, 30] := by
  have hsorted : [15, 30].mergeSort (fun a b : UInt32 => a ≤ b) = [15, 30] :=
    List.mergeSort_of_pairwise (by decide)
  have hpositive : [15, 30].filter (fun a : UInt32 => decide (0 < a)) = [15, 30] := rfl
  rw [ascending, hpositive, hsorted]
  rfl

theorem ofTargeting_break {v : Option Json} {g : PriceGranularity}
    (hg : PriceGranularity.forVideo (breakTargeting v) = .ok g) :
    ofTargeting breakBrand (breakTargeting v) = .ok (breakRules g) := by
  simp only [ofTargeting, breakTargeting, Option.getD_some, ascending_breakDurations] at hg ⊢
  rw [hg]
  rfl

/-- A video of category `c`, for 1500. -/
def breakVideo (id : String) (seconds : UInt32) : Bid where
  id
  impId := "i"
  price := .ofNat 1500
  mediaType := .video
  categories := some ["c"]
  video := some { duration := some seconds }

/-- Two partners offer videos of one category, and one of them a banner. -/
def breakOffers : List PartnerResponse :=
  [{ partner := "a", code := "a"
     bids := [breakVideo "1" 30, { breakVideo "2" 30 with mediaType := .banner }] },
   { partner := "b", code := "b"
     bids := [breakVideo "3" 20, breakVideo "4" 10] }]

/-- Prices in steps of one, written with 28 decimal places. -/
def wideGranularity : Json :=
  .object [("precision", .nat 28),
    ("ranges", .array [.object [("max", .nat 2000), ("increment", .nat 1)]])]

/-- Three videos compete and one of them is kept.  With 28 decimal places there is no room for the
digits of their price. -/
theorem mapCategories_keeps_winners_breakOffers :
    (∃ m, mapCategories (.ofTable []) 50 (breakTargeting none) ⟨100⟩ 0 breakOffers = .ok m ∧
      ∃! w : Contender,
        w ∈ (breakRules .medium).contenders (.ofTable []) ⟨50⟩ 0 breakOffers ∧
        w.groupingKey true = .category "c" ∧
        ∀ r ∈ m.value.rejections, r.place ≠ w.candidate.place) ∧
    mapCategories (.ofTable []) 50 (breakTargeting wideGranularity) ⟨100⟩ 0 breakOffers =
      .error .overflow := by
  have hmedium := ofTargeting_break (v := none) (g := .medium) rfl
  have hwide := ofTargeting_break (v := wideGranularity)
    (g := ⟨28, [⟨.ofNat 0, .ofNat 2000, .ofNat 1⟩]⟩) rfl
  constructor
  · have hkeeps := @mapCategories_keeps_winners (.ofTable []) 50 (breakTargeting none) ⟨100⟩ 0
      breakOffers breakBrand _ rfl hmedium
    obtain ⟨m, hm, -, hall⟩ := hkeeps.2 (by decide)
    have hc : ⟨⟨⟨0, ⟨0, 0⟩, "a", "1"⟩, "c", 30, "20.00"⟩, "c"⟩ ∈
        (breakRules .medium).contenders (.ofTable []) ⟨50⟩ 0 breakOffers := by decide
    exact ⟨m, hm, (hall _ hc).2.2⟩
  · exact (mapCategories_keeps_winners rfl hwide).1 (by decide)

/-! ## Nothing is lost -/

/-- The bids that are left out of the responses are video bids, and the rejections name them in
their order; all else stays as it is. -/
theorem mapCategories_conserves {m : Timed CategoryMapping}
    (h : mapCategories store lookupTimeout targeting deadline now responses = .ok m) :
    ∃ removed : BidPlace → Bool,
      m.value.responses = responses.mapIdx (fun i r =>
        { r with bids := (r.bids.zipIdx.filter fun b => !removed ⟨i, b.2⟩).map (·.1) }) ∧
      (∀ p ∈ placedBids responses, removed p.place → p.bid.mediaType = .video) ∧
      List.Forall₂
        (fun p message => ∃ reason, message = "Bid rejected [bidder: " ++ p.partner ++
          ", bid ID: " ++ p.bid.id ++ "] with a reason: " ++ reason)
        ((placedBids responses).filter (removed ·.place))
        (m.value.rejections.map (·.message)) := by
  rcases mapCategories_eq_ok_cases h with ⟨-, rfl⟩ | ⟨brand, rules, -, -, hm⟩
  · refine ⟨fun _ => false, ?_, by simp, by simp⟩
    refine List.ext_getElem? fun n => ?_
    cases hn : responses[n]? <;> simp [hn]
  · obtain ⟨-, -, -, hresponses, -⟩ := parts_of_mapByRules hm
    refine ⟨fun place => (m.value.rejections.map (·.place)).contains place, ?_, ?_, ?_⟩
    · exact hresponses
    · intro p hp hplace
      exact video_of_place_mem_rejections hm hp (List.contains_iff_mem.1 hplace)
    · have hnames : List.Forall₂ Eq
          (((placedBids responses).filter (·.place ∈ m.value.rejections.map (·.place))).map
            fun p => (p.partner, p.bid.id))
          (m.value.rejections.map fun r => (r.partner, r.bidId)) := by
        rw [names_rejections hm]
        exact List.forall₂_refl _
      rw [List.forall₂_map_left_iff, List.forall₂_map_right_iff] at hnames
      simp only [List.contains_eq_mem]
      rw [List.forall₂_map_right_iff]
      refine hnames.imp ?_
      intro p r hpr
      obtain ⟨hpartner, hid⟩ := Prod.mk.inj hpr
      exact ⟨r.reason.message, by rw [hpartner, hid]; rfl⟩

/-- The second of the three videos outlasts the first, as both fill 30 seconds, and the third. -/
def breakDuplicates : List Rejection :=
  [⟨⟨0, ⟨0, 0⟩, "a", "1"⟩, .duplicate⟩, ⟨⟨2, ⟨1, 1⟩, "b", "4"⟩, .duplicate⟩]

theorem mapByRules_breakOffers :
    mapByRules (.ofTable []) (breakRules .medium) ⟨50⟩ 0 breakOffers = some ⟨0, {
      keys := [("b", [("3", "20.00_c_30s")])]
      responses := withoutPlaces [⟨0, 0⟩, ⟨1, 1⟩] breakOffers
      rejections := breakDuplicates }⟩ := by
  have hassessed : (videoEntries breakOffers).mapM (breakRules .medium).assess =
      some [.ok ⟨⟨0, ⟨0, 0⟩, "a", "1"⟩, "c", 30, "20.00"⟩,
        .ok ⟨⟨1, ⟨1, 0⟩, "b", "3"⟩, "c", 30, "20.00"⟩,
        .ok ⟨⟨2, ⟨1, 1⟩, "b", "4"⟩, "c", 15, "20.00"⟩] := by decide
  have hsorted : breakDuplicates.mergeSort (fun r s => r.position ≤ s.position) =
      breakDuplicates := List.mergeSort_of_pairwise (by decide)
  rw [mapByRules, hassessed]
  -- The contest computes, but sorting does not.
  change some (Timed.mk 0 (CategoryMapping.mk _
    (withoutPlaces ((breakDuplicates.mergeSort _).map (·.place)) _) (breakDuplicates.mergeSort _)))
      = _
  rw [hsorted]
  rfl

/-- Of what is offered "1" and "4" are left out. -/
theorem mapCategories_conserves_breakOffers :
    ∃ m, mapCategories (.ofTable []) 50 (breakTargeting none) ⟨100⟩ 0 breakOffers = .ok m ∧
      m.value.rejections.map (·.message) =
        ["Bid rejected [bidder: a, bid ID: 1] with a reason: Bid was deduplicated",
          "Bid rejected [bidder: b, bid ID: 4] with a reason: Bid was deduplicated"] ∧
      ∃ removed : BidPlace → Bool,
        ((placedBids breakOffers).filter (removed ·.place)).map (fun p => (p.partner, p.bid.id)) =
          [("a", "1"), ("b", "4")] ∧
        List.Forall₂
          (fun p message => ∃ reason, message = "Bid rejected [bidder: " ++ p.partner ++
            ", bid ID: " ++ p.bid.id ++ "] with a reason: " ++ reason)
          ((placedBids breakOffers).filter (removed ·.place))
          (m.value.rejections.map (·.message)) := by
  have hrules := ofTargeting_break (v := none) (g := .medium) rfl
  have hpriced : (breakRules .medium).Priced breakOffers := by decide
  obtain ⟨m, hm, hok⟩ := @mapCategories_of_priced (.ofTable []) 50 (breakTargeting none) ⟨100⟩ 0
    breakOffers breakBrand _ rfl hrules hpriced
  cases mapByRules_breakOffers.symm.trans hm
  obtain ⟨removed, hresponses, -, hmessages⟩ := mapCategories_conserves hok
  refine ⟨_, hok, rfl, removed, ?_, hmessages⟩
  have hplaces : removed ⟨0, 0⟩ ∧ ¬ removed ⟨0, 1⟩ ∧ ¬ removed ⟨1, 0⟩ ∧ removed ⟨1, 1⟩ := by
    -- What is left tells which places are meant.
    have hleft := congrArg (List.map fun r => r.bids.map (·.id)) hresponses
    simp only [withoutPlaces, breakOffers, breakVideo] at hleft
    cases h₁ : removed ⟨0, 0⟩ <;> cases h₂ : removed ⟨0, 1⟩ <;> cases h₃ : removed ⟨1, 0⟩ <;>
      cases h₄ : removed ⟨1, 1⟩ <;> simp [h₁, h₂, h₃, h₄] at hleft ⊢
  simp [placedBids, breakOffers, breakVideo, hplaces]

end AdExchange
