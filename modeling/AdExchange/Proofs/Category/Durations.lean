import AdExchange.Proofs.Category.LookupBound

/-!
# The lengths that videos are rounded up to

A request lists some lengths, in any order, some of them perhaps several times or zero.  Nothing
matters of this list but which positive lengths are in it: a video is rejected for its length
exactly if it is longer than the greatest of them, and else it is rounded up to the least of them
into which it fits.  It competes with that length, and its key has that length.

## Main definitions

* `Targeting.Lists` — a request lists a positive length.
* `Targeting.Longest` — the greatest length that a request lists.
* `Targeting.RoundsUp` — the least listed length into which a video fits.
* `RejectionReason.isOfForm` — the form of a bid is wrong.
* `CategoryMapping.FollowsLength` — what becomes of a video bid by its length.

## Main statements

* `MappingRules.ascending_congr` — only the positive lengths of a list matter.
* `MappingRules.find?_ascending_eq_some_iff` — the first length that fits is the least one.
* `MappingRules.rejectsWith_form_iff` — a video bid is rejected for its form exactly if that is
  wrong.
* `MappingRules.followsLength_of_mapByRules` — every video bid of one category follows its length.
* `mapCategories_rounds_up` — all of it for the mapping of all responses.
-/

namespace AdExchange

namespace Targeting

/-- A length is one of those that a request lists, and it is not zero. -/
def Lists (t : Targeting) (duration : UInt32) : Prop :=
  0 < duration ∧ duration ∈ t.durationRangeSec.getD []

/-- The greatest length that a request lists. -/
structure Longest (t : Targeting) (duration : UInt32) : Prop where
  listed : t.Lists duration
  greatest : ∀ other, t.Lists other → other ≤ duration

/-- The least length that a request lists among those into which a video fits. -/
structure RoundsUp (t : Targeting) (declared duration : UInt32) : Prop where
  listed : t.Lists duration
  fits : declared ≤ duration
  least : ∀ other, t.Lists other → declared ≤ other → duration ≤ other

theorem RoundsUp.unique {t : Targeting} {declared duration duration' : UInt32}
    (h : t.RoundsUp declared duration) (h' : t.RoundsUp declared duration') :
    duration = duration' :=
  UInt32.le_antisymm (h.least _ h'.listed h'.fits) (h'.least _ h.listed h.fits)

end Targeting

/-- The form of a bid is wrong: it has no category or several ones, or its video is too long. -/
def RejectionReason.isOfForm : RejectionReason → Bool
  | .noCategory | .severalCategories | .tooLong _ _ => true
  | .untranslated _ _ | .store _ | .duplicate => false

/-- What becomes of a video bid of one category by its declared length. -/
structure CategoryMapping.FollowsLength (m : CategoryMapping) (rules : MappingRules) (t : Targeting)
    (contenders : List Contender) (e : VideoEntry) (declared : UInt32) : Prop where
  /-- The bid is rejected for its length exactly if it is longer than the greatest length. -/
  rejected_iff : (∃ length max, m.RejectsWith e (.tooLong length max)) ↔
    rules.maxDuration < declared
  /-- The publisher is told of both lengths. -/
  tooLong : rules.maxDuration < declared →
    m.RejectsWith e (.tooLong declared rules.maxDuration)
  /-- Else the bid is a candidate of the length that it is rounded up to, and if it competes, then
  as that candidate. -/
  roundsUp : declared ≤ rules.maxDuration →
    ∃ c, rules.assess e = some (.ok c) ∧ t.RoundsUp declared c.duration ∧
      ∀ k ∈ contenders, k.candidate.place = e.place → k.candidate = c

namespace MappingRules

/-! ## The list of the lengths -/

section Lengths

variable {durations durations' : List UInt32} {duration declared longest : UInt32} {t : Targeting}

theorem mem_ascending : duration ∈ ascending durations ↔ 0 < duration ∧ duration ∈ durations := by
  simp [ascending, and_comm]

theorem mem_ascending_iff_lists :
    duration ∈ ascending (t.durationRangeSec.getD []) ↔ t.Lists duration := mem_ascending

theorem ascending_ascending (durations : List UInt32) :
    Ascending UInt32.toNat (ascending durations) := by
  have hsorted : ((durations.filter (0 < ·)).mergeSort (· ≤ ·)).Pairwise (· ≤ ·) := by
    refine (List.pairwise_mergeSort ?_ ?_ _).imp of_decide_eq_true
    · intro a b c hab hbc
      exact decide_eq_true (UInt32.le_trans (of_decide_eq_true hab) (of_decide_eq_true hbc))
    · intro a b
      simpa using UInt32.le_total a b
  refine (pairwise_eraseDups hsorted).imp ?_
  rintro a b ⟨hne, hle⟩
  exact Nat.lt_of_le_of_ne hle fun heq => hne (UInt32.toNat_inj.1 heq)

/-- Only the positive lengths of a list matter, neither their order nor how often they are there. -/
theorem ascending_congr (h : ∀ n, 0 < n → (n ∈ durations ↔ n ∈ durations')) :
    ascending durations = ascending durations' := by
  refine (ascending_ascending durations').eq_of_mem_iff (ascending_ascending durations) ?_
  intro n
  rw [mem_ascending, mem_ascending]
  exact and_congr_right (h n)

/-- The first length into which a video fits is the least one. -/
theorem find?_ascending_eq_some_iff :
    (ascending (t.durationRangeSec.getD [])).find? (declared ≤ ·) = some duration ↔
      t.RoundsUp declared duration := by
  have hsound : ∀ n, (ascending (t.durationRangeSec.getD [])).find? (declared ≤ ·) = some n →
      t.RoundsUp declared n := by
    intro n hn
    have hfits : declared ≤ n := by simpa using List.find?_some hn
    refine ⟨mem_ascending_iff_lists.1 (List.mem_of_find?_eq_some hn), hfits, ?_⟩
    intro other hother hfitsOther
    exact (ascending_ascending _).le_of_find? hn (mem_ascending_iff_lists.2 hother)
      (decide_eq_true hfitsOther)
  refine ⟨hsound duration, ?_⟩
  intro h
  -- Some length is found, for one fits, and there is only one that can be found.
  have hsome : ((ascending (t.durationRangeSec.getD [])).find? (declared ≤ ·)).isSome := by
    rw [List.find?_isSome]
    exact ⟨duration, mem_ascending_iff_lists.2 h.listed, decide_eq_true h.fits⟩
  obtain ⟨n, hn⟩ := Option.isSome_iff_exists.1 hsome
  rw [hn, (hsound n hn).unique h]

/-- No length fits exactly if the greatest one does not. -/
theorem find?_ascending_eq_none_iff (hlongest : t.Longest longest) :
    (ascending (t.durationRangeSec.getD [])).find? (declared ≤ ·) = none ↔ longest < declared := by
  simp only [List.find?_eq_none, mem_ascending_iff_lists, decide_eq_true_eq, UInt32.not_le]
  constructor
  · intro h
    exact h longest hlongest.listed
  · intro h other hother
    exact UInt32.lt_of_le_of_lt (hlongest.greatest other hother) h

end Lengths

/-! ## The length of a bid -/

section Rules

variable {store : CategoryStore} {rules : MappingRules} {deadline : Deadline} {now : Nat}
  {brand : BrandCategory} {targeting : Targeting} {bid : Bid} {category : String}

theorem longest_of_ofTargeting (hrules : ofTargeting brand targeting = .ok rules) :
    targeting.Longest rules.maxDuration := by
  obtain ⟨-, -, hdurations, hlast⟩ := parts_of_ofTargeting hrules
  rw [hdurations] at hlast
  refine ⟨mem_ascending_iff_lists.1 (List.mem_of_getLast? hlast), ?_⟩
  intro other hother
  exact (ascending_ascending _).le_of_getLast? hlast (mem_ascending_iff_lists.2 hother)

/-- A bid of the right form has one category, and its length is rounded up. -/
theorem categoryAndDuration_eq_ok_iff (hrules : ofTargeting brand targeting = .ok rules)
    {duration : UInt32} :
    rules.categoryAndDuration bid = .ok (category, duration) ↔
      bid.categories = some [category] ∧ targeting.RoundsUp (bid.duration?.getD 0) duration := by
  rw [← find?_ascending_eq_some_iff, ← (parts_of_ofTargeting hrules).2.2.1, categoryAndDuration]
  rcases bid.categories with - | - | ⟨c, - | ⟨c', rest⟩⟩
  · simp
  · simp
  · dsimp only [Option.getD_some]
    cases rules.durations.find? (bid.duration?.getD 0 ≤ ·) <;> simp
  · simp

/-- A bid of one category is too long exactly if it is longer than the greatest length. -/
theorem categoryAndDuration_eq_tooLong_iff (hrules : ofTargeting brand targeting = .ok rules)
    (hcategory : bid.categories = some [category]) {declared max : UInt32} :
    rules.categoryAndDuration bid = .error (.tooLong declared max) ↔
      rules.maxDuration < bid.duration?.getD 0 ∧ declared = bid.duration?.getD 0 ∧
        max = rules.maxDuration := by
  rw [← find?_ascending_eq_none_iff (longest_of_ofTargeting hrules),
    ← (parts_of_ofTargeting hrules).2.2.1, categoryAndDuration, hcategory]
  dsimp only [Option.getD_some]
  cases rules.durations.find? (bid.duration?.getD 0 ≤ ·) <;> simp [eq_comm]

/-- A bid that is not too long has a length that it is rounded up to. -/
theorem exists_roundsUp (hrules : ofTargeting brand targeting = .ok rules)
    (hcategory : bid.categories = some [category])
    (hle : bid.duration?.getD 0 ≤ rules.maxDuration) :
    ∃ duration, targeting.RoundsUp (bid.duration?.getD 0) duration ∧
      rules.categoryAndDuration bid = .ok (category, duration) := by
  cases hfind : (ascending (targeting.durationRangeSec.getD [])).find?
      (bid.duration?.getD 0 ≤ ·) with
  | none =>
    rw [find?_ascending_eq_none_iff (longest_of_ofTargeting hrules)] at hfind
    exact absurd hle (UInt32.not_le.2 hfind)
  | some duration =>
    rw [find?_ascending_eq_some_iff] at hfind
    exact ⟨duration, hfind, (categoryAndDuration_eq_ok_iff hrules).2 ⟨hcategory, hfind⟩⟩

/-- What the mapping makes of a bid has the length that the bid is rounded up to. -/
theorem roundsUp_of_classify? (hrules : ofTargeting brand targeting = .ok rules)
    {c : Classification} (h : rules.classify? store deadline now bid = some c) :
    targeting.RoundsUp (bid.duration?.getD 0) c.duration := by
  cases hform : rules.categoryAndDuration bid with
  | error reason => simp [classify?, hform, Except.toOption] at h
  | ok form =>
    simp only [classify?, hform, Except.toOption, Option.bind_eq_bind, Option.bind_some,
      Option.bind_eq_some_iff, Option.pure_def, Option.some.injEq] at h
    obtain ⟨bucket, -, resolved, -, rfl⟩ := h
    exact ((categoryAndDuration_eq_ok_iff hrules).1 hform).2

end Rules

/-! ## Who is rejected for the form -/

section Form

variable {store : CategoryStore} {rules : MappingRules} {deadline : Deadline} {now : Nat}
  {responses : List PartnerResponse} {e : VideoEntry} {c : Candidate} {r : Rejection}
  {k : Contender} {reason : RejectionReason} {m : Timed CategoryMapping}

/-- A video bid of the right form makes a candidate. -/
theorem exists_candidate_of_form (hm : mapByRules store rules deadline now responses = some m)
    (he : e ∈ videoEntries responses) {category : String} {duration : UInt32}
    (hform : rules.categoryAndDuration e.bid = .ok (category, duration)) :
    ∃ c, rules.assess e = some (.ok c) ∧ c.duration = duration := by
  obtain ⟨a, ha⟩ := Option.isSome_iff_exists.1 (priced_iff.1 (priced_of_mapByRules hm) e he)
  have hassess := ha
  rw [assess, hform] at hassess
  obtain ⟨bucket, -, rfl⟩ := Option.map_eq_some_iff.1 hassess
  exact ⟨_, ha, rfl⟩

/-- What competes for a video bid is the candidate that the bid makes. -/
theorem candidate_of_mem_contenders (hk : k ∈ rules.contenders store deadline now responses)
    (he : e ∈ videoEntries responses) (hplace : k.candidate.place = e.place)
    (hc : rules.assess e = some (.ok c)) : k.candidate = c := by
  obtain ⟨e', he', hek⟩ := List.mem_filterMap.1 hk
  obtain rfl : e' = e :=
    eq_of_entry_place_eq he' he ((isOf_of_contender? hek).place.symm.trans hplace)
  have hsame := (assess_of_contender? hek).symm.trans hc
  simpa using hsame

theorem isOfForm_of_resolve_error (h : rules.resolve store deadline now c = .error r) :
    r.reason.isOfForm = false := by
  simp only [resolve, Candidate.translated] at h
  split at h
  · cases h
  · split at h <;> cases h <;> rfl

/-- A video bid whose form is wrong is rejected for that. -/
theorem rejectsWith_of_form_error
    (hm : mapByRules store rules deadline now responses = some m) (he : e ∈ videoEntries responses)
    (hform : rules.categoryAndDuration e.bid = .error reason) : m.value.RejectsWith e reason := by
  refine rejectsWith_of_mem hm ?_
  obtain ⟨assessed, hassessed, hrejections, -, -⟩ := parts_of_mapByRules hm
  obtain ⟨a, ha, hassess⟩ := exists_of_mem_left hassessed he
  rw [assess, hform] at hassess
  cases hassess
  rw [hrejections, List.mem_mergeSort]
  exact List.mem_append_left _ (List.mem_append_left _ (mem_failures.2 ha))

/-- A video bid whose form is right is not rejected for its form. -/
theorem isOfForm_of_form_ok
    (hm : mapByRules store rules deadline now responses = some m) (he : e ∈ videoEntries responses)
    {form : String × UInt32} (hform : rules.categoryAndDuration e.bid = .ok form)
    (hreason : m.value.RejectsWith e reason) : reason.isOfForm = false := by
  obtain ⟨c, ha, -⟩ := exists_candidate_of_form hm he hform
  -- The candidate is rejected for its category, or it competes.
  cases hc : rules.resolve store deadline now c with
  | error r =>
    have hlater := isOfForm_of_resolve_error hc
    have href := ref_of_resolve_error hc
    obtain ⟨ref, later⟩ := r
    cases href
    rwa [← (rejectsWith_of_resolve_error hm he ha hc).2 _ hreason.1 rfl] at hlater
  | ok k =>
    have hduplicate := (contends_of_resolve_ok hm he ha hc).2 _ hreason.1 rfl
    cases hduplicate
    rfl

/-- A video bid is rejected for its form exactly if that is wrong. -/
theorem rejectsWith_form_iff
    (hm : mapByRules store rules deadline now responses = some m) (he : e ∈ videoEntries responses)
    (hreason : reason.isOfForm) :
    m.value.RejectsWith e reason ↔ rules.categoryAndDuration e.bid = .error reason := by
  refine ⟨fun hrejects => ?_, rejectsWith_of_form_error hm he⟩
  cases hform : rules.categoryAndDuration e.bid with
  | error wrong =>
    exact congrArg _ ((rejectsWith_of_form_error hm he hform).2 _ hrejects.1 rfl).symm
  | ok form => simp [isOfForm_of_form_ok hm he hform hrejects] at hreason

end Form

/-! ## What becomes of a video -/

section Videos

variable {store : CategoryStore} {rules : MappingRules} {deadline : Deadline} {now : Nat}
  {brand : BrandCategory} {targeting : Targeting} {responses : List PartnerResponse}
  {e : VideoEntry} {category : String} {m : Timed CategoryMapping}

/-- Every video bid of one category follows its length. -/
theorem followsLength_of_mapByRules (hrules : ofTargeting brand targeting = .ok rules)
    (hm : mapByRules store rules deadline now responses = some m) (he : e ∈ videoEntries responses)
    (hcategory : e.bid.categories = some [category]) :
    m.value.FollowsLength rules targeting (rules.contenders store deadline now responses) e
      (e.bid.duration?.getD 0) := by
  have htooLong : ∀ length max, m.value.RejectsWith e (.tooLong length max) ↔
      rules.maxDuration < e.bid.duration?.getD 0 ∧ length = e.bid.duration?.getD 0 ∧
        max = rules.maxDuration := by
    intro length max
    rw [rejectsWith_form_iff hm he rfl, categoryAndDuration_eq_tooLong_iff hrules hcategory]
  refine ⟨⟨?_, ?_⟩, ?_, ?_⟩
  · rintro ⟨length, max, hrejects⟩
    exact ((htooLong length max).1 hrejects).1
  · intro hlt
    exact ⟨_, _, (htooLong _ _).2 ⟨hlt, rfl, rfl⟩⟩
  · intro hlt
    exact (htooLong _ _).2 ⟨hlt, rfl, rfl⟩
  · intro hle
    obtain ⟨duration, hrounds, hform⟩ := exists_roundsUp hrules hcategory hle
    obtain ⟨c, hc, rfl⟩ := exists_candidate_of_form hm he hform
    exact ⟨c, hc, hrounds, fun k hk hplace => candidate_of_mem_contenders hk he hplace hc⟩

/-- The key of a bid that is kept has the length that the bid is rounded up to. -/
theorem exists_key_roundsUp (hrules : ofTargeting brand targeting = .ok rules)
    (hm : mapByRules store rules deadline now responses = some m) {p : PlacedBid}
    (hp : p.Alone (videoBids m.value.responses)) :
    ∃ c : Classification, targeting.RoundsUp (p.bid.duration?.getD 0) c.duration ∧
      m.value.key? p.partner p.bid.id = some (c.displayKey rules.withCategory) := by
  obtain ⟨hsome, hkey⟩ := key?_of_alone hm hp
  rw [hkey, keyOf?_eq_map_classify?, Option.isSome_map] at hsome
  obtain ⟨c, hc⟩ := Option.isSome_iff_exists.1 hsome
  refine ⟨c, roundsUp_of_classify? hrules hc, ?_⟩
  rw [hkey, keyOf?_eq_map_classify?, hc, Option.map_some]

end Videos

end MappingRules

open MappingRules

variable {store : CategoryStore} {lookupTimeout : Nat} {targeting : Targeting}
  {deadline : Deadline} {now : Nat} {responses : List PartnerResponse}

/-- Lists of the same positive lengths have the same effect. -/
theorem mapCategories_congr_lists {durations : Option (List UInt32)}
    (h : ∀ n, ({ targeting with durationRangeSec := durations } : Targeting).Lists n ↔
      targeting.Lists n) :
    mapCategories store lookupTimeout { targeting with durationRangeSec := durations } deadline now
        responses =
      mapCategories store lookupTimeout targeting deadline now responses := by
  have hascending :
      ascending (durations.getD []) = ascending (targeting.durationRangeSec.getD []) := by
    refine ascending_congr ?_
    intro n hn
    exact ⟨fun hmem => ((h n).1 ⟨hn, hmem⟩).2, fun hmem => ((h n).2 ⟨hn, hmem⟩).2⟩
  have hrules : ∀ brand,
      ofTargeting brand { targeting with durationRangeSec := durations } =
        ofTargeting brand targeting := by
    intro brand
    simp only [ofTargeting, hascending]
    rfl
  simp only [mapCategories, hrules]

/-- The lengths of a request matter only as a set: with another list of the same positive lengths,
in another order, with repetitions or with zeros, the mapping comes to the same.  A bid of one
category is too long exactly if it is longer than the greatest length, and else it is rounded up to
the least length into which it fits.

In the mapping, which has a result exactly if the prices have buckets, every video bid follows its
length, and the key of a bid that is kept has the length that the bid is rounded up to. -/
theorem mapCategories_rounds_up {brand : BrandCategory}
    (hbrand : targeting.includeBrandCategory = some brand) :
    (∀ durations : Option (List UInt32),
      (∀ n, ({ targeting with durationRangeSec := durations } : Targeting).Lists n ↔
        targeting.Lists n) →
      mapCategories store lookupTimeout { targeting with durationRangeSec := durations } deadline
          now responses =
        mapCategories store lookupTimeout targeting deadline now responses) ∧
    ∀ rules, ofTargeting brand targeting = .ok rules →
      targeting.Longest rules.maxDuration ∧
      (∀ bid category, bid.categories = some [category] →
        let declared := bid.duration?.getD 0
        (∀ length max, rules.categoryAndDuration bid = .error (.tooLong length max) ↔
          rules.maxDuration < declared ∧ length = declared ∧ max = rules.maxDuration) ∧
        (declared ≤ rules.maxDuration → ∃ duration, targeting.RoundsUp declared duration ∧
          rules.categoryAndDuration bid = .ok (category, duration))) ∧
      (¬ rules.Priced responses →
        mapCategories store lookupTimeout targeting deadline now responses = .error .overflow) ∧
      (rules.Priced responses →
        ∃ m, mapCategories store lookupTimeout targeting deadline now responses = .ok m ∧
          (∀ e ∈ videoEntries responses, ∀ category, e.bid.categories = some [category] →
            m.value.FollowsLength rules targeting
              (rules.contenders store (deadline.boundedBy now (some lookupTimeout)) now responses)
              e (e.bid.duration?.getD 0)) ∧
          ∀ p : PlacedBid, p.Alone (videoBids m.value.responses) →
            ∃ c : Classification, targeting.RoundsUp (p.bid.duration?.getD 0) c.duration ∧
              m.value.key? p.partner p.bid.id = some (c.displayKey rules.withCategory)) := by
  refine ⟨fun durations => mapCategories_congr_lists, ?_⟩
  intro rules hrules
  refine ⟨longest_of_ofTargeting hrules, ?_, mapCategories_of_not_priced hbrand hrules, ?_⟩
  · intro bid category hcategory
    exact ⟨fun _ _ => categoryAndDuration_eq_tooLong_iff hrules hcategory,
      exists_roundsUp hrules hcategory⟩
  · intro hpriced
    obtain ⟨m, hm, hok⟩ := mapCategories_of_priced hbrand hrules hpriced
    refine ⟨m, hok, ?_, fun p => exists_key_roundsUp hrules hm⟩
    intro e he category hcategory
    exact followsLength_of_mapByRules hrules hm he hcategory

/-! ## A break with a video that is too long -/

/-- A video of 40 seconds and one of 20 seconds. -/
def longOffers : List PartnerResponse :=
  [{ partner := "a", code := "a", bids := [breakVideo "1" 40, breakVideo "2" 20] }]

/-- The lengths 15 and 30 may be listed in another way.  The video of 40 seconds is too long, and
that of 20 seconds is rounded up.  With 28 decimal places neither is told of, for there is no room
for the price of the second one. -/
theorem mapCategories_rounds_up_longOffers :
    mapCategories (.ofTable []) 50
        { breakTargeting none with durationRangeSec := some [30, 0, 15, 30] } ⟨100⟩ 0 longOffers =
      mapCategories (.ofTable []) 50 (breakTargeting none) ⟨100⟩ 0 longOffers ∧
    ∃ m, mapCategories (.ofTable []) 50 (breakTargeting none) ⟨100⟩ 0 longOffers = .ok m ∧
      m.value.RejectsWith ⟨⟨⟨0, 0⟩, "a", breakVideo "1" 40⟩, 0⟩ (.tooLong 40 30) ∧
      (breakTargeting none).RoundsUp 20 30 ∧
      mapCategories (.ofTable []) 50 (breakTargeting wideGranularity) ⟨100⟩ 0 longOffers =
        .error .overflow := by
  have hrules := ofTargeting_break (v := none) (g := .medium) rfl
  have hwide := ofTargeting_break (v := wideGranularity)
    (g := ⟨28, [⟨.ofNat 0, .ofNat 2000, .ofNat 1⟩]⟩) rfl
  obtain ⟨hlists, hlengths⟩ := @mapCategories_rounds_up (.ofTable []) 50 (breakTargeting none)
    ⟨100⟩ 0 longOffers breakBrand rfl
  obtain ⟨-, -, -, hmapped⟩ := hlengths _ hrules
  obtain ⟨m, hm, hentries, -⟩ := hmapped (by decide)
  have hvideos : videoEntries longOffers =
      [⟨⟨⟨0, 0⟩, "a", breakVideo "1" 40⟩, 0⟩, ⟨⟨⟨0, 1⟩, "a", breakVideo "2" 20⟩, 1⟩] := rfl
  rw [hvideos, List.forall_mem_cons, List.forall_mem_singleton] at hentries
  obtain ⟨hlong, hshort⟩ := hentries
  obtain ⟨c, hc, hrounds, -⟩ := (hshort "c" rfl).roundsUp (by decide)
  cases hc
  obtain ⟨-, -, hunpriced, -⟩ := (mapCategories_rounds_up rfl).2 _ hwide
  refine ⟨hlists _ ?_, m, hm, (hlong "c" rfl).tooLong (by decide), hrounds, hunpriced (by decide)⟩
  intro n
  simp only [Targeting.Lists, breakTargeting, Option.getD_some, List.mem_cons, List.not_mem_nil]
  grind

end AdExchange
