import AdExchange.Proofs.Category.Idempotence
import AdExchange.Proofs.Category.Lookups
import AdExchange.Proofs.Price.Overflow

/-!
# All lookups share one bound

The categories of all video bids are looked up at the same time, and all lookups share one bound:
the timeout for lookups, or the time that is left if that is less.  What comes of a lookup depends
on its own delay and its own answer only, and all of them together take as long as the longest one,
cut off at the bound.
-/

namespace AdExchange

open MappingRules

/-- How long the lookups of categories may take: no longer than `lookupTimeout`, and no longer than
there is time left. -/
def lookupBound (lookupTimeout : Nat) (deadline : Deadline) (now : Nat) : Nat :=
  min lookupTimeout (deadline.remaining now)

theorem remaining_boundedBy (deadline : Deadline) (now lookupTimeout : Nat) :
    (deadline.boundedBy now (some lookupTimeout)).remaining now =
      lookupBound lookupTimeout deadline now := by
  simp only [Deadline.boundedBy, Deadline.remaining, lookupBound]
  omega

/-- A video bid is rejected for this reason, and for no other one. -/
def CategoryMapping.RejectsWith (m : CategoryMapping) (e : VideoEntry) (reason : RejectionReason) :
    Prop :=
  ⟨e.ref, reason⟩ ∈ m.rejections ∧ ∀ r ∈ m.rejections, r.place = e.place → r.reason = reason

/-- What becomes of a video bid, which makes the candidate `c`, by the answer of the store for its
category.  Only the answer for this one category matters, and the bound of all lookups. -/
structure CategoryMapping.Follows (m : CategoryMapping) (contenders : List Contender)
    (adServer : PrimaryAdServer) (publisher : String) (bound : Nat) (e : VideoEntry) (c : Candidate)
    (answer : Timed (Except StoreError (Option String))) : Prop where
  /-- The lookup takes too long. -/
  late : bound < answer.delay → m.RejectsWith e (.store .timeout)
  /-- The store fails. -/
  failed : answer.delay ≤ bound → ∀ reason, answer.value = .error reason →
    m.RejectsWith e (.store reason)
  /-- The store does not know the category. -/
  unknown : answer.delay ≤ bound → answer.value = .ok none →
    m.RejectsWith e (.untranslated adServer publisher)
  /-- The bid competes with the category that the store knows, and no rejection but that of a
  duplicate is left. -/
  translated : answer.delay ≤ bound → ∀ category, answer.value = .ok (some category) →
    ⟨c, category⟩ ∈ contenders ∧ ∀ r ∈ m.rejections, r.place = e.place → r.reason = .duplicate

/-- A video bid has timed out exactly if its lookup takes too long, or if the store says so. -/
theorem CategoryMapping.Follows.timeout_iff {m : CategoryMapping} {contenders : List Contender}
    {adServer : PrimaryAdServer} {publisher : String} {bound : Nat} {e : VideoEntry} {c : Candidate}
    {answer : Timed (Except StoreError (Option String))}
    (h : m.Follows contenders adServer publisher bound e c answer) :
    m.RejectsWith e (.store .timeout) ↔ bound < answer.delay ∨ answer.value = .error .timeout := by
  constructor
  · rintro ⟨hmem, -⟩
    by_contra hnot
    obtain ⟨hinTime, hvalue⟩ := not_or.1 hnot
    rw [Nat.not_lt] at hinTime
    cases hanswer : answer.value with
    | error reason =>
      have hreason := (h.failed hinTime reason hanswer).2 _ hmem rfl
      cases hreason
      exact hvalue hanswer
    | ok translated =>
      cases translated with
      | none => cases (h.unknown hinTime hanswer).2 _ hmem rfl
      | some category => cases (h.translated hinTime category hanswer).2 _ hmem rfl
  · rintro (hlate | hvalue)
    · exact h.late hlate
    · rcases Nat.lt_or_ge bound answer.delay with hlate | hinTime
      · exact h.late hlate
      · exact h.failed hinTime .timeout hvalue

namespace MappingRules

variable {store : CategoryStore} {rules : MappingRules} {deadline : Deadline} {now : Nat}
  {responses : List PartnerResponse} {adServer : PrimaryAdServer} {e : VideoEntry} {c : Candidate}
  {r : Rejection} {k : Contender} {m : Timed CategoryMapping}

/-- Categories are translated exactly if the request does not say otherwise. -/
theorem isSome_adServer {brand : BrandCategory} {targeting : Targeting}
    (hrules : ofTargeting brand targeting = .ok rules) :
    rules.adServer.isSome = brand.translateCategories.getD true := by
  have hserver := (parts_of_ofTargeting hrules).1
  rw [adServerOf] at hserver
  split at hserver
  · next hon =>
    rw [hon]
    split at hserver
    · cases hserver
    · split at hserver
      · cases hserver
      · split at hserver
        · cases hserver
        · rw [← Except.ok.inj hserver]
          rfl
  · next hoff =>
    rw [Bool.not_eq_true] at hoff
    rw [← Except.ok.inj hserver, hoff]
    rfl

/-! ## What comes of a lookup -/

/-- A lookup that takes longer than there is time left has timed out. -/
theorem resolve_of_lt (hserver : rules.adServer = some adServer)
    (hlate : deadline.remaining now <
      (store.lookup adServer.name rules.publisher c.rawCategory).delay) :
    rules.resolve store deadline now c = .error ⟨c.toBidRef, .store .timeout⟩ := by
  rw [resolve, hserver]
  dsimp only
  rw [Deadline.await, if_neg (Nat.not_le.2 hlate)]
  rfl

/-- What comes of any other lookup is the store's answer, however long it took. -/
theorem resolve_of_le (hserver : rules.adServer = some adServer)
    (hinTime : (store.lookup adServer.name rules.publisher c.rawCategory).delay ≤
      deadline.remaining now) :
    rules.resolve store deadline now c =
      c.translated adServer rules.publisher
        (some (store.lookup adServer.name rules.publisher c.rawCategory).value) := by
  rw [resolve, hserver]
  dsimp only
  rw [Deadline.value_await hinTime]

/-- A video bid has one rejection at most. -/
theorem rejectsWith_of_mem (hm : mapByRules store rules deadline now responses = some m)
    {reason : RejectionReason} (hmem : ⟨e.ref, reason⟩ ∈ m.value.rejections) :
    m.value.RejectsWith e reason := by
  refine ⟨hmem, ?_⟩
  intro r hr hplace
  rw [eq_of_place_rejections hm hr hmem hplace]

/-- A video bid whose lookup fails is rejected for that. -/
theorem rejectsWith_of_resolve_error
    (hm : mapByRules store rules deadline now responses = some m) (he : e ∈ videoEntries responses)
    (hc : rules.assess e = some (.ok c)) {reason : RejectionReason}
    (hr : rules.resolve store deadline now c = .error ⟨c.toBidRef, reason⟩) :
    m.value.RejectsWith e reason := by
  obtain ⟨assessed, hassessed, hrejections, -, -⟩ := parts_of_mapByRules hm
  have hmem : ⟨c.toBidRef, reason⟩ ∈ m.value.rejections := by
    obtain ⟨a, ha, hassess⟩ := exists_of_mem_left hassessed he
    rw [hc] at hassess
    cases hassess
    rw [hrejections, List.mem_mergeSort]
    refine List.mem_append_left _ (List.mem_append_right _ (mem_failures.2 ?_))
    exact List.mem_map.2 ⟨c, mem_successes.2 ha, hr⟩
  rw [ref_of_assess_ok hc] at hmem
  exact rejectsWith_of_mem hm hmem

/-- A video bid whose lookup succeeds competes with the category that was found.  If it is rejected,
then as a duplicate. -/
theorem contends_of_resolve_ok
    (hm : mapByRules store rules deadline now responses = some m) (he : e ∈ videoEntries responses)
    (hc : rules.assess e = some (.ok c)) (hk : rules.resolve store deadline now c = .ok k) :
    k ∈ rules.contenders store deadline now responses ∧
      ∀ r ∈ m.value.rejections, r.place = e.place → r.reason = .duplicate := by
  have hcontender : rules.contender? store deadline now e = some k := by
    simp [contender?, hc, hk, Except.toOption]
  have hmem : k ∈ rules.contenders store deadline now responses :=
    List.mem_filterMap.2 ⟨e, he, hcontender⟩
  have hplaceOf : k.candidate.place = e.place :=
    congrArg BidRef.place (ref_of_contender? hcontender)
  refine ⟨hmem, ?_⟩
  intro r hr hplace
  rw [← hplaceOf] at hplace
  by_cases hwins : k.Wins rules.withCategory (rules.contenders store deadline now responses)
  · exact absurd hplace (not_rejected_of_wins hm hwins r hr)
  · rw [eq_of_place_rejections hm hr (duplicate_mem_rejections hm hmem hwins) hplace]
    rfl

/-- Every video bid of the right form follows the lookup of its own category. -/
theorem follows_of_mapByRules (hm : mapByRules store rules deadline now responses = some m)
    (hserver : rules.adServer = some adServer) (he : e ∈ videoEntries responses)
    (hc : rules.assess e = some (.ok c)) :
    m.value.Follows (rules.contenders store deadline now responses) adServer rules.publisher
      (deadline.remaining now) e c
      (store.lookup adServer.name rules.publisher c.rawCategory) where
  late hlate := rejectsWith_of_resolve_error hm he hc (resolve_of_lt hserver hlate)
  failed hinTime reason hvalue := by
    refine rejectsWith_of_resolve_error hm he hc ?_
    rw [resolve_of_le hserver hinTime, hvalue]
    rfl
  unknown hinTime hvalue := by
    refine rejectsWith_of_resolve_error hm he hc ?_
    rw [resolve_of_le hserver hinTime, hvalue]
    rfl
  translated hinTime category hvalue := by
    refine contends_of_resolve_ok hm he hc ?_
    rw [resolve_of_le hserver hinTime, hvalue]
    rfl

/-! ## How long the lookups take -/

/-- All lookups together take as long as the longest one, cut off at the deadline. -/
theorem longestDelay_lookups (hserver : rules.adServer = some adServer)
    (candidates : List Candidate) :
    longestDelay (rules.lookups store deadline now candidates) =
      (candidates.map fun c =>
        min (store.lookup adServer.name rules.publisher c.rawCategory).delay
          (deadline.remaining now)).foldr max 0 := by
  rw [lookups, hserver]
  dsimp only
  induction candidates with
  | nil => rfl
  | cons c rest ih =>
    rw [List.map_cons, longestDelay_cons, ih, Deadline.delay_await, List.map_cons, List.foldr_cons]

/-- Without translation neither the store nor the time matters. -/
theorem mapByRules_of_untranslated (hserver : rules.adServer = none) (store' : CategoryStore)
    (deadline' : Deadline) (now' : Nat) :
    mapByRules store rules deadline now responses =
      mapByRules store' rules deadline' now' responses := by
  simp only [mapByRules, translate, hserver]

end MappingRules

variable {store : CategoryStore} {lookupTimeout : Nat} {targeting : Targeting}
  {deadline : Deadline} {now : Nat} {responses : List PartnerResponse}

/-- The lookups of all video bids of the right form share one bound, and they do not affect each
other: a bid has timed out exactly if its lookup takes longer than the bound or the store says so,
and else it is rejected, or competes, by what the store answers for its category.  The mapping takes
as long as the longest lookup, cut off at the bound.  Without translation it takes no time, and
neither the store nor the time matters.

There is no mapping at all if the price of such a bid has no bucket that can be written, which does
not happen with two places. -/
theorem mapCategories_shares_bound {brand : BrandCategory} {rules : MappingRules}
    (hbrand : targeting.includeBrandCategory = some brand)
    (hrules : ofTargeting brand targeting = .ok rules) :
    (¬ rules.Priced responses →
      mapCategories store lookupTimeout targeting deadline now responses = .error .overflow) ∧
    (rules.granularity.precision ≤ 2 → rules.Priced responses) ∧
    (rules.Priced responses →
      ∃ m, mapCategories store lookupTimeout targeting deadline now responses = .ok m ∧
        (brand.translateCategories.getD true = false →
          m.delay = 0 ∧ ∀ store' lookupTimeout' deadline' now',
            mapCategories store' lookupTimeout' targeting deadline' now' responses = .ok m) ∧
        (brand.translateCategories.getD true = true →
          ∃ adServer, rules.adServer = some adServer ∧
            m.delay = ((rules.candidates responses).map fun c =>
              min (store.lookup adServer.name rules.publisher c.rawCategory).delay
                (lookupBound lookupTimeout deadline now)).foldr max 0 ∧
            ∀ e ∈ videoEntries responses, ∀ c, rules.assess e = some (.ok c) →
              let answer := store.lookup adServer.name rules.publisher c.rawCategory
              m.value.Follows
                (rules.contenders store (deadline.boundedBy now (some lookupTimeout)) now responses)
                adServer rules.publisher (lookupBound lookupTimeout deadline now) e c answer ∧
              (m.value.RejectsWith e (.store .timeout) ↔
                lookupBound lookupTimeout deadline now < answer.delay ∨
                  answer.value = .error .timeout))) := by
  refine ⟨mapCategories_of_not_priced hbrand hrules,
    fun hprecision => priced_of_precision_le hrules hprecision responses, ?_⟩
  intro hpriced
  have hsome := isSome_adServer hrules
  obtain ⟨m, hm, hok⟩ := mapCategories_of_priced hbrand hrules hpriced
  refine ⟨m, hok, ?_, ?_⟩
  · intro hoff
    have hserver : rules.adServer = none := by
      rw [hoff, Option.isSome_eq_false_iff, Option.isNone_iff_eq_none] at hsome
      exact hsome
    constructor
    · rw [delay_mapByRules hm, lookups, hserver]
      rfl
    · intro store' lookupTimeout' deadline' now'
      rw [mapCategories_of_rules hbrand hrules, mapByRules_of_untranslated hserver store
        (deadline.boundedBy now (some lookupTimeout)) now, hm]
  · intro hon
    obtain ⟨adServer, hserver⟩ := Option.isSome_iff_exists.1 (hsome.trans hon)
    refine ⟨adServer, hserver, ?_, ?_⟩
    · rw [delay_mapByRules hm, longestDelay_lookups hserver, remaining_boundedBy]
    · intro e he c hc
      have hfollows := follows_of_mapByRules hm hserver he hc
      rw [remaining_boundedBy] at hfollows
      exact ⟨hfollows, hfollows.timeout_iff⟩

/-! ## A slow category -/

/-- Knows all categories under their own names, but is slow for one of them. -/
def slowForOne : CategoryStore where
  lookup _ _ category := ⟨if category = "slow" then 80 else 20, .ok (some category)⟩

/-- A video of the slow category. -/
def slowVideo : Bid := { breakVideo "2" 30 with categories := some ["slow"] }

/-- One partner offers a video of another category and one of the slow category. -/
def mixedOffers : List PartnerResponse :=
  [{ partner := "a", code := "a", bids := [breakVideo "1" 30, slowVideo] }]

/-- The slow lookup is cut off after 50 milliseconds, and the other video competes with its
category. -/
theorem mapCategories_shares_bound_mixedOffers :
    ∃ m, mapCategories slowForOne 50 translatedBreak ⟨100⟩ 0 mixedOffers = .ok m ∧
      m.delay = 50 ∧
      m.value.RejectsWith ⟨⟨⟨0, 1⟩, "a", slowVideo⟩, 1⟩ (.store .timeout) ∧
      ⟨⟨⟨0, ⟨0, 0⟩, "a", "1"⟩, "c", 30, "20.00"⟩, "c"⟩ ∈
        translatedRules.contenders slowForOne ⟨50⟩ 0 mixedOffers := by
  have hall := @mapCategories_shares_bound slowForOne 50 translatedBreak ⟨100⟩ 0 mixedOffers _ _
    rfl ofTargeting_translatedBreak
  obtain ⟨m, hm, -, hon⟩ := hall.2.2 (hall.2.1 (by decide))
  obtain ⟨adServer, hserver, hdelay, hlookups⟩ := hon rfl
  cases hserver
  have hentries : videoEntries mixedOffers =
      [⟨⟨⟨0, 0⟩, "a", breakVideo "1" 30⟩, 0⟩, ⟨⟨⟨0, 1⟩, "a", slowVideo⟩, 1⟩] := rfl
  rw [hentries, List.forall_mem_cons, List.forall_mem_singleton] at hlookups
  refine ⟨m, hm, hdelay.trans (by decide), ?_, ?_⟩
  · exact (hlookups.2 _ rfl).2.2 (.inl (by decide))
  · exact ((hlookups.1 _ rfl).1.translated (by decide) "c" rfl).1

end AdExchange
