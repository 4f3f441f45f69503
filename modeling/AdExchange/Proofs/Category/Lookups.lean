import AdExchange.Proofs.Category.Outcome
import AdExchange.Proofs.Delays

/-!
# The time that the mapping of video bids takes

The categories of all candidates are looked up at the same time, and nothing else of the mapping
takes time.  All lookups share one deadline, so none of them outlasts it.
-/

namespace AdExchange

open MappingRules

namespace MappingRules

/-- The video bids of the right form. -/
def candidates (rules : MappingRules) (responses : List PartnerResponse) : List Candidate :=
  (videoEntries responses).filterMap fun e => (rules.assess e).bind (·.toOption)

/-- The lookups of the categories of some candidates.  There are none if nothing is to be
translated. -/
def lookups (store : CategoryStore) (rules : MappingRules) (deadline : Deadline) (now : Nat)
    (candidates : List Candidate) : List (Timed (Option (Except StoreError (Option String)))) :=
  match rules.adServer with
  | none => []
  | some adServer => candidates.map fun c =>
    deadline.await now (store.lookup adServer.name rules.publisher c.rawCategory)

variable {store : CategoryStore} {rules : MappingRules} {deadline : Deadline} {now : Nat}
  {responses : List PartnerResponse} {assessed : List (Except Rejection Candidate)}
  {m : Timed CategoryMapping}

theorem delay_translate (candidates : List Candidate) :
    (translate store rules deadline now candidates).delay =
      longestDelay (rules.lookups store deadline now candidates) := by
  rw [translate, lookups]
  cases rules.adServer with
  | none => rfl
  | some adServer => simp only [List.map_map, Function.comp_def]

theorem delay_le_of_mem_lookups {candidates : List Candidate} :
    ∀ l ∈ rules.lookups store deadline now candidates, l.delay ≤ deadline.remaining now := by
  rw [lookups]
  cases rules.adServer with
  | none => simp
  | some adServer =>
    intro l hl
    obtain ⟨c, -, rfl⟩ := List.mem_map.1 hl
    exact deadline.delay_await_le now _

theorem successes_eq_candidates
    (h : List.Forall₂ (fun e a => rules.assess e = some a) (videoEntries responses) assessed) :
    successes assessed = rules.candidates responses := by
  rw [candidates, successes]
  generalize videoEntries responses = entries at h ⊢
  induction h with
  | nil => rfl
  | cons ha _ ih =>
    rw [List.filterMap_cons, List.filterMap_cons, ha, ih]
    rfl

/-- The mapping by rules takes as long as its longest lookup. -/
theorem delay_mapByRules (h : mapByRules store rules deadline now responses = some m) :
    m.delay = longestDelay (rules.lookups store deadline now (rules.candidates responses)) := by
  simp only [mapByRules, Option.bind_eq_bind, Option.bind_eq_some_iff, mapM_eq_some_iff] at h
  obtain ⟨assessed, hassessed, h⟩ := h
  cases h
  rw [delay_translate, successes_eq_candidates hassessed]

end MappingRules

/-- The lookups that the mapping of all responses makes.  They may take until the deadline, and no
longer than `lookupTimeout`. -/
def categoryLookups (store : CategoryStore) (lookupTimeout : Nat) (targeting : Targeting)
    (deadline : Deadline) (now : Nat) (responses : List PartnerResponse) :
    List (Timed (Option (Except StoreError (Option String)))) :=
  match targeting.includeBrandCategory with
  | none => []
  | some brand =>
    match ofTargeting brand targeting with
    | .error _ => []
    | .ok rules =>
      if rules.Priced responses then
        rules.lookups store (deadline.boundedBy now (some lookupTimeout)) now
          (rules.candidates responses)
      else []

variable {store : CategoryStore} {lookupTimeout : Nat} {targeting : Targeting}
  {deadline : Deadline} {now : Nat} {responses : List PartnerResponse}

/-- Each lookup is over by the deadline. -/
theorem delay_le_of_mem_categoryLookups :
    ∀ l ∈ categoryLookups store lookupTimeout targeting deadline now responses,
      l.delay ≤ deadline.remaining now := by
  intro l hl
  rw [categoryLookups] at hl
  split at hl
  · simp at hl
  · split at hl
    · simp at hl
    · split at hl
      · exact Nat.le_trans (delay_le_of_mem_lookups l hl) (deadline.remaining_boundedBy_le now _)
      · simp at hl

/-- The mapping takes as long as its longest lookup, and no lookup is made if it fails. -/
theorem delay_mapCategories :
    longestDelay (categoryLookups store lookupTimeout targeting deadline now responses) =
      delayOf (mapCategories store lookupTimeout targeting deadline now responses) := by
  rw [categoryLookups]
  cases hbrand : targeting.includeBrandCategory with
  | none => simp [mapCategories, hbrand, delayOf]
  | some brand =>
    cases hrules : ofTargeting brand targeting with
    | error f => simp [mapCategories, hbrand, hrules, delayOf]
    | ok rules =>
      rw [mapCategories_of_rules hbrand hrules]
      cases hm : mapByRules store rules (deadline.boundedBy now (some lookupTimeout)) now
          responses with
      | none => simp [hrules, mapByRules_eq_none_iff.1 hm, delayOf]
      | some m =>
        simp [hrules, priced_of_mapByRules hm, delay_mapByRules hm, delayOf]

end AdExchange
