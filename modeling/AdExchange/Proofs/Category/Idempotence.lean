import AdExchange.Proofs.Category.Deduplication
import AdExchange.Proofs.Category.Kept
import AdExchange.Proofs.Delays

/-!
# Mapping what has been mapped

The bids that the mapping keeps are left alone if they are mapped once more: no two of them are of
one group, and with the same answers from the store each of them is classified as before.  The keys
may be kept in another order then, so that a key may change its bid if a partner has given several
bids one id.
-/

namespace AdExchange

/-- The answers of a store are these, and all of them come by the deadline. -/
structure CategoryStore.AnswersBy (store : CategoryStore)
    (answer : (adServer publisher category : String) → Except StoreError (Option String))
    (deadline : Deadline) (now : Nat) : Prop where
  value : ∀ adServer publisher category,
    (store.lookup adServer publisher category).value = answer adServer publisher category
  inTime : ∀ adServer publisher category,
    (store.lookup adServer publisher category).delay ≤ deadline.remaining now

namespace MappingRules

variable {store store' : CategoryStore} {rules : MappingRules} {deadline deadline' : Deadline}
  {now now' : Nat}
  {answer : (adServer publisher category : String) → Except StoreError (Option String)}

/-- The category that a store knows is the one that it answers. -/
theorem category?_eq_of_answersBy (h : store.AnswersBy answer deadline now) (raw : String) :
    rules.category? store deadline now raw =
      match rules.adServer with
      | none => some raw
      | some adServer => (answer adServer.name rules.publisher raw).toOption.join := by
  rw [category?]
  cases rules.adServer with
  | none => rfl
  | some adServer =>
    dsimp only
    rw [Deadline.value_await (h.inTime _ _ _), h.value]
    cases answer adServer.name rules.publisher raw <;> rfl

/-- With the same answers bids are classified alike. -/
theorem classify?_congr (h : store.AnswersBy answer deadline now)
    (h' : store'.AnswersBy answer deadline' now') :
    rules.classify? store deadline now = rules.classify? store' deadline' now' := by
  funext bid
  simp only [classify?, category?_eq_of_answersBy h, category?_eq_of_answersBy h']

theorem uncontested_congr
    (h : rules.classify? store deadline now = rules.classify? store' deadline' now')
    {responses : List PartnerResponse} (hu : rules.Uncontested store deadline now responses) :
    rules.Uncontested store' deadline' now' responses := by
  obtain ⟨hclassified, hnodup⟩ := hu
  unfold group? at hnodup
  rw [h] at hclassified hnodup
  exact ⟨hclassified, hnodup⟩

end MappingRules

open MappingRules

variable {store store' : CategoryStore} {lookupTimeout : Nat} {targeting : Targeting}
  {deadline deadline' : Deadline} {now now' : Nat} {responses : List PartnerResponse}
  {m : Timed CategoryMapping}
  {answer : (adServer publisher category : String) → Except StoreError (Option String)}

/-- If the store answers the same both times and in time, the mapping of what has been mapped
succeeds and rejects nothing, and a bid that is alone with its partner and its id has its key as
before. -/
theorem mapCategories_idempotent
    (hanswers : store.AnswersBy answer (deadline.boundedBy now (some lookupTimeout)) now)
    (hanswers' : store'.AnswersBy answer (deadline'.boundedBy now' (some lookupTimeout)) now')
    (h : mapCategories store lookupTimeout targeting deadline now responses = .ok m) :
    ∃ m', mapCategories store' lookupTimeout targeting deadline' now' m.value.responses = .ok m' ∧
      m'.value.responses = m.value.responses ∧ m'.value.rejections = [] ∧
      ∀ p : PlacedBid, p.Alone (videoBids m.value.responses) →
        m'.value.key? p.partner p.bid.id = m.value.key? p.partner p.bid.id ∧
        (targeting.includeBrandCategory.isSome →
          (m.value.key? p.partner p.bid.id).isSome) := by
  rcases mapCategories_eq_ok_cases h with ⟨hnone, rfl⟩ | ⟨brand, rules, hbrand, hrules, hm⟩
  · refine ⟨⟨0, { responses }⟩, by rw [mapCategories, hnone], rfl, rfl, ?_⟩
    intro p _
    exact ⟨rfl, by simp [hnone]⟩
  · have hclassify : rules.classify? store (deadline.boundedBy now (some lookupTimeout)) now =
        rules.classify? store' (deadline'.boundedBy now' (some lookupTimeout)) now' :=
      classify?_congr hanswers hanswers'
    obtain ⟨m', hm', hresponses, hrejections⟩ :=
      mapByRules_of_uncontested (uncontested_congr hclassify (uncontested_of_mapByRules hm))
    refine ⟨m', ?_, hresponses, hrejections, ?_⟩
    · rw [mapCategories_of_rules hbrand hrules, hm']
    · intro p hp
      obtain ⟨hsome, hkey⟩ := key?_of_alone hm hp
      obtain ⟨-, hkey'⟩ := key?_of_alone hm' (hresponses ▸ hp)
      refine ⟨?_, fun _ => hsome⟩
      rw [hkey, hkey', keyOf?_eq_map_classify?, keyOf?_eq_map_classify?, hclassify]

/-! ## A break that is mapped twice -/

/-- A break for which categories are translated. -/
def translatedBreak : Targeting :=
  { breakTargeting none with
    includeBrandCategory := some
      { withCategory := some true, primaryAdServer := some 1, publisher := some "p" } }

def translatedRules : MappingRules :=
  { breakRules .medium with adServer := some .freewheel, publisher := "p" }

theorem ofTargeting_translatedBreak :
    ofTargeting { withCategory := some true, primaryAdServer := some 1, publisher := some "p" }
      translatedBreak = .ok translatedRules := by
  simp only [ofTargeting, translatedBreak, breakTargeting, Option.getD_some,
    ascending_breakDurations]
  rfl

/-- Knows one category, and takes some milliseconds for each answer. -/
def answersAfter (delay : Nat) : CategoryStore where
  lookup _ _ category := ⟨delay, .ok (if category = "c" then some "cars" else none)⟩

theorem answersBy_answersAfter {delay : Nat} {deadline : Deadline} {now : Nat}
    (h : delay ≤ deadline.remaining now) :
    (answersAfter delay).AnswersBy
      (fun _ _ category => .ok (if category = "c" then some "cars" else none)) deadline now where
  value _ _ _ := rfl
  inTime _ _ _ := h

/-- The store takes longer the second time, but not too long. -/
theorem mapCategories_idempotent_answersAfter : ∃ m m',
    mapCategories (answersAfter 20) 50 translatedBreak ⟨100⟩ 0 breakOffers = .ok m ∧
    mapCategories (answersAfter 40) 50 translatedBreak ⟨100⟩ 30 m.value.responses = .ok m' ∧
    m'.value.responses = m.value.responses ∧ m'.value.rejections = [] := by
  have hm : ∃ m, _ ∧
      mapCategories (answersAfter 20) 50 translatedBreak ⟨100⟩ 0 breakOffers = .ok m :=
    mapCategories_of_priced rfl ofTargeting_translatedBreak (by decide)
  obtain ⟨m, -, hm⟩ := hm
  have hfirst : (answersAfter 20).AnswersBy _ ((⟨100⟩ : Deadline).boundedBy 0 (some 50)) 0 :=
    answersBy_answersAfter (by decide)
  have hsecond : (answersAfter 40).AnswersBy _ ((⟨100⟩ : Deadline).boundedBy 30 (some 50)) 30 :=
    answersBy_answersAfter (by decide)
  obtain ⟨m', hm', hresponses, hrejections, -⟩ := mapCategories_idempotent hfirst hsecond hm
  exact ⟨m, m', hm, hm', hresponses, hrejections⟩

end AdExchange
