import AdExchange.Proofs.Category.Deduplication
import AdExchange.Proofs.Category.Kept
import AdExchange.Proofs.Decimal.Text

/-!
# Keys are distinct

A display key is written with underscores between its parts, and a category may have underscores of
its own.  But a price bucket has none, and neither has a length, so the parts of a key with a
category lie before the first underscore, behind the last one, and in between.  So bids of different
groups have different keys, and no two bids that are kept are of one group.
-/

namespace AdExchange

/-! ## Texts with separators -/

section Separators

variable {c : Char} {s t u v : List Char}

/-- What stands before the first separator, and what stands behind it. -/
theorem eq_of_first_separator (hs : c ∉ s) (ht : c ∉ t) (h : s ++ c :: u = t ++ c :: v) :
    s = t ∧ u = v := by
  induction s generalizing t with
  | nil =>
    cases t with
    | nil => exact ⟨rfl, (List.cons.inj h).2⟩
    | cons b t => exact absurd ((List.cons.inj h).1 ▸ List.mem_cons_self) ht
  | cons a s ih =>
    cases t with
    | nil => exact absurd ((List.cons.inj h).1 ▸ List.mem_cons_self) hs
    | cons b t =>
      obtain ⟨rfl, hrest⟩ := List.cons.inj h
      obtain ⟨rfl, huv⟩ := ih (fun hc => hs (List.mem_cons_of_mem _ hc))
        (fun hc => ht (List.mem_cons_of_mem _ hc)) hrest
      exact ⟨rfl, huv⟩

/-- What stands before the last separator, and what stands behind it. -/
theorem eq_of_last_separator (hu : c ∉ u) (hv : c ∉ v) (h : s ++ c :: u = t ++ c :: v) :
    s = t ∧ u = v := by
  have hreverse : u.reverse ++ c :: s.reverse = v.reverse ++ c :: t.reverse := by
    simpa using congrArg List.reverse h
  obtain ⟨huv, hst⟩ := eq_of_first_separator (by simpa using hu) (by simpa using hv) hreverse
  exact ⟨List.reverse_injective hst, List.reverse_injective huv⟩

end Separators

namespace Decimal

theorem underscore_not_mem_joined {sign : String} {whole places : List Char}
    (hsign : '_' ∉ sign.toList) (hwhole : '_' ∉ whole) (hplaces : '_' ∉ places) :
    '_' ∉ (joined sign whole places).toList := by
  have hpoint : '_' ∉ (if places.isEmpty then "" else "." ++ String.ofList places).toList := by
    split
    · decide
    · simpa using hplaces
  simp only [joined, String.toList_append, String.toList_ofList, List.mem_append, not_or]
  exact ⟨⟨hsign, hwhole⟩, hpoint⟩

/-- A decimal with a fixed number of places has no underscore. -/
theorem underscore_not_mem_truncatedText? {d : Decimal} {n : Nat} {text : String}
    (h : d.truncatedText? n = some text) : '_' ∉ text.toList := by
  have hdigits : '_' ∉ paddedDigits d.mantissa d.scale := fun hmem =>
    absurd (isDigit_of_mem_paddedDigits hmem) (by decide)
  have hsign : '_' ∉ d.signText.toList := by
    rw [signText]
    split <;> decide
  simp only [truncatedText?, Option.ite_none_left_eq_some, Option.some.injEq] at h
  obtain ⟨-, rfl⟩ := h
  refine underscore_not_mem_joined hsign (fun hmem => hdigits (List.mem_of_mem_take hmem)) ?_
  intro hmem
  rcases List.mem_append.1 hmem with hmem | hmem
  · exact hdigits (List.mem_of_mem_drop (List.mem_of_mem_take hmem))
  · exact absurd (List.eq_of_mem_replicate hmem) (by decide)

end Decimal

/-! ## Keys and groups -/

theorem underscore_not_mem_lengthText (duration : UInt32) : '_' ∉ (lengthText duration).toList := by
  simp [lengthText, Nat.toList_repr]

theorem lengthText_inj {m n : UInt32} : lengthText m = lengthText n ↔ m = n := by
  refine ⟨?_, congrArg lengthText⟩
  intro h
  have hdigits : Nat.toDigits 10 m.toNat = Nat.toDigits 10 n.toNat := by
    simpa [lengthText, ← String.toList_inj, Nat.toList_repr] using h
  have hnat := congrArg (Nat.ofDigitChars 10 · 0) hdigits
  simpa [Nat.ofDigitChars_ten_toDigits, UInt32.toNat_inj] using hnat

namespace Classification

variable {withCategory : Bool} {c d : Classification}

/-- What is written behind the price bucket. -/
theorem toList_displayKey (withCategory : Bool) (c : Classification) :
    (c.displayKey withCategory).toList = c.bucket.toList ++ '_' ::
      if withCategory then c.category.toList ++ '_' :: (lengthText c.duration).toList
      else (lengthText c.duration).toList := by
  cases withCategory <;> simp [displayKey]

/-- Bids with one key are of one group. -/
theorem groupingKey_eq_of_displayKey_eq (hc : '_' ∉ c.bucket.toList) (hd : '_' ∉ d.bucket.toList)
    (h : c.displayKey withCategory = d.displayKey withCategory) :
    c.groupingKey withCategory = d.groupingKey withCategory := by
  rw [← String.toList_inj, toList_displayKey, toList_displayKey] at h
  obtain ⟨hbucket, hrest⟩ := eq_of_first_separator hc hd h
  -- A category may have underscores, so its end is found from behind.
  cases withCategory with
  | true =>
    obtain ⟨hcategory, -⟩ := eq_of_last_separator (underscore_not_mem_lengthText _)
      (underscore_not_mem_lengthText _) hrest
    exact congrArg GroupingKey.category (String.toList_inj.1 hcategory)
  | false =>
    have hduration := lengthText_inj.1 (String.toList_inj.1 hrest)
    exact congrArg₂ GroupingKey.priceDuration (String.toList_inj.1 hbucket) hduration

end Classification

open MappingRules

section Mapping

variable {store : CategoryStore} {rules : MappingRules} {deadline : Deadline} {now : Nat}
  {responses : List PartnerResponse} {m : Timed CategoryMapping}

theorem MappingRules.underscore_not_mem_bucket {bid : Bid} {c : Classification}
    (h : rules.classify? store deadline now bid = some c) : '_' ∉ c.bucket.toList := by
  simp only [classify?, Option.bind_eq_bind, Option.bind_eq_some_iff] at h
  obtain ⟨form, -, bucket, hbucket, category, -, h⟩ := h
  cases h
  obtain ⟨value, -, htext⟩ := Option.bind_eq_some_iff.1 hbucket
  exact Decimal.underscore_not_mem_truncatedText? htext

/-- The keys of uncontested bids are distinct. -/
theorem nodup_keys_of_uncontested (h : rules.Uncontested store deadline now responses) :
    ((videoBids responses).map fun p => rules.keyOf? store deadline now p.bid).Nodup := by
  refine List.Nodup.map_on ?_ (nodup_videoBids responses)
  intro p hp q hq hkey
  refine List.inj_on_of_nodup_map h.nodup hp hq ?_
  obtain ⟨c, hc⟩ := Option.isSome_iff_exists.1 (h.classified p hp)
  obtain ⟨d, hd⟩ := Option.isSome_iff_exists.1 (h.classified q hq)
  simp only [keyOf?_eq_map_classify?, hc, hd, Option.map_some, Option.some.injEq] at hkey
  simp only [group?, hc, hd, Option.map_some, Option.some.injEq]
  exact Classification.groupingKey_eq_of_displayKey_eq (underscore_not_mem_bucket hc)
    (underscore_not_mem_bucket hd) hkey

theorem keyOf?_isSome_of_uncontested (h : rules.Uncontested store deadline now responses)
    {p : PlacedBid} (hp : p ∈ videoBids responses) :
    (rules.keyOf? store deadline now p.bid).isSome := by
  rw [keyOf?_eq_map_classify?, Option.isSome_map]
  exact h.classified p hp

/-- A key that is kept is kept for one partner and one bid id. -/
theorem names_eq_of_key? {partner partner' bidId bidId' key : String}
    (h : mapByRules store rules deadline now responses = some m)
    (hkey : m.value.key? partner bidId = some key)
    (hkey' : m.value.key? partner' bidId' = some key) : partner = partner' ∧ bidId = bidId' := by
  obtain ⟨p, hp, rfl, rfl, hown⟩ := exists_mem_of_key? h hkey
  obtain ⟨q, hq, rfl, rfl, hown'⟩ := exists_mem_of_key? h hkey'
  obtain rfl : p = q := List.inj_on_of_nodup_map
    (nodup_keys_of_uncontested (uncontested_of_mapByRules h)) hp hq (hown.trans hown'.symm)
  exact ⟨rfl, rfl⟩

end Mapping

/-- Each video bid that is kept has a key, and no two of them have the same one.  The keys that are
kept by partner and bid id are keys of these bids, so that no key is kept twice. -/
theorem mapCategories_keys_distinct {store : CategoryStore} {lookupTimeout : Nat}
    {targeting : Targeting} {brand : BrandCategory} {deadline : Deadline} {now : Nat}
    {responses : List PartnerResponse} {m : Timed CategoryMapping}
    (hbrand : targeting.includeBrandCategory = some brand)
    (h : mapCategories store lookupTimeout targeting deadline now responses = .ok m) :
    ∃ rules, ofTargeting brand targeting = .ok rules ∧
      let keyOf? := rules.keyOf? store (deadline.boundedBy now (some lookupTimeout)) now
      (∀ p ∈ videoBids m.value.responses, (keyOf? p.bid).isSome) ∧
      ((videoBids m.value.responses).map fun p => keyOf? p.bid).Nodup ∧
      (∀ partner bidId key, m.value.key? partner bidId = some key →
        ∃ p ∈ videoBids m.value.responses, p.partner = partner ∧ p.bid.id = bidId ∧
          keyOf? p.bid = some key) ∧
      ∀ partner bidId partner' bidId' key, m.value.key? partner bidId = some key →
        m.value.key? partner' bidId' = some key → partner = partner' ∧ bidId = bidId' := by
  rcases mapCategories_eq_ok_cases h with ⟨hnone, -⟩ | ⟨brand', rules, hbrand', hrules, hm⟩
  · rw [hbrand] at hnone
    cases hnone
  obtain rfl : brand = brand' := Option.some.inj (hbrand.symm.trans hbrand')
  have huncontested := uncontested_of_mapByRules hm
  refine ⟨rules, hrules, fun p hp => keyOf?_isSome_of_uncontested huncontested hp,
    nodup_keys_of_uncontested huncontested, ?_, ?_⟩
  · intro partner bidId key hkey
    exact exists_mem_of_key? hm hkey
  · intro partner bidId partner' bidId' key hkey hkey'
    exact names_eq_of_key? hm hkey hkey'

/-- Two videos whose categories have underscores and digits. -/
def underscoredOffers : List PartnerResponse :=
  [{ partner := "a", code := "a"
     bids := [{ breakVideo "1" 10 with categories := some ["c_15s"] },
       { breakVideo "2" 10 with categories := some ["c"] },
       { breakVideo "3" 10 with categories := some ["_c"] }] }]

/-- Their keys look alike, but they are not the same. -/
theorem mapCategories_keys_distinct_underscoredOffers :
    let keyOf? := (breakRules .medium).keyOf? (.ofTable []) ⟨50⟩ 0
    (underscoredOffers.flatMap fun r => r.bids.map keyOf?) =
      [some "20.00_c_15s_15s", some "20.00_c_15s", some "20.00__c_15s"] ∧
    ∃ m, mapCategories (.ofTable []) 50 (breakTargeting none) ⟨100⟩ 0 underscoredOffers = .ok m ∧
      ((videoBids m.value.responses).map fun p => keyOf? p.bid).Nodup := by
  have hrules := ofTargeting_break (v := none) (g := .medium) rfl
  have hm : ∃ m, _ ∧
      mapCategories (.ofTable []) 50 (breakTargeting none) ⟨100⟩ 0 underscoredOffers = .ok m :=
    mapCategories_of_priced rfl hrules (by decide)
  obtain ⟨m, -, hm⟩ := hm
  refine ⟨by decide +kernel, m, hm, ?_⟩
  obtain ⟨rules, hrules', -, hnodup, -, -⟩ := mapCategories_keys_distinct rfl hm
  cases hrules.symm.trans hrules'
  exact hnodup

end AdExchange
