import AdExchange.Proofs.Category.Outcome
import Mathlib.Data.List.Induction

/-!
# Display keys

The winner of a group has a key, made from the price bucket, the category and the length of its
bid.  The keys are kept by partner and bid id.  If a partner gives several bids one id, the key of
the last winner among them is found for all of them.
-/

namespace AdExchange

/-! ## What the mapping makes of a bid -/

/-- A length as it is written in a key. -/
def lengthText (duration : UInt32) : String := toString duration.toNat ++ "s"

/-- What the mapping makes of a video bid. -/
structure Classification where
  /-- The price bucket. -/
  bucket : String
  category : String
  /-- The length that the length of the bid is rounded up to. -/
  duration : UInt32
  deriving DecidableEq, Inhabited

namespace Classification

def groupingKey (withCategory : Bool) (c : Classification) : GroupingKey :=
  if withCategory then .category c.category else .priceDuration c.bucket c.duration

def displayKey (withCategory : Bool) (c : Classification) : String :=
  c.bucket ++ "_" ++
    if withCategory then c.category ++ "_" ++ lengthText c.duration else lengthText c.duration

end Classification

/-- What the mapping has made of the bid of a contender. -/
def Contender.classification (k : Contender) : Classification :=
  ⟨k.candidate.bucket, k.category, k.candidate.duration⟩

@[simp] theorem Contender.groupingKey_classification (withCategory : Bool) (k : Contender) :
    k.classification.groupingKey withCategory = k.groupingKey withCategory := rfl

@[simp] theorem Contender.displayKey_classification (withCategory : Bool) (k : Contender) :
    k.classification.displayKey withCategory = k.displayKey withCategory := by
  cases withCategory <;>
    simp [classification, Classification.displayKey, displayKey, lengthText, String.append_assoc]

namespace MappingRules

variable (store : CategoryStore) (rules : MappingRules) (deadline : Deadline) (now : Nat)

/-- The category that a bidder's own one is resolved to, if the store knows it in time. -/
def category? (raw : String) : Option String :=
  match rules.adServer with
  | none => some raw
  | some adServer =>
    match (deadline.await now (store.lookup adServer.name rules.publisher raw)).value with
    | some (.ok category) => category
    | _ => none

/-- The key that a video bid has of itself: its price bucket, its category if that is part of the
keys, and the length that its own length is rounded up to. -/
def keyOf? (bid : Bid) : Option String := do
  let (raw, duration) ← (rules.categoryAndDuration bid).toOption
  let bucket ← rules.granularity.bucket? bid.price
  let category ← rules.category? store deadline now raw
  let length := toString duration.toNat ++ "s"
  return bucket ++ "_" ++ if rules.withCategory then category ++ "_" ++ length else length

/-- What the mapping makes of a video bid, if its form is right, its price has a bucket and its
category is known. -/
def classify? (bid : Bid) : Option Classification := do
  let (raw, duration) ← (rules.categoryAndDuration bid).toOption
  let bucket ← rules.granularity.bucket? bid.price
  let category ← rules.category? store deadline now raw
  return ⟨bucket, category, duration⟩

variable {store rules deadline now}

/-- The key of a bid is that of its classification. -/
theorem keyOf?_eq_map_classify? (bid : Bid) :
    rules.keyOf? store deadline now bid =
      (rules.classify? store deadline now bid).map (·.displayKey rules.withCategory) := by
  simp only [keyOf?, classify?, Option.bind_eq_bind, Option.map_bind, Function.comp_def,
    Option.map_some, Option.pure_def, Classification.displayKey, lengthText]

theorem toOption_resolve (c : Candidate) :
    (rules.resolve store deadline now c).toOption =
      (rules.category? store deadline now c.rawCategory).map fun category => ⟨c, category⟩ := by
  rw [resolve, category?]
  cases rules.adServer with
  | none => rfl
  | some adServer =>
    dsimp only
    generalize (deadline.await now _).value = answer
    rcases answer with - | - | - | category <;> rfl

/-- What a video bid competes as is made of its classification. -/
theorem map_classification_contender? (e : VideoEntry) :
    (rules.contender? store deadline now e).map Contender.classification =
      rules.classify? store deadline now e.bid := by
  rw [contender?, classify?, assess]
  cases hform : rules.categoryAndDuration e.bid with
  | error reason => rfl
  | ok form =>
    cases hbucket : rules.granularity.bucket? e.bid.price with
    | none => rfl
    | some bucket =>
      dsimp only [Option.map_some]
      rw [toOption_resolve, Option.map_map, Option.map_eq_bind]
      rfl

end MappingRules

open MappingRules

/-! ## The keys by partner and bid id -/

/-- The winner whose key is found under a partner and a bid id: the last one of these names. -/
def namedWinner? (winners : List Contender) (partner bidId : String) : Option Contender :=
  winners.reverse.find? fun c => c.candidate.partner = partner ∧ c.candidate.bidId = bidId

theorem namedWinner?_concat (winners : List Contender) (w : Contender) (partner bidId : String) :
    namedWinner? (winners ++ [w]) partner bidId =
      if w.candidate.partner = partner ∧ w.candidate.bidId = bidId then some w
      else namedWinner? winners partner bidId := by
  rw [namedWinner?, List.reverse_concat, List.find?_cons]
  split <;> simp_all [namedWinner?]

/-- The key that is found under a partner and a bid id is that of the last winner of these names. -/
theorem get?_displayKeys (withCategory : Bool) (winners : List Contender) (partner bidId : String) :
    (Dictionary.get? (displayKeys withCategory winners) partner).bind (·.get? bidId) =
      (namedWinner? winners partner bidId).map (·.displayKey withCategory) := by
  induction winners using List.reverseRecOn with
  | nil => rfl
  | append_singleton winners w ih =>
    rw [namedWinner?_concat, displayKeys, List.foldl_append, ← displayKeys, List.foldl_cons,
      List.foldl_nil, Dictionary.get?_insert]
    by_cases hpartner : partner = w.candidate.partner
    · subst hpartner
      rw [if_pos rfl, Option.bind_some, Dictionary.get?_insert, Dictionary.get?_getD_nil, ih]
      by_cases hid : bidId = w.candidate.bidId
      · simp [hid]
      · simp [hid, Ne.symm hid]
    · simp [hpartner, Ne.symm hpartner, ih]

theorem namedWinner?_mem {winners : List Contender} {partner bidId : String} {c : Contender}
    (h : namedWinner? winners partner bidId = some c) :
    c ∈ winners ∧ c.candidate.partner = partner ∧ c.candidate.bidId = bidId := by
  refine ⟨List.mem_reverse.1 (List.mem_of_find?_eq_some h), ?_⟩
  simpa using List.find?_some h

theorem namedWinner?_isSome {winners : List Contender} {c : Contender} (hc : c ∈ winners) :
    ∃ w, namedWinner? winners c.candidate.partner c.candidate.bidId = some w := by
  rw [← Option.isSome_iff_exists, namedWinner?, List.find?_isSome]
  exact ⟨c, List.mem_reverse.2 hc, by simp⟩

/-! ## The winners among the bids -/

section Winners

variable {store : CategoryStore} {rules : MappingRules} {deadline : Deadline} {now : Nat}
  {responses : List PartnerResponse} {m : Timed CategoryMapping} {p : PlacedBid} {c : Contender}

/-- A winner competes for a video bid. -/
theorem exists_entry_of_mem_winners
    (hc : c ∈ (rules.contest store deadline now responses).winners) :
    ∃ e ∈ videoEntries responses, rules.contender? store deadline now e = some c :=
  List.mem_filterMap.1 ((settled_contest store rules deadline now responses).perm.subset
    (List.mem_append_right _ hc))

/-- A contender competes with a bid: it has the names of the bid, and what the mapping makes of
it. -/
structure Contender.IsOf (store : CategoryStore) (rules : MappingRules) (deadline : Deadline)
    (now : Nat) (c : Contender) (p : PlacedBid) : Prop where
  place : c.candidate.place = p.place
  partner : c.candidate.partner = p.partner
  bidId : c.candidate.bidId = p.bid.id
  classified : rules.classify? store deadline now p.bid = some c.classification

theorem isOf_of_contender? {e : VideoEntry} (h : rules.contender? store deadline now e = some c) :
    c.IsOf store rules deadline now e.toPlacedBid := by
  have href := ref_of_contender? h
  refine ⟨congrArg BidRef.place href, congrArg BidRef.partner href, congrArg BidRef.bidId href, ?_⟩
  rw [← map_classification_contender?, h, Option.map_some]

/-- A winner competes with the bid at its place. -/
theorem isOf_of_mem_winners (hc : c ∈ (rules.contest store deadline now responses).winners)
    (hp : p ∈ placedBids responses) (hplace : c.candidate.place = p.place) :
    p.bid.mediaType = .video ∧ c.IsOf store rules deadline now p := by
  obtain ⟨e, he, hec⟩ := exists_entry_of_mem_winners hc
  obtain ⟨hplaced, hvideo⟩ := mem_placedBids_of_mem_videoEntries he
  have hof := isOf_of_contender? hec
  obtain rfl : e.toPlacedBid = p := eq_of_place_eq hplaced hp (hof.place.symm.trans hplace)
  exact ⟨hvideo, hof⟩

/-- The key of a winner is that of the bid at its place. -/
theorem keyOf?_of_mem_winners (hc : c ∈ (rules.contest store deadline now responses).winners)
    (hp : p ∈ placedBids responses) (hplace : c.candidate.place = p.place) :
    p.bid.mediaType = .video ∧ c.candidate.partner = p.partner ∧ c.candidate.bidId = p.bid.id ∧
      rules.keyOf? store deadline now p.bid = some (c.displayKey rules.withCategory) := by
  obtain ⟨hvideo, hof⟩ := isOf_of_mem_winners hc hp hplace
  refine ⟨hvideo, hof.partner, hof.bidId, ?_⟩
  rw [keyOf?_eq_map_classify?, hof.classified, Option.map_some, Contender.displayKey_classification]

/-- A video bid that is not rejected is a winner. -/
theorem exists_winner_of_kept (h : mapByRules store rules deadline now responses = some m)
    (hp : p ∈ placedBids responses) (hvideo : p.bid.mediaType = .video)
    (hkept : p.place ∉ m.value.rejections.map (·.place)) :
    ∃ c ∈ (rules.contest store deadline now responses).winners, c.candidate.place = p.place := by
  have hentry : p ∈ (videoEntries responses).map (·.toPlacedBid) := by
    rw [map_toPlacedBid_videoEntries, List.mem_filter]
    exact ⟨hp, by simp [hvideo]⟩
  obtain ⟨e, he, rfl⟩ := List.mem_map.1 hentry
  have href := (perm_refs_rejections h).symm.subset (List.mem_map_of_mem he)
  rcases List.mem_append.1 href with hrejected | hwinner
  · exact absurd ((place_mem_rejections_iff h he).2 hrejected) hkept
  · obtain ⟨c, hc, hce⟩ := List.mem_map.1 hwinner
    exact ⟨c, hc, congrArg BidRef.place hce⟩

end Winners

end AdExchange
