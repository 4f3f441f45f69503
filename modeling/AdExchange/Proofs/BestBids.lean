import AdExchange.Proofs.Ranks
import Mathlib.Data.List.Sort

/-!
# A limit leaves the best bids

A partner may offer more bids for an imp than it may list.  The bids for each imp are ranked by
price, and of two bids at the same price, however it is written, the earlier one comes first.  A
limit leaves the first ones of this ranking, in the order in which they were offered, each with its
position in the ranking.

## Main definitions

* `RanksBefore` — of two bids with their places the first one comes first.
* `positionOf` — how many bids for the same imp come before a bid.
* `keptOf` — how many of some bids for an imp a limit leaves.
* `KeepsBest` — the best bids for each imp are kept.

## Main statements

* `map_rankWithinImp_sortedFor` — the rank of a bid is its index once the bids are sorted.
* `exists_arrangement_keptPlaces` — for each imp the first bids of the ranking are kept.
* `cappedBids_keeps_best` — what a limit leaves, and at which positions.
-/

namespace AdExchange

/-! ## From the best to the worst -/

section Arrangement

variable {α : Type} {better : α → α → Bool} {l : List α}

/-- Arranged by rank, the items have the ranks from zero on. -/
theorem Ranked.map_rankIn_eq_range (h : Ranked better l) {order : List α} (hperm : order.Perm l)
    (hascending : order.Pairwise fun a b => rankIn better l a ≤ rankIn better l b) :
    order.map (rankIn better l) = List.range l.length := by
  have hranks : (order.map (rankIn better l)).Perm (List.range l.length) :=
    (hperm.map _).trans h.perm_ranks
  exact hranks.eq_of_pairwise' (List.pairwise_map.2 hascending) List.pairwise_le_range

/-- Where the values are those from zero on, those below a bound are the values of the first
items. -/
theorem filter_lt_eq_take {f : α → Nat} (h : l.map f = List.range l.length) (n : Nat) :
    l.filter (fun a => f a < n) = l.take n := by
  have hvalue : ∀ i (hi : i < l.length), f l[i] = i := by
    intro i hi
    have hi' := congrArg (·[i]?) h
    simpa [hi] using hi'
  have htake : ∀ a ∈ l.take n, decide (f a < n) = true := by
    intro a ha
    obtain ⟨i, hi, rfl⟩ := List.mem_take_iff_getElem.1 ha
    rw [hvalue]
    exact decide_eq_true (by omega)
  have hdrop : ∀ a ∈ l.drop n, ¬ decide (f a < n) = true := by
    intro a ha
    obtain ⟨i, hi, rfl⟩ := List.mem_drop_iff_getElem.1 ha
    rw [hvalue, decide_eq_true_eq]
    omega
  conv_lhs => rw [← List.take_append_drop n l]
  rw [List.filter_append, List.filter_eq_self.2 htake, List.filter_eq_nil_iff.2 hdrop,
    List.append_nil]

end Arrangement

/-! ## The ranking of the bids for an imp -/

/-- Of two bids with their places, the first one comes first: its price is higher, or both prices
are the same number and its place is the earlier one. -/
def RanksBefore (a b : Bid × Nat) : Prop :=
  b.1.price.value < a.1.price.value ∨ (a.1.price.value = b.1.price.value ∧ a.2 < b.2)

instance : DecidableRel RanksBefore := fun a b => decidable_of_iff (outranks a b) outranks_iff

/-- The position of a bid: how many bids for the same imp come before it. -/
def positionOf (bids : List Bid) (b : Bid × Nat) : Nat :=
  bids.zipIdx.countP fun a => a.1.impId = b.1.impId ∧ RanksBefore a b

theorem positionOf_eq (bids : List Bid) (b : Bid × Nat) :
    positionOf bids b = rankWithinImp bids.zipIdx b := by
  rw [positionOf, rankWithinImp, ← List.countP_eq_length_filter]
  refine List.countP_congr fun a _ => ?_
  rw [decide_eq_true_eq, Bool.and_eq_true, beq_iff_eq, outranks_iff, RanksBefore]

/-- The bids for an imp with their places, sorted from the best to the worst. -/
def sortedFor (bids : List Bid) (imp : String) : List (Bid × Nat) :=
  (placedFor bids imp).mergeSort fun a b => !outranks b a

theorem perm_sortedFor (bids : List Bid) (imp : String) :
    (sortedFor bids imp).Perm (placedFor bids imp) := List.mergeSort_perm _ _

theorem pairwise_sortedFor (bids : List Bid) (imp : String) :
    (sortedFor bids imp).Pairwise fun a b => outranks a b := by
  have hsorted : (sortedFor bids imp).Pairwise fun a b => !outranks b a := by
    refine List.pairwise_mergeSort ?_ ?_ _
    · intro a b c hab hbc
      simp only [Bool.not_eq_true', ← Bool.not_eq_true, outranks_iff] at *
      grind
    · intro a b
      simp only [Bool.or_eq_true, Bool.not_eq_true', ← Bool.not_eq_true, outranks_iff]
      grind
  have hnodup : (sortedFor bids imp).Nodup :=
    (perm_sortedFor bids imp).nodup_iff.2 (ranked_placedFor bids imp).nodup
  -- Of two different bids one is better, and it is not the later one.
  refine (hsorted.and hnodup).imp_of_mem ?_
  rintro a b ha hb ⟨hnot, hne⟩
  rw [(perm_sortedFor bids imp).mem_iff] at ha hb
  exact ((ranked_placedFor bids imp).total a ha b hb hne).resolve_right (by simpa using hnot)

/-- The ranks of the sorted bids are their indices. -/
theorem map_rankWithinImp_sortedFor (bids : List Bid) (imp : String) :
    (sortedFor bids imp).map (rankWithinImp bids.zipIdx) =
      List.range (sortedFor bids imp).length := by
  have hperm := perm_sortedFor bids imp
  have hascending : (sortedFor bids imp).Pairwise fun a b =>
      rankIn outranks (placedFor bids imp) a ≤ rankIn outranks (placedFor bids imp) b := by
    refine (pairwise_sortedFor bids imp).imp_of_mem ?_
    intro a b ha hb hab
    rw [hperm.mem_iff] at ha hb
    exact ((ranked_placedFor bids imp).rankIn_lt ha hb hab).le
  rw [hperm.length_eq, ← (ranked_placedFor bids imp).map_rankIn_eq_range hperm hascending]
  refine List.map_congr_left fun b hb => ?_
  obtain rfl : b.1.impId = imp := by
    simpa [placedFor] using (List.mem_filter.1 (hperm.mem_iff.1 hb)).2
  exact rankWithinImp_eq bids b

/-- So the rank of a bid is its index among the bids for its imp once these are sorted. -/
theorem getElem?_sortedFor {bids : List Bid} {b : Bid × Nat} (hb : b ∈ bids.zipIdx) :
    (sortedFor bids b.1.impId)[rankWithinImp bids.zipIdx b]? = some b := by
  have hmem : b ∈ sortedFor bids b.1.impId :=
    (perm_sortedFor bids _).mem_iff.2 (List.mem_filter.2 ⟨hb, by simp⟩)
  obtain ⟨i, hi⟩ := List.getElem?_of_mem hmem
  have hrank := congrArg (·[i]?) (map_rankWithinImp_sortedFor bids b.1.impId)
  have hlt : i < (sortedFor bids b.1.impId).length := (List.getElem?_eq_some_iff.1 hi).1
  simp only [List.getElem?_map, hi, Option.map_some, List.getElem?_range hlt,
    Option.some.injEq] at hrank
  rw [hrank, hi]

/-! ## What a limit leaves -/

/-- How many of some bids for an imp a limit leaves. -/
def keptOf (limit : Option Nat) (n : Nat) : Nat := limit.elim n (min · n)

/-- Of some bids the best ones for each imp are kept, as many as the limit says. -/
structure KeepsBest (bids : List Bid) (limit : Option Nat) (kept : List (Bid × Nat)) : Prop where
  /-- The bids stay in their order. -/
  sublist : kept.Sublist bids.zipIdx
  /-- Without a limit all are kept. -/
  unlimited : limit = none → kept = bids.zipIdx
  /-- As many are kept for each imp as the limit says, or all if there are fewer. -/
  count : ∀ imp, (kept.map (·.1.impId)).count imp = keptOf limit ((bids.map (·.impId)).count imp)
  /-- Each comes before all bids for its imp that are not kept. -/
  best : ∀ a ∈ kept, ∀ b ∈ bids.zipIdx, b ∉ kept → a.1.impId = b.1.impId → RanksBefore a b
  /-- Those for an imp have the positions from zero on, each once. -/
  positions : ∀ imp, ((kept.filter (·.1.impId == imp)).map (positionOf bids)).Perm
    (List.range (keptOf limit ((bids.map (·.impId)).count imp)))
  /-- They are the first ones if the bids for the imp are arranged from the best to the worst, and
  then each bid stands at its position. -/
  arranged : ∀ imp, ∃ order : List (Bid × Nat), order.Perm (placedFor bids imp) ∧
    order.Pairwise RanksBefore ∧ order.map (positionOf bids) = List.range order.length ∧
    (kept.filter (·.1.impId == imp)).Perm (order.take (keptOf limit order.length))

/-- The bids that a limit leaves, with their places. -/
def keptPlaces (bids : List Bid) (limit : Option Nat) : List (Bid × Nat) :=
  bids.zipIdx.filter fun b => limit.all fun n => positionOf bids b < n

theorem cappedBids_eq (bids : List Bid) (limit : Option Nat) :
    cappedBids bids limit = (keptPlaces bids limit).map fun b => (b.1, positionOf bids b) := by
  simp only [cappedBids, keptPlaces, List.filter_map, positionOf_eq]
  refine congrArg _ (List.filter_congr fun b _ => ?_)
  cases limit <;> rfl

/-- For each imp the first bids of the ranking are kept. -/
theorem exists_arrangement_keptPlaces (bids : List Bid) (limit : Option Nat) (imp : String) :
    ∃ order : List (Bid × Nat), order.Perm (placedFor bids imp) ∧
      order.Pairwise RanksBefore ∧ order.map (positionOf bids) = List.range order.length ∧
      ((keptPlaces bids limit).filter (·.1.impId == imp)).Perm
        (order.take (keptOf limit order.length)) := by
  have hperm := perm_sortedFor bids imp
  have hplaces : (sortedFor bids imp).map (positionOf bids) =
      List.range (sortedFor bids imp).length := by
    rw [← map_rankWithinImp_sortedFor]
    exact List.map_congr_left fun b _ => positionOf_eq bids b
  refine ⟨sortedFor bids imp, hperm, (pairwise_sortedFor bids imp).imp outranks_iff.1, hplaces, ?_⟩
  have hfilter : (keptPlaces bids limit).filter (·.1.impId == imp) =
      (placedFor bids imp).filter fun b => limit.all fun n => positionOf bids b < n := by
    rw [keptPlaces, placedFor, List.filter_filter, List.filter_filter]
    refine List.filter_congr fun b _ => ?_
    rw [Bool.and_comm]
  rw [hfilter]
  refine (hperm.symm.filter _).trans (List.Perm.of_eq ?_)
  cases limit with
  | none => simp [keptOf]
  | some n =>
    simp only [Option.all_some, keptOf, Option.elim_some]
    rw [filter_lt_eq_take hplaces, List.take_eq_take_min]

theorem keptOf_le (limit : Option Nat) (n : Nat) : keptOf limit n ≤ n := by
  cases limit <;> simp [keptOf]

theorem keepsBest_keptPlaces (bids : List Bid) (limit : Option Nat) :
    KeepsBest bids limit (keptPlaces bids limit) where
  sublist := List.filter_sublist
  unlimited := by
    rintro rfl
    simp [keptPlaces]
  count imp := by
    obtain ⟨order, hperm, -, -, hkept⟩ := exists_arrangement_keptPlaces bids limit imp
    have hlength := hkept.length_eq
    rw [List.length_take, Nat.min_eq_left (keptOf_le _ _), hperm.length_eq, length_placedFor]
      at hlength
    rw [← hlength, List.count, List.countP_map, List.countP_eq_length_filter]
    rfl
  best a ha b hb hnot himp := by
    obtain ⟨order, hperm, hpairwise, -, hkept⟩ :=
      exists_arrangement_keptPlaces bids limit b.1.impId
    have hfirst : a ∈ order.take (keptOf limit order.length) :=
      hkept.mem_iff.1 (List.mem_filter.2 ⟨ha, by simpa using himp⟩)
    have hplaced : b ∈ order := hperm.mem_iff.2 (List.mem_filter.2 ⟨hb, by simp⟩)
    rw [← List.take_append_drop (keptOf limit order.length) order] at hplaced hpairwise
    rcases List.mem_append.1 hplaced with hb | hlast
    · exact absurd (List.mem_of_mem_filter (hkept.mem_iff.2 hb)) hnot
    · exact (List.pairwise_append.1 hpairwise).2.2 a hfirst b hlast
  positions imp := by
    obtain ⟨order, hperm, -, hplaces, hkept⟩ := exists_arrangement_keptPlaces bids limit imp
    refine (hkept.map _).trans (List.Perm.of_eq ?_)
    rw [List.map_take, hplaces, List.take_range, Nat.min_eq_left (keptOf_le _ _), hperm.length_eq,
      length_placedFor]
  arranged := exists_arrangement_keptPlaces bids limit

/-- A limit leaves the best bids for each imp, each with the number of bids for the imp that come
before it. -/
theorem cappedBids_keeps_best (bids : List Bid) (limit : Option Nat) :
    ∃ kept : List (Bid × Nat), KeepsBest bids limit kept ∧
      cappedBids bids limit = kept.map fun b => (b.1, positionOf bids b) :=
  ⟨keptPlaces bids limit, keepsBest_keptPlaces bids limit, cappedBids_eq bids limit⟩

/-- A price of 1.50 does not come before an earlier one of 1.5. -/
example : (cappedBids
    [{ id := "x", impId := "1", price := .ofNat 15 1, mediaType := .banner },
     { id := "y", impId := "1", price := .ofNat 2, mediaType := .banner },
     { id := "z", impId := "2", price := .ofNat 1, mediaType := .banner },
     { id := "x", impId := "1", price := .ofNat 150 2, mediaType := .banner }] (some 2)).map
      (fun b => (b.1.id, b.2)) = [("x", 1), ("y", 0), ("z", 0)] := by
  decide

end AdExchange
