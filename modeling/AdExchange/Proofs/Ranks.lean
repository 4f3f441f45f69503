import AdExchange.Proofs.Decimal.Value
import AdExchange.Proofs.Seats
import Mathlib.Algebra.BigOperators.Group.Finset.Basic
import Mathlib.Data.List.Count
import Mathlib.Tactic.Linarith

/-!
# Ranks and limits

The rank of a bid is the number of bids for the same imp that are better.  Of two different bids
one is better, so the bids for an imp have the ranks from zero on, each once.  Where a limit leaves
only the ranks below it, as many bids are left as the limit says, or all if there are fewer.
-/

namespace AdExchange

/-! ## Ranks in a list -/

section Ranks

variable {α : Type} {better : α → α → Bool} {l : List α} {a b : α}

/-- How many items of a list are better than an item. -/
def rankIn (better : α → α → Bool) (l : List α) (b : α) : Nat := l.countP (better · b)

/-- No item is there twice, and of two different ones one is better. -/
structure Ranked (better : α → α → Bool) (l : List α) : Prop where
  nodup : l.Nodup
  irrefl : ∀ a ∈ l, better a a = false
  trans : ∀ a ∈ l, ∀ b ∈ l, ∀ c ∈ l, better a b → better b c → better a c
  total : ∀ a ∈ l, ∀ b ∈ l, a ≠ b → better a b ∨ better b a

namespace Ranked

/-- Whatever is better than the better one of two items is better than the other one. -/
theorem rankIn_lt (h : Ranked better l) (ha : a ∈ l) (hb : b ∈ l) (hab : better a b) :
    rankIn better l a < rankIn better l b := by
  have hsub : l.filter (better · a) = (l.filter (better · b)).filter (better · a) := by
    rw [List.filter_filter]
    refine List.filter_congr fun c hc => ?_
    cases hca : better c a with
    | false => rfl
    | true => simp [h.trans c hc a ha b hb hca hab]
  -- `a` itself is counted for `b` but not for `a`, so the count for `b` is greater.
  have hmem : a ∈ l.filter (better · b) := List.mem_filter.2 ⟨ha, hab⟩
  rw [rankIn, rankIn, List.countP_eq_length_filter, List.countP_eq_length_filter, hsub,
    ← List.countP_eq_length_filter]
  exact List.countP_lt_length_iff.2 ⟨a, hmem, h.irrefl a ha⟩

theorem rankIn_lt_length (h : Ranked better l) (hb : b ∈ l) : rankIn better l b < l.length :=
  List.countP_lt_length_iff.2 ⟨b, hb, h.irrefl b hb⟩

theorem nodup_ranks (h : Ranked better l) : (l.map (rankIn better l)).Nodup := by
  refine (List.nodup_map_iff_inj_on h.nodup).2 ?_
  intro a ha b hb hrank
  by_contra hne
  rcases h.total a ha b hb hne with hab | hba
  · have hlt := h.rankIn_lt ha hb hab
    omega
  · have hlt := h.rankIn_lt hb ha hba
    omega

/-- The ranks are those from zero on, each once. -/
theorem perm_ranks (h : Ranked better l) :
    (l.map (rankIn better l)).Perm (List.range l.length) := by
  have hsub : l.map (rankIn better l) ⊆ List.range l.length := by
    intro n hn
    obtain ⟨b, hb, rfl⟩ := List.mem_map.1 hn
    exact List.mem_range.2 (h.rankIn_lt_length hb)
  exact (h.nodup_ranks.subperm hsub).perm_of_length_le (by simp)

end Ranked

theorem countP_lt_range (n len : Nat) : (List.range len).countP (· < n) = min n len := by
  induction len with
  | zero => simp
  | succ len ih =>
    rw [List.range_succ, List.countP_append, ih, List.countP_singleton]
    by_cases h : len < n
    · simp only [h, decide_true, if_true]
      omega
    · simp only [h, decide_false, Bool.false_eq_true, if_false]
      omega

/-- As many items as a limit says have a rank below it, or all if there are fewer. -/
theorem Ranked.countP_rankIn_lt (h : Ranked better l) (n : Nat) :
    l.countP (fun b => rankIn better l b < n) = min n l.length := by
  have hmap : l.countP (fun b => rankIn better l b < n) =
      (l.map (rankIn better l)).countP (· < n) := by
    rw [List.countP_map]
    rfl
  rw [hmap, h.perm_ranks.countP_eq, countP_lt_range]

end Ranks

/-! ## Ranks among the bids for an imp -/

theorem outranks_iff {a b : Bid × Nat} :
    outranks a b ↔ b.1.price.value < a.1.price.value ∨
      (a.1.price.value = b.1.price.value ∧ a.2 < b.2) := by
  rw [outranks, Bool.or_eq_true, Bool.and_eq_true, Bool.and_eq_true, decide_eq_true_eq,
    decide_eq_true_eq, decide_eq_true_eq, decide_eq_true_eq, Decimal.lt_iff_value_lt,
    Decimal.le_iff_value_le, Decimal.le_iff_value_le, ← le_antisymm_iff, eq_comm]

/-- The bids for an imp, with their places. -/
def placedFor (bids : List Bid) (imp : String) : List (Bid × Nat) :=
  bids.zipIdx.filter fun b => b.1.impId == imp

theorem length_placedFor (bids : List Bid) (imp : String) :
    (placedFor bids imp).length = (bids.map (·.impId)).count imp := by
  have hzip : (bids.zipIdx.map Prod.fst).countP (·.impId == imp) =
      bids.countP (·.impId == imp) := by rw [List.zipIdx_map_fst]
  rw [placedFor, ← List.countP_eq_length_filter, List.count, List.countP_map]
  rw [List.countP_map] at hzip
  exact hzip

theorem nodup_snd_zipIdx (bids : List Bid) : (bids.zipIdx.map (·.2)).Nodup := by
  rw [List.zipIdx_map_snd]
  exact List.nodup_range'

/-- Of two different bids one has the higher price, or the earlier place. -/
theorem ranked_placedFor (bids : List Bid) (imp : String) :
    Ranked outranks (placedFor bids imp) where
  nodup := (nodup_snd_zipIdx bids).of_map.filter _
  irrefl a _ := by
    have h : ¬ outranks a a := by simp [outranks_iff]
    simpa using h
  trans a _ b _ c _ hab hbc := by
    rw [outranks_iff] at hab hbc ⊢
    rcases hab with hab | ⟨hab, habIdx⟩ <;> rcases hbc with hbc | ⟨hbc, hbcIdx⟩
    · exact .inl (hbc.trans hab)
    · exact .inl (hbc ▸ hab)
    · exact .inl (hab ▸ hbc)
    · exact .inr ⟨hab.trans hbc, habIdx.trans hbcIdx⟩
  total a ha b hb hne := by
    have hplace : a.2 ≠ b.2 := by
      intro heq
      refine hne (List.inj_on_of_nodup_map (nodup_snd_zipIdx bids) ?_ ?_ heq)
      · exact List.mem_of_mem_filter ha
      · exact List.mem_of_mem_filter hb
    rw [outranks_iff, outranks_iff]
    rcases lt_trichotomy a.1.price.value b.1.price.value with hlt | heq | hgt
    · exact .inr (.inl hlt)
    · rcases Nat.lt_or_gt_of_ne hplace with h | h
      · exact .inl (.inr ⟨heq, h⟩)
      · exact .inr (.inr ⟨heq.symm, h⟩)
    · exact .inl (.inl hgt)

theorem rankWithinImp_eq (bids : List Bid) (b : Bid × Nat) :
    rankWithinImp bids.zipIdx b = rankIn outranks (placedFor bids b.1.impId) b := by
  rw [rankWithinImp, rankIn, placedFor, List.countP_filter, ← List.countP_eq_length_filter]
  refine List.countP_congr fun a _ => ?_
  rw [Bool.and_comm]

/-! ## Limits -/

/-- For each imp the bids that a limit does not leave. -/
def beyondLimit (limit : Option Nat) (bids : List Bid) : Nat :=
  match limit with
  | none => 0
  | some n => ∑ imp ∈ (bids.map (·.impId)).toFinset, ((bids.map (·.impId)).count imp - n)

/-- A limit leaves for each imp as many bids as it says, or all if there are fewer. -/
theorem count_cappedBids (bids : List Bid) (n : Nat) (imp : String) :
    ((cappedBids bids (some n)).map (·.1.impId)).count imp =
      min n ((bids.map (·.impId)).count imp) := by
  have hranks : (placedFor bids imp).countP
        (fun b => rankIn outranks (placedFor bids imp) b < n) =
      bids.zipIdx.countP fun b =>
        decide (rankIn outranks (placedFor bids imp) b < n) && b.1.impId == imp :=
    List.countP_filter
  rw [← length_placedFor, ← (ranked_placedFor bids imp).countP_rankIn_lt n, hranks, List.count,
    cappedBids, List.countP_map, List.countP_filter, List.countP_map]
  refine List.countP_congr fun b _ => ?_
  by_cases himp : b.1.impId = imp
  · simp [himp, rankWithinImp_eq]
  · simp [himp]

/-- The bids that a limit leaves and those beyond it are all bids. -/
theorem length_cappedBids (bids : List Bid) (limit : Option Nat) :
    (cappedBids bids limit).length + beyondLimit limit bids = bids.length := by
  cases limit with
  | none => simp [cappedBids, beyondLimit]
  | some n =>
    -- Both sides are counted imp by imp, over the imps of all bids.
    have himps : ∀ l : List Bid, l ⊆ bids → ∑ imp ∈ (bids.map (·.impId)).toFinset,
        (l.map (·.impId)).count imp = l.length := by
      intro l hl
      have hmem : ∀ imp ∈ (l.map (·.impId) : Multiset String),
          imp ∈ (bids.map (·.impId)).toFinset := by
        intro imp himp
        exact List.mem_toFinset.2 (List.map_subset _ hl himp)
      simpa using Multiset.sum_count_eq_card hmem
    have hlisted := himps ((cappedBids bids (some n)).map (·.1))
      (map_cappedBids_sublist bids (some n)).subset
    have hall := himps bids (List.Subset.refl _)
    rw [beyondLimit, ← List.length_map (f := Prod.fst), ← hlisted, ← hall,
      ← Finset.sum_add_distrib]
    refine Finset.sum_congr rfl fun imp _ => ?_
    have hcount := count_cappedBids bids n imp
    rw [List.map_map]
    simp only [Function.comp_def] at hcount ⊢
    omega

end AdExchange
