import Mathlib.Data.List.Nodup
import Mathlib.Data.List.Pairwise

/-!
# Lists in the order of a number

Where the items of a list are numbered in ascending order, an item is known by its number, and
part of the list that has got out of order is put right by sorting.  No item is there twice, and a
sorted list becomes such a list once its repetitions are left out.
-/

namespace AdExchange

/-- What holds of the items of a list pair by pair holds without the repetitions, and then of
different items only. -/
theorem pairwise_eraseDups {α : Type} [BEq α] [LawfulBEq α] {R : α → α → Prop} {l : List α}
    (h : l.Pairwise R) : l.eraseDups.Pairwise fun a b => a ≠ b ∧ R a b := by
  match l with
  | [] => exact .nil
  | a :: l =>
    have hlt : (l.filter fun b => !b == a).length < (a :: l).length :=
      Nat.lt_succ_of_le (List.length_filter_le _ l)
    obtain ⟨hfirst, hrest⟩ := List.pairwise_cons.1 h
    rw [List.eraseDups_cons, List.pairwise_cons]
    refine ⟨?_, pairwise_eraseDups (hrest.filter _)⟩
    intro b hb
    obtain ⟨hmem, hne⟩ := List.mem_filter.1 (List.mem_eraseDups.1 hb)
    refine ⟨?_, hfirst b hmem⟩
    rintro rfl
    simp at hne
termination_by l.length
decreasing_by exact hlt

theorem nodup_eraseDups {α : Type} [BEq α] [LawfulBEq α] (l : List α) : l.eraseDups.Nodup :=
  (pairwise_eraseDups (List.pairwise_of_forall fun _ _ => trivial)).imp And.left

variable {α β : Type} {f : α → Nat} {l s t : List α} {a b : α}

/-- The numbers that `f` gives to the items are ascending. -/
def Ascending (f : α → Nat) (l : List α) : Prop := l.Pairwise fun a b => f a < f b

namespace Ascending

theorem nodup (h : Ascending f l) : l.Nodup := by
  refine List.Pairwise.imp ?_ h
  rintro a _ hlt rfl
  exact Nat.lt_irrefl _ hlt

theorem filter (p : α → Bool) (h : Ascending f l) : Ascending f (l.filter p) :=
  List.Pairwise.filter p h

theorem eq_of_eq (h : Ascending f l) (ha : a ∈ l) (hb : b ∈ l) (heq : f a = f b) : a = b := by
  have hp : l.Pairwise fun a b => f a = f b → a = b := by
    refine List.Pairwise.imp ?_ h
    intro a b hlt heq
    exact absurd heq (Nat.ne_of_lt hlt)
  have : Std.Symm fun a b => f a = f b → a = b := ⟨fun _ _ hab heq => (hab heq.symm).symm⟩
  exact hp.forall_of_forall (fun _ _ _ => rfl) ha hb heq

/-- Items that a function makes out of some of the items, without changing their numbers. -/
theorem filterMap {g : β → Nat} {k : α → Option β} (h : Ascending f l)
    (hk : ∀ a ∈ l, ∀ b, k a = some b → g b = f a) : Ascending g (l.filterMap k) := by
  refine List.pairwise_filterMap.2 (List.Pairwise.imp_of_mem ?_ h)
  intro a a' ha ha' hlt b hb b' hb'
  rw [hk a ha b hb, hk a' ha' b' hb']
  exact hlt

/-- A list of the same items is the same list once it is sorted. -/
theorem eq_of_perm (h : Ascending f l) (hs : s.Pairwise fun a b => f a ≤ f b) (hp : s.Perm l) :
    s = l := by
  refine hp.eq_of_pairwise ?_ hs (h.imp Nat.le_of_lt)
  intro a b ha hb hab hba
  exact h.eq_of_eq (hp.subset ha) hb (Nat.le_antisymm hab hba)

/-- An ascending list is known by its items. -/
theorem eq_of_mem_iff (h : Ascending f l) (hs : Ascending f s) (hmem : ∀ a, a ∈ s ↔ a ∈ l) :
    s = l :=
  h.eq_of_perm (hs.imp Nat.le_of_lt) ((List.perm_ext_iff_of_nodup hs.nodup h.nodup).2 hmem)

/-- The first item of a kind is the least one of the kind. -/
theorem le_of_find? {p : α → Bool} (h : Ascending f l) (ha : l.find? p = some a) (hb : b ∈ l)
    (hp : p b) : f a ≤ f b := by
  obtain ⟨-, before, after, rfl, hbefore⟩ := List.find?_eq_some_iff_append.1 ha
  rcases List.mem_append.1 hb with hb | hb
  · have hnot := hbefore b hb
    simp [hp] at hnot
  · rcases List.mem_cons.1 hb with rfl | hb
    · exact Nat.le_refl _
    · have hafter := List.pairwise_cons.1 (List.pairwise_append.1 h).2.1
      exact Nat.le_of_lt (hafter.1 b hb)

/-- The last item is the greatest one. -/
theorem le_of_getLast? (h : Ascending f l) (ha : l.getLast? = some a) (hb : b ∈ l) :
    f b ≤ f a := by
  obtain ⟨before, rfl⟩ := List.getLast?_eq_some_iff.1 ha
  rcases List.mem_append.1 hb with hb | hb
  · exact Nat.le_of_lt ((List.pairwise_append.1 h).2.2 b hb a (List.mem_singleton_self a))
  · exact Nat.le_of_eq (congrArg f (List.mem_singleton.1 hb))

/-- Part of a list, once it is sorted again, is got by leaving out the other items. -/
theorem eq_filter [DecidableEq α] (h : Ascending f l) (hp : (s ++ t).Perm l)
    (hs : s.Pairwise fun a b => f a ≤ f b) : s = l.filter (· ∈ s) := by
  have hmem : ∀ a ∈ s, a ∈ l := fun a ha => hp.subset (List.mem_append_left _ ha)
  have hnodup : s.Nodup := (List.nodup_append.1 (hp.nodup_iff.2 h.nodup)).1
  have hperm : s.Perm (l.filter (· ∈ s)) := by
    rw [List.perm_ext_iff_of_nodup hnodup (h.nodup.filter _)]
    intro a
    simp only [List.mem_filter, decide_eq_true_eq]
    exact ⟨fun ha => ⟨hmem a ha, ha⟩, And.right⟩
  exact (h.filter _).eq_of_perm hs hperm

end Ascending

end AdExchange
