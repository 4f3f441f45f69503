import AdExchange.Category.Mapping
import AdExchange.Proofs.Ascending

/-!
# Who wins a contest

Bids compete one after the other, and each takes the place of the winner of its group or loses to
it.  What comes of it is said without the order of the single steps: a bid wins exactly if it is
the last one among the longest of its group, and all others lose.
-/

namespace AdExchange

namespace Contender

def position (c : Contender) : Nat := c.candidate.position

/-- It is longer than the other one, or as long and not before it. -/
def Outlasts (c d : Contender) : Prop :=
  d.candidate.duration < c.candidate.duration ∨
    d.candidate.duration = c.candidate.duration ∧ d.position ≤ c.position

instance (c d : Contender) : Decidable (c.Outlasts d) := inferInstanceAs (Decidable (_ ∨ _))

/-- Of the contenders of its group it is the last one among the longest. -/
def Wins (withCategory : Bool) (all : List Contender) (c : Contender) : Prop :=
  c ∈ all ∧ ∀ d ∈ all, d.groupingKey withCategory = c.groupingKey withCategory → c.Outlasts d

instance (withCategory : Bool) (all : List Contender) (c : Contender) :
    Decidable (Wins withCategory all c) :=
  inferInstanceAs (Decidable (_ ∧ _))

theorem Outlasts.refl (c : Contender) : c.Outlasts c := .inr ⟨rfl, Nat.le_refl _⟩

theorem Outlasts.trans {c d e : Contender} (hcd : c.Outlasts d) (hde : d.Outlasts e) :
    c.Outlasts e := by
  rw [Outlasts] at *
  rw [UInt32.lt_iff_toNat_lt, ← UInt32.toNat_inj] at *
  omega

theorem Outlasts.position_eq {c d : Contender} (hcd : c.Outlasts d) (hdc : d.Outlasts c) :
    c.position = d.position := by
  rw [Outlasts] at *
  rw [UInt32.lt_iff_toNat_lt, ← UInt32.toNat_inj] at *
  omega

/-- Of two contenders one outlasts the other, the later one if they are equally long. -/
theorem outlasts_of_le {c d : Contender} (hd : d.candidate.duration ≤ c.candidate.duration)
    (hpos : d.position ≤ c.position) : c.Outlasts d := by
  rw [Outlasts]
  rw [UInt32.le_iff_toNat_le] at hd
  rw [UInt32.lt_iff_toNat_lt, ← UInt32.toNat_inj]
  omega

theorem outlasts_of_not_le {c d : Contender}
    (hd : ¬ c.candidate.duration ≤ d.candidate.duration) : c.Outlasts d :=
  .inl (UInt32.not_le.1 hd)

end Contender

/-- What one more contender does: it opens a group, or it meets the winner of its group and takes
its place, or loses to it. -/
theorem contend_cases (withCategory : Bool) (current : Contender) (winners : List Contender) :
    ((∀ w ∈ winners, w.groupingKey withCategory ≠ current.groupingKey withCategory) ∧
      contend withCategory current winners = (winners ++ [current], none)) ∨
    ∃ before w after, winners = before ++ w :: after ∧
      w.groupingKey withCategory = current.groupingKey withCategory ∧
      contend withCategory current winners =
        if w.candidate.duration ≤ current.candidate.duration then
          (before ++ current :: after, some w)
        else (winners, some current) := by
  induction winners with
  | nil => exact .inl ⟨by simp, rfl⟩
  | cons incumbent rest ih =>
    rw [contend]
    by_cases hkey : incumbent.groupingKey withCategory = current.groupingKey withCategory
    · exact .inr ⟨[], incumbent, rest, rfl, hkey, by simp [hkey]⟩
    · rw [if_neg hkey]
      rcases ih with ⟨hno, heq⟩ | ⟨before, w, after, rfl, hw, heq⟩
      · refine .inl ⟨?_, by rw [heq]; rfl⟩
        intro w hw
        rcases List.mem_cons.1 hw with rfl | hw
        · exact hkey
        · exact hno w hw
      · refine .inr ⟨incumbent :: before, w, after, rfl, hw, ?_⟩
        rw [heq]
        by_cases hle : w.candidate.duration ≤ current.candidate.duration
        · rw [if_pos hle, if_pos hle]
          rfl
        · rw [if_neg hle, if_neg hle]

namespace Contest

/-- The contest has found the winners of these contenders: no one is lost, no two winners are of
one group, and each contender is outlasted by a winner of its group. -/
structure Settled (withCategory : Bool) (all : List Contender) (k : Contest) : Prop where
  perm : (k.losers ++ k.winners).Perm all
  keys_nodup : (k.winners.map (Contender.groupingKey withCategory)).Nodup
  outlasted : ∀ d ∈ all, ∃ w ∈ k.winners,
    w.groupingKey withCategory = d.groupingKey withCategory ∧ w.Outlasts d

variable {withCategory : Bool} {all : List Contender} {k : Contest} {c d w : Contender}

theorem settled_nil : Settled withCategory [] {} where
  perm := .refl _
  keys_nodup := List.nodup_nil
  outlasted := by simp

/-- A contender of a group of its own wins. -/
theorem Settled.opens {winners losers : List Contender}
    (h : Settled withCategory all ⟨winners, losers⟩)
    (hno : ∀ w ∈ winners, w.groupingKey withCategory ≠ c.groupingKey withCategory) :
    Settled withCategory (all ++ [c]) ⟨winners ++ [c], losers⟩ := by
  obtain ⟨hperm, hkeys, hout⟩ := h
  refine ⟨?_, ?_, ?_⟩
  · simpa using hperm.append_right [c]
  · rw [List.map_append, List.nodup_append]
    refine ⟨hkeys, by simp, ?_⟩
    intro key hkey key' hkey'
    obtain ⟨w, hw, rfl⟩ := List.mem_map.1 hkey
    obtain rfl := List.mem_singleton.1 hkey'
    exact hno w hw
  · simp only [List.forall_mem_append, List.forall_mem_singleton]
    refine ⟨?_, c, by simp, rfl, .refl c⟩
    intro d hd
    obtain ⟨w, hw, hkey, hwd⟩ := hout d hd
    exact ⟨w, List.mem_append_left _ hw, hkey, hwd⟩

/-- A contender takes the place of the winner of its group if it outlasts that one. -/
theorem Settled.displaces {before after losers : List Contender}
    (h : Settled withCategory all ⟨before ++ w :: after, losers⟩)
    (hw : w.groupingKey withCategory = c.groupingKey withCategory) (hcw : c.Outlasts w) :
    Settled withCategory (all ++ [c]) ⟨before ++ c :: after, losers ++ [w]⟩ := by
  obtain ⟨hperm, hkeys, hout⟩ := h
  refine ⟨?_, ?_, ?_⟩
  · refine List.Perm.trans ?_ (hperm.append_right [c])
    rw [List.perm_iff_count]
    intro x
    simp only [List.count_append, List.count_cons, List.count_nil]
    omega
  · simpa [hw] using hkeys
  · simp only [List.forall_mem_append, List.forall_mem_singleton]
    refine ⟨?_, c, by simp, rfl, .refl c⟩
    intro d hd
    obtain ⟨v, hv, hkey, hvd⟩ := hout d hd
    by_cases hvw : v = w
    · subst hvw
      exact ⟨c, by simp, hw.symm.trans hkey, hcw.trans hvd⟩
    · refine ⟨v, ?_, hkey, hvd⟩
      simp only [List.mem_append, List.mem_cons, hvw, false_or] at hv
      simp only [List.mem_append, List.mem_cons]
      exact hv.imp id .inr

/-- A contender loses to a winner of its group that outlasts it. -/
theorem Settled.loses {winners losers : List Contender}
    (h : Settled withCategory all ⟨winners, losers⟩) (hmem : w ∈ winners)
    (hw : w.groupingKey withCategory = c.groupingKey withCategory) (hwc : w.Outlasts c) :
    Settled withCategory (all ++ [c]) ⟨winners, losers ++ [c]⟩ := by
  obtain ⟨hperm, hkeys, hout⟩ := h
  refine ⟨?_, hkeys, ?_⟩
  · refine List.Perm.trans ?_ (hperm.append_right [c])
    rw [List.perm_iff_count]
    intro x
    simp only [List.count_append]
    omega
  · simp only [List.forall_mem_append, List.forall_mem_singleton]
    exact ⟨hout, w, hmem, hw, hwc⟩

/-- One more contender leaves the contest settled if it comes after all others. -/
theorem Settled.add (h : Settled withCategory all k)
    (hlast : ∀ d ∈ all, d.position < c.position) :
    Settled withCategory (all ++ [c]) (k.add withCategory c) := by
  obtain ⟨winners, losers⟩ := k
  rw [Contest.add]
  rcases contend_cases withCategory c winners with ⟨hno, heq⟩ | ⟨before, w, after, rfl, hw, heq⟩
  · rw [heq]
    simpa using h.opens hno
  · have hwall : w ∈ all := h.perm.subset (by simp)
    rw [heq]
    by_cases hle : w.candidate.duration ≤ c.candidate.duration
    · rw [if_pos hle]
      exact h.displaces hw (Contender.outlasts_of_le hle (Nat.le_of_lt (hlast w hwall)))
    · rw [if_neg hle]
      exact h.loses (by simp) hw (Contender.outlasts_of_not_le hle)

/-- A contest finds the winners of contenders that come in the order of their positions. -/
theorem settled_of
    (hall : Ascending Contender.position all) :
    Settled withCategory all (Contest.of withCategory all) := by
  -- `done` has competed and left the contest settled; `rest` is to come, and comes after it.
  have run : ∀ (rest done : List Contender) (k : Contest),
      Ascending Contender.position (done ++ rest) →
      Settled withCategory done k →
      Settled withCategory (done ++ rest) (rest.foldl (Contest.add withCategory) k) := by
    intro rest
    induction rest with
    | nil =>
      intro done k _ hk
      simpa using hk
    | cons c rest ih =>
      intro done k hpos hk
      have hlast := (List.pairwise_append.1 hpos).2.2
      rw [List.foldl_cons, List.append_cons]
      rw [List.append_cons] at hpos
      exact ih (done ++ [c]) _ hpos (hk.add fun d hd => hlast d hd c (by simp))
  exact run all [] {} hall settled_nil

/-- Of each group there is one winner at most. -/
theorem Settled.winner_unique (h : Settled withCategory all k) (hc : c ∈ k.winners)
    (hd : d ∈ k.winners) (hkey : c.groupingKey withCategory = d.groupingKey withCategory) :
    c = d :=
  List.inj_on_of_nodup_map h.keys_nodup hc hd hkey

/-- The winners are those that are the last among the longest of their groups. -/
theorem Settled.mem_winners_iff (h : Settled withCategory all k)
    (hall : Ascending Contender.position all) :
    c ∈ k.winners ↔ c.Wins withCategory all := by
  have hsub : ∀ w ∈ k.winners, w ∈ all := fun w hw => h.perm.subset (List.mem_append_right _ hw)
  constructor
  · intro hc
    refine ⟨hsub c hc, ?_⟩
    intro d hd hkey
    obtain ⟨w, hw, hwkey, hwd⟩ := h.outlasted d hd
    rwa [h.winner_unique hc hw (hkey.symm.trans hwkey.symm)]
  · rintro ⟨hc, hbest⟩
    obtain ⟨w, hw, hkey, hwc⟩ := h.outlasted c hc
    have hpos := hwc.position_eq (hbest w (hsub w hw) hkey)
    rwa [← hall.eq_of_eq (hsub w hw) hc hpos]

/-- Those that do not win lose. -/
theorem Settled.mem_losers_iff (h : Settled withCategory all k)
    (hall : Ascending Contender.position all) :
    c ∈ k.losers ↔ c ∈ all ∧ ¬ c.Wins withCategory all := by
  have hnodup : (k.losers ++ k.winners).Nodup :=
    h.perm.nodup_iff.2 hall.nodup
  rw [← h.mem_winners_iff hall, ← h.perm.mem_iff, List.mem_append]
  constructor
  · intro hc
    exact ⟨.inl hc, fun hw => List.disjoint_of_nodup_append hnodup hc hw⟩
  · rintro ⟨hc | hc, hnot⟩
    · exact hc
    · exact absurd hc hnot

/-- Each group has exactly one winner. -/
theorem Settled.existsUnique_wins (h : Settled withCategory all k)
    (hall : Ascending Contender.position all) (hd : d ∈ all) :
    ∃! w : Contender, w.groupingKey withCategory = d.groupingKey withCategory ∧
      w.Wins withCategory all := by
  obtain ⟨w, hw, hkey, -⟩ := h.outlasted d hd
  refine ⟨w, ⟨hkey, (h.mem_winners_iff hall).1 hw⟩, ?_⟩
  rintro v ⟨hvkey, hv⟩
  exact h.winner_unique ((h.mem_winners_iff hall).2 hv) hw (hvkey.trans hkey.symm)

end Contest

end AdExchange
