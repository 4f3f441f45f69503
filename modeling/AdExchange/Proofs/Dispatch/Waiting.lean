import AdExchange.Proofs.Dispatch.Accounts

/-!
# How long a round waits, and which times it reports

The round waits for each partner until the latest reply to the partner's calls or its deadline,
whichever comes first, and so takes as long as the longest of these waits.  A partner that is in
time keeps all that its calls have come to; of a late one nothing counts, not even the replies that
came before its deadline.

The time that a response reports is the wait for its own partner, with one exception: the crash of
an adapter is noticed only when all partners are done, and then the time of the whole round is
reported.
-/

namespace AdExchange

namespace PartnerRound

variable {d : PartnerRound} {now i : Nat} {q : PartnerRequest}

/-! ## How long a round takes -/

/-- A round in which no adapter crashes takes as long as the longest wait for a partner.  A partner
accounts for all of its calls if none takes longer than it has time; otherwise it has no bids, and
has timed out. -/
theorem dispatch_waits (d : PartnerRound) (now : Nat)
    (hsteady : ∀ i q, d.requests[i]? = some q → ¬ d.Crashes i q) :
    (d.dispatched now).elapsed = (d.waits now).foldl max 0 ∧
    ∀ i q, d.requests[i]? = some q → ∃ r, (d.dispatched now).responses[i]? = some r ∧
      (d.longest i q ≤ q.deadline.remaining now →
        ∃ early outcomes, d.ComesTo i q early outcomes ∧ r.AccountsFor q early outcomes) ∧
      (q.deadline.remaining now < d.longest i q →
        r.bids = [] ∧ r.errors.map (fun e => (e.kind, e.message)) = [(.timeout, "Timed out")]) := by
  refine ⟨elapsed_dispatched, ?_⟩
  intro i q hq
  refine ⟨_, response_dispatched hq, ?_, ?_⟩
  · intro hin
    obtain ⟨early, outcomes, hcomes⟩ := exists_comesTo (hsteady i q hq)
    exact ⟨early, outcomes, hcomes, accountsFor_of_comesTo hcomes hin _ _⟩
  · intro hlate
    rw [response_of_late hlate]
    exact ⟨rfl, rfl⟩

/-- The partners `b` and `a` make four calls each.  The first call of `a` takes 5 milliseconds, and
the other three do not take longer than the 4 that `a` has. -/
def askTwice : PartnerRound :=
  { askOften with requests := [oneImp "b", { oneImp "a" with deadline := ⟨4⟩ }] }

theorem not_crashes_askTwice (i : Nat) (q : PartnerRequest) : ¬ askTwice.Crashes i q := by
  rintro ⟨partner, adapter, -, hadapter, hcrash⟩
  obtain rfl : fourCalls = adapter := Option.some.inj hadapter
  rcases hcrash with h | ⟨⟨call, reply⟩, -, h⟩
  · cases h
  · cases hreply : reply.value <;> simp [hreply, Adapter.outcome?, fourCalls] at h

/-- The partner `b` accounts for all of its calls, while nothing that `a` has sent counts. -/
theorem dispatch_waits_askTwice :
    (askTwice.dispatched 0).elapsed = 9 ∧
    (∃ r, (askTwice.dispatched 0).responses[0]? = some r ∧
      ∃ early outcomes, askTwice.ComesTo 0 (oneImp "b") early outcomes ∧
        r.AccountsFor (oneImp "b") early outcomes) ∧
    ∃ r, (askTwice.dispatched 0).responses[1]? = some r ∧
      r.bids = [] ∧ r.errors.map (fun e => (e.kind, e.message)) = [(.timeout, "Timed out")] := by
  obtain ⟨helapsed, hresponse⟩ :=
    dispatch_waits askTwice 0 fun i q _ => not_crashes_askTwice i q
  obtain ⟨b, hb, hin, -⟩ := hresponse 0 _ rfl
  obtain ⟨a, ha, -, hlate⟩ := hresponse 1 _ rfl
  exact ⟨helapsed, ⟨b, hb, hin (by decide)⟩, a, ha, hlate (by decide)⟩

/-! ## The times that are reported -/

def withTransport (d : PartnerRound) (transport : Transport) : PartnerRound :=
  { d with transport }

/-- The adapter of the partner crashes before its deadline. -/
def CrashesInTime (d : PartnerRound) (now i : Nat) (q : PartnerRequest) : Prop :=
  d.Crashes i q ∧ d.longest i q ≤ q.deadline.remaining now

/-- The time of the response `r` is the wait for its own partner, and no more than the partner has.
It is the same over every transport that replies to the partner's own calls alike. -/
structure TimedAlone (d : PartnerRound) (now i : Nat) (q : PartnerRequest) (r : PartnerResponse) :
    Prop where
  eq_wait : r.responseTimeMs = d.wait now i q
  le_remaining : r.responseTimeMs ≤ q.deadline.remaining now
  alone : ∀ transport, (d.withTransport transport).replies i q = d.replies i q →
    ∃ r', ((d.withTransport transport).dispatched now).responses[i]? = some r' ∧
      r'.responseTimeMs = r.responseTimeMs

/-- If the adapter does not crash before the deadline, the wait for the partner is reported. -/
theorem responseTimeMs_of_not_crashesInTime (h : ¬ d.CrashesInTime now i q) (total : Nat)
    (report : String) :
    ((d.turn now i q).response total report).responseTimeMs = d.wait now i q := by
  by_cases hin : d.longest i q ≤ q.deadline.remaining now
  · have hnot : ¬ d.Crashes i q := fun hcrash => h ⟨hcrash, hin⟩
    obtain ⟨early, outcomes, hcomes⟩ := exists_comesTo hnot
    rw [response_of_answered hin (reading_of_comesTo hcomes)]
  · rw [response_of_late (by omega)]

section OwnReplies

variable {transport : Transport}

theorem wait_withTransport (h : (d.withTransport transport).replies i q = d.replies i q) :
    (d.withTransport transport).wait now i q = d.wait now i q := by
  simp only [wait, longest, h]

theorem crashesInTime_withTransport
    (h : (d.withTransport transport).replies i q = d.replies i q) :
    (d.withTransport transport).CrashesInTime now i q ↔ d.CrashesInTime now i q := by
  simp only [CrashesInTime, Crashes, longest, h]
  exact Iff.rfl

end OwnReplies

theorem timedAlone_of_not_crashesInTime (hq : d.requests[i]? = some q)
    (h : ¬ d.CrashesInTime now i q) (total : Nat) (report : String) :
    d.TimedAlone now i q ((d.turn now i q).response total report) where
  eq_wait := responseTimeMs_of_not_crashesInTime h total report
  le_remaining := by
    rw [responseTimeMs_of_not_crashesInTime h total report]
    exact Nat.min_le_right _ _
  alone := by
    intro transport hreplies
    have hnot : ¬ (d.withTransport transport).CrashesInTime now i q :=
      mt (crashesInTime_withTransport hreplies).1 h
    refine ⟨_, response_dispatched hq, ?_⟩
    rw [responseTimeMs_of_not_crashesInTime hnot, responseTimeMs_of_not_crashesInTime h,
      wait_withTransport hreplies]

/-- The time of a response depends on its own partner alone and does not exceed the time that the
partner has, unless the partner's adapter crashes before the deadline.  Then the time is that of the
whole round, which is the wait for the partner exactly if no other wait is longer. -/
theorem dispatch_times (d : PartnerRound) (now : Nat) {i : Nat} {q : PartnerRequest}
    (hq : d.requests[i]? = some q) :
    ∃ r, (d.dispatched now).responses[i]? = some r ∧
      (¬ d.CrashesInTime now i q → d.TimedAlone now i q r) ∧
      (d.CrashesInTime now i q →
        r.responseTimeMs = (d.waits now).foldl max 0 ∧
        (r.responseTimeMs = d.wait now i q ↔ ∀ n ∈ d.waits now, n ≤ d.wait now i q)) := by
  refine ⟨_, response_dispatched hq, ?_, ?_⟩
  · intro hnot
    exact timedAlone_of_not_crashesInTime hq hnot _ _
  · rintro ⟨hcrash, hin⟩
    rw [response_of_crashed hin hcrash, elapsed_dispatched]
    refine ⟨rfl, ?_⟩
    have hown : d.wait now i q ≤ (d.waits now).foldl max 0 := by
      refine (foldl_max_le_iff.1 (Nat.le_refl _)).2 _ ?_
      refine List.mem_of_getElem? (i := i) ?_
      rw [waits, List.getElem?_mapIdx, hq]
      rfl
    constructor
    · intro h
      exact (foldl_max_le_iff.1 (Nat.le_of_eq h)).2
    · intro h
      exact Nat.le_antisymm (foldl_max_le (Nat.zero_le _) h) hown

/-- The adapter of `a`, which has 2 milliseconds, crashes, and `b` bids after 7. -/
def crashBeside : PartnerRound := askB [{ oneImp "a" with deadline := ⟨2⟩ }] "other" [7]

/-- The response of `a` reports the 7 milliseconds of `b`, while the time of `b` is its own. -/
theorem dispatch_times_crashBeside :
    crashBeside.waits 0 = [0, 7] ∧
    (∃ r, (crashBeside.dispatched 0).responses[0]? = some r ∧ r.responseTimeMs = 7) ∧
    ∃ r, (crashBeside.dispatched 0).responses[1]? = some r ∧
      crashBeside.TimedAlone 0 1 (oneImp "b") r := by
  obtain ⟨a, ha, -, hcrash⟩ := dispatch_times crashBeside 0 (i := 0) rfl
  obtain ⟨b, hb, halone, -⟩ := dispatch_times crashBeside 0 (i := 1) rfl
  have hin : crashBeside.CrashesInTime 0 0 { oneImp "a" with deadline := ⟨2⟩ } :=
    ⟨⟨_, _, rfl, rfl, .inl rfl⟩, by decide⟩
  have hnot : ¬ crashBeside.CrashesInTime 0 1 (oneImp "b") := by
    rintro ⟨hcrashes, -⟩
    cases reading_eq_crashed_iff.2 hcrashes
  exact ⟨rfl, ⟨a, ha, (hcrash hin).1⟩, b, hb, halone hnot⟩

end PartnerRound

end AdExchange
