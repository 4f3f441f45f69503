import AdExchange.Proofs.Dispatch.Endings
import AdExchange.Proofs.Dispatch.Isolation
import AdExchange.Proofs.Dispatch.Validation

/-!
# A partner's response accounts for all of its calls

Each call to a partner comes to bids or to one error, whether the transport fails or the reply
cannot be read.  What one call comes to does not hide what the others come to, and each bid that
is dropped is reported once.
-/

namespace AdExchange

/-! ## Bids that do not count -/

/-- A bid that does not count: it has no id or names no imp, or its imp is none of the request, or
its price is negative, as a zero with a minus sign is. -/
def Bid.Invalid (request : BidRequest) (bid : Bid) : Prop :=
  bid.id = "" ∨ bid.impId = "" ∨ (∀ imp ∈ request.imps, imp.id ≠ bid.impId) ∨
    bid.price.negative = true

instance (request : BidRequest) (bid : Bid) : Decidable (bid.Invalid request) :=
  inferInstanceAs (Decidable (_ ∨ _ ∨ _ ∨ _))

namespace Bid

variable {request : BidRequest} {bid : Bid}

theorem invalid_iff_defect? : bid.Invalid request ↔ (bid.defect? request).isSome := by
  rw [Option.isSome_iff_ne_none, ne_eq, defect?_eq_none_iff, Answers, Invalid]
  have himp : (∀ imp ∈ request.imps, imp.id ≠ bid.impId) ↔
      ¬ ∃ imp ∈ request.imps, imp.id = bid.impId := by simp
  rw [himp, ← Bool.not_eq_true]
  generalize (∃ imp ∈ request.imps, imp.id = bid.impId) = named
  tauto

/-- All defects are of the same kind. -/
theorem kind_of_defect? {e : PartnerError} (h : bid.defect? request = some e) :
    e.kind = .generic := by
  rw [defect?] at h
  split_ifs at h <;> cases h <;> rfl

end Bid

section Validation

variable {request : BidRequest} {bids : List Bid}

/-- The valid bids are kept. -/
theorem validateBids_fst :
    (validateBids request bids).1 = bids.filter fun b => ¬ b.Invalid request := by
  refine List.filter_congr fun b _ => ?_
  have h := @Bid.invalid_iff_defect? request b
  cases hdefect : b.defect? request <;> simp [h, hdefect]

/-- Each invalid bid is reported by one generic error, in the order of the bids. -/
theorem forall₂_validateBids :
    List.Forall₂ (fun bid e => bid.defect? request = some e ∧ e.kind = .generic)
      (bids.filter (·.Invalid request)) (validateBids request bids).2 := by
  have hinvalid : bids.filter (·.Invalid request) =
      bids.filter fun b => (b.defect? request).isSome := by
    refine List.filter_congr fun b _ => ?_
    simp only [Bid.invalid_iff_defect?, Bool.decide_eq_true]
  rw [hinvalid]
  exact (forall₂_filterMap (Bid.defect? request) bids).imp
    fun _ _ h => ⟨h, Bid.kind_of_defect? h⟩

/-- A validation changes nothing exactly if all bids are valid. -/
theorem validateBids_eq_self_iff :
    validateBids request bids = (bids, []) ↔ ∀ bid ∈ bids, ¬ bid.Invalid request := by
  constructor
  · intro h bid hbid
    have hkept : bids.filter (fun b => ¬ b.Invalid request) = bids := by
      rw [← validateBids_fst, h]
    simpa using List.filter_eq_self.1 hkept bid hbid
  · intro h
    have hnone : bids.filterMap (Bid.defect? request) = [] := by
      refine List.filterMap_eq_nil_iff.2 fun bid hbid => ?_
      simpa [Bid.invalid_iff_defect?] using h bid hbid
    have hkept : (validateBids request bids).1 = bids := by
      rw [validateBids_fst]
      exact List.filter_eq_self.2 fun bid hbid => by simpa using h bid hbid
    exact Prod.ext hkept hnone

end Validation

/-! ## The calls to one partner -/

/-- A response has the valid bids of all calls, in the order of the calls.  Its errors are those
from before the calls, then one for each call that has failed, and then one for each invalid bid. -/
structure PartnerResponse.AccountsFor (q : PartnerRequest) (early : List PartnerError)
    (outcomes : List (Except PartnerError (List Bid))) (r : PartnerResponse) : Prop where
  bids : r.bids = (successes outcomes).flatten.filter fun b => ¬ b.Invalid q.request
  errors : ∃ complaints, r.errors = early ++ failures outcomes ++ complaints ∧
    List.Forall₂ (fun bid e => bid.defect? q.request = some e ∧ e.kind = .generic)
      ((successes outcomes).flatten.filter (·.Invalid q.request)) complaints

namespace PartnerRound

/-- What asking the partner at the place `i` comes to if its adapter does not crash: the errors
from before the calls, and the outcome of each call. -/
inductive ComesTo (d : PartnerRound) (i : Nat) (q : PartnerRequest) :
    List PartnerError → List (Except PartnerError (List Bid)) → Prop
  | notConfigured (hpartner : d.catalog.get? q.code = none) :
    ComesTo d i q [.notConfigured q.code] []
  | noAdapter {partner : Partner} (hpartner : d.catalog.get? q.code = some partner)
    (hadapter : d.adapters partner.adapter = none) :
    ComesTo d i q [.noAdapter partner.adapter] []
  | called {partner : Partner} {adapter : Adapter} {plan : CallPlan}
    {outcomes : List (Except PartnerError (List Bid))}
    (hpartner : d.catalog.get? q.code = some partner)
    (hadapter : d.adapters partner.adapter = some adapter)
    (hplan : adapter.makeCalls q partner = some plan)
    (houtcomes : List.Forall₂ (fun r outcome => adapter.outcome? q r.1 r.2.value = some outcome)
      (d.replies i q) outcomes) :
    ComesTo d i q plan.errors outcomes

variable {d : PartnerRound} {now i : Nat} {q : PartnerRequest}

/-- The calls that are replied to are those that the adapter makes. -/
theorem map_fst_replies {partner : Partner} {adapter : Adapter} {plan : CallPlan}
    (hpartner : d.catalog.get? q.code = some partner)
    (hadapter : d.adapters partner.adapter = some adapter)
    (hplan : adapter.makeCalls q partner = some plan) :
    (d.replies i q).map (·.1) = plan.calls := by
  have hcalls : d.callsTo q = plan.calls := by
    simp [callsTo, Preparation.of, hpartner, hadapter, hplan, Preparation.calls]
  rw [replies, hcalls, Transport.map_fst_send]

theorem exists_comesTo (h : ¬ d.Crashes i q) : ∃ early outcomes, d.ComesTo i q early outcomes := by
  cases hpartner : d.catalog.get? q.code with
  | none => exact ⟨_, _, .notConfigured hpartner⟩
  | some partner =>
    cases hadapter : d.adapters partner.adapter with
    | none => exact ⟨_, _, .noAdapter hpartner hadapter⟩
    | some adapter =>
      cases hplan : adapter.makeCalls q partner with
      | none => exact absurd ⟨partner, adapter, hpartner, hadapter, .inl hplan⟩ h
      | some plan =>
        cases hread : (d.replies i q).mapM fun r => adapter.outcome? q r.1 r.2.value with
        | none =>
          have hcrash := mapM_eq_none_iff.1 hread
          exact absurd ⟨partner, adapter, hpartner, hadapter, .inr hcrash⟩ h
        | some outcomes =>
          exact ⟨_, _, .called hpartner hadapter hplan (mapM_eq_some_iff.1 hread)⟩

/-- What is read of the replies is what the calls come to, without the invalid bids. -/
theorem reading_of_comesTo {early : List PartnerError}
    {outcomes : List (Except PartnerError (List Bid))} (h : d.ComesTo i q early outcomes) :
    d.reading i q = .answered (validateBids q.request (successes outcomes).flatten).1
      (early ++ failures outcomes ++ (validateBids q.request (successes outcomes).flatten).2) := by
  rw [reading, Preparation.of]
  cases h with
  | notConfigured hpartner => simp [hpartner, validateBids]
  | noAdapter hpartner hadapter => simp [hpartner, hadapter, validateBids]
  | called hpartner hadapter hplan houtcomes =>
    simp only [hpartner, hadapter, hplan]
    rw [Reading.ofReplies_of_forall₂ (List.forall₂_map_left_iff.2 houtcomes)]
    rfl

/-- A partner that is in time accounts for all of its calls. -/
theorem accountsFor_of_comesTo {early : List PartnerError}
    {outcomes : List (Except PartnerError (List Bid))} (h : d.ComesTo i q early outcomes)
    (hin : d.longest i q ≤ q.deadline.remaining now) (total : Nat) (report : String) :
    ((d.turn now i q).response total report).AccountsFor q early outcomes := by
  rw [response_of_answered hin (reading_of_comesTo h)]
  exact ⟨validateBids_fst, _, rfl, forall₂_validateBids⟩

/-- A partner that is in time, and whose adapter can read or refuse every reply, has the valid bids
of all of its calls, in the order of the calls.  Its errors are those of its adapter, then one for
each call that has failed, then one for each invalid bid.  To validate its bids again changes
nothing. -/
theorem dispatch_accounts (d : PartnerRound) (now : Nat) {i : Nat} {q : PartnerRequest}
    {partner : Partner} {adapter : Adapter} {plan : CallPlan}
    (hq : d.requests[i]? = some q) (hpartner : d.catalog.get? q.code = some partner)
    (hadapter : d.adapters partner.adapter = some adapter)
    (hplan : adapter.makeCalls q partner = some plan)
    (hread : ∀ r ∈ d.replies i q, adapter.outcome? q r.1 r.2.value ≠ none)
    (hin : ∀ r ∈ d.replies i q, r.2.delay ≤ q.deadline.remaining now) :
    (d.replies i q).map (·.1) = plan.calls ∧
    ∃ outcomes r,
      List.Forall₂ (fun r outcome => adapter.outcome? q r.1 r.2.value = some outcome)
        (d.replies i q) outcomes ∧
      (d.dispatched now).responses[i]? = some r ∧
      r.AccountsFor q plan.errors outcomes ∧
      validateBids q.request r.bids = (r.bids, []) := by
  refine ⟨map_fst_replies hpartner hadapter hplan, ?_⟩
  cases houtcomes : (d.replies i q).mapM fun r => adapter.outcome? q r.1 r.2.value with
  | none =>
    obtain ⟨r, hr, hnone⟩ := mapM_eq_none_iff.1 houtcomes
    exact absurd hnone (hread r hr)
  | some outcomes =>
    have hall := mapM_eq_some_iff.1 houtcomes
    have haccounts := accountsFor_of_comesTo (.called hpartner hadapter hplan hall)
      (longest_le_iff.2 hin) (d.dispatched now).elapsed (d.reports i)
    refine ⟨outcomes, _, hall, response_dispatched hq, haccounts, ?_⟩
    refine validateBids_eq_self_iff.2 fun bid hbid => ?_
    rw [haccounts.bids] at hbid
    simpa using (List.mem_filter.1 hbid).2

/-- An adapter that makes four calls.  It cannot read the reply to the third one, and finds in each
other reply a bid for the imp `i` and one for another imp. -/
def fourCalls : Adapter where
  makeCalls _ _ := some {
    calls := ["a", "b", "c", "d"].map fun uri => ⟨"POST", uri, [], "", []⟩
    errors := [.reported .badInput "no size"] }
  readBids _ call _ := some (
    if call.uri = "c" then .error (.undecodable "expected value")
    else .ok [{ oneBid with id := call.uri }, { oneBid with id := call.uri, impId := "j" }])

/-- The partner `b` is asked over a transport that fails for the second call. -/
def askOften : PartnerRound where
  catalog := twoAdapters "steady"
  adapters _ := some fourCalls
  transport := ⟨fun earlier call => ⟨9 - earlier.length,
    if call.uri = "b" then .error (.reported .failedToRequestBids "refused") else .ok ⟨200, []⟩⟩⟩
  earlier := []
  requests := [oneImp "b"]

/-- Two calls fail, and of the two bids that each of the others has come to one is dropped. -/
theorem dispatch_accounts_askOften :
    ∃ outcomes r, (askOften.dispatched 0).responses[0]? = some r ∧
      r.AccountsFor (oneImp "b") [.reported .badInput "no size"] outcomes ∧
      r.bids.map (·.id) = ["a", "d"] ∧
      r.errors = [.reported .badInput "no size", .reported .failedToRequestBids "refused",
        .undecodable "expected value", .unknownImp "a" "j", .unknownImp "d" "j"] := by
  obtain ⟨-, outcomes, r, -, hr, haccounts, -⟩ := dispatch_accounts askOften 0 (i := 0)
    (q := oneImp "b") rfl rfl rfl rfl (by decide) (by decide)
  refine ⟨outcomes, r, hr, haccounts, ?_⟩
  cases hr
  exact ⟨rfl, rfl⟩

end PartnerRound

end AdExchange
