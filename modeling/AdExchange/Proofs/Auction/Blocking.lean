import AdExchange.Proofs.Auction.Attribution
import AdExchange.Proofs.Scope.Standings

/-!
# Partners that are not asked

The privacy service may decide on one name more than once, and then the last decision counts.  No
call is made for a name that the last decision bars.  A name that an earlier decision bars is asked
all the same if the last one does not bar it.
-/

namespace AdExchange

/-- The names that have a request are those that come up, lead to a partner that takes part, and are
not barred. -/
theorem mem_partners_iff {request : BidRequest} {catalog : Catalog} {multibid : Dictionary MultiBid}
    {decisions : List PrivacyDecision} {deadline : Deadline} {now : Nat} {s : ScopedRequests}
    (h : scope request catalog multibid decisions deadline now = .ok s) {name : String} :
    name ∈ s.requests.map (·.partner) ↔ name ∈ request.partnerNames ∧
      (∃ partner, catalog.LeadsTo request.aliases name partner ∧ partner.enabled = true) ∧
      ¬ PrivacyDecision.Bars decisions name := by
  rw [partners_eq_filter h, List.mem_filter, decide_eq_true_iff, Standing.nameClass_of_eq_iff]
  refine and_congr_right fun _ => ?_
  constructor
  · intro hemitted
    cases hemitted with
    | emitted hleads hon hfree => exact ⟨⟨_, hleads, hon⟩, hfree⟩
  · rintro ⟨⟨partner, hleads, hon⟩, hfree⟩
    exact .emitted hleads hon hfree

namespace Exchange

variable {x : Exchange} {now : Nat} {earlier : List HttpCall} {request : BidRequest}
  {context : AuctionContext} {decisions : List PrivacyDecision}

theorem not_bars_of_mem_requestsAsked
    (hdecisions : x.privacy request request.partnerNames = .ok decisions) {q : PartnerRequest}
    (hq : q ∈ x.requestsAsked now request context) :
    ¬ PrivacyDecision.Bars decisions q.partner := by
  rw [requestsAsked] at hq
  split at hq
  · cases hq
  · next deadline s hasked =>
    obtain ⟨decisions', hdecisions', hscope⟩ := bind_eq_ok_iff.1 (instant_of_asked hasked).2
    obtain rfl : decisions = decisions' := by simpa [hdecisions] using hdecisions'
    exact ((mem_partners_iff hscope).1 (List.mem_map_of_mem hq)).2.2

/-- Whatever the privacy service decides, the names that have a request are those that come up, lead
to a partner that takes part, and are not barred by the last decision on them; and an auction calls
partners under such names alone.  If there are no two decisions on one name, it calls none that is
blocked. -/
theorem holdAuction_blocking
    (hdecisions : x.privacy request request.partnerNames = .ok decisions) :
    (∀ multibid deadline start s,
      scope request x.catalog multibid decisions deadline start = .ok s → ∀ name,
        (name ∈ s.requests.map (·.partner) ↔ name ∈ request.partnerNames ∧
          (∃ partner, x.catalog.LeadsTo request.aliases name partner ∧ partner.enabled = true) ∧
          ¬ PrivacyDecision.Bars decisions name)) ∧
    let asked := x.requestsAsked now request context
    (x.holdAuction now earlier request context).calls =
      asked.flatMap (fun q => (Preparation.of x.catalog x.adapters q).calls) ∧
    (∀ q ∈ asked, ¬ PrivacyDecision.Bars decisions q.partner) ∧
    ((decisions.map (·.partner)).Nodup →
      ∀ q ∈ asked, ¬ PrivacyDecision.Blocks decisions q.partner) := by
  refine ⟨fun _ _ _ _ hscope _ => mem_partners_iff hscope, ?_, ?_, ?_⟩
  · exact calls_holdAuction.trans (calls_turns ..)
  · intro q hq
    exact not_bars_of_mem_requestsAsked hdecisions hq
  · intro honce q hq hblocks
    exact not_bars_of_mem_requestsAsked hdecisions hq
      ((PrivacyDecision.bars_iff_blocks honce).2 hblocks)

def decidedBy (decisions : List PrivacyDecision) : Exchange :=
  { allBid [] with privacy := fun _ _ => .ok decisions }

/-- First `a` may be asked, and then it may not. -/
def lastBlocks : List PrivacyDecision := [.allow "a", .block "a"]

/-- First `a` may not be asked, and then it may. -/
def lastAllows : List PrivacyDecision := [.block "a", .allow "a"]

/-- Under its other name `a` is asked either way.  Under its own name it is asked, in spite of the
decision that blocks it, if the last decision allows it. -/
theorem holdAuction_blocking_namesTwice :
    let asked := fun decisions => (decidedBy decisions).requestsAsked 0 namesTwice {}
    let calls := fun decisions => ((decidedBy decisions).holdAuction 0 [] namesTwice {}).calls
    (asked lastBlocks).map (·.partner) = ["other"] ∧ (calls lastBlocks).length = 1 ∧
    (∀ q ∈ asked lastBlocks, ¬ PrivacyDecision.Bars lastBlocks q.partner) ∧
    (asked lastAllows).map (·.partner) = ["other", "a"] ∧ (calls lastAllows).length = 2 ∧
    PrivacyDecision.Blocks lastAllows "a" ∧
    ∀ q ∈ asked lastAllows, ¬ PrivacyDecision.Bars lastAllows q.partner := by
  intro asked calls
  have hblocks : (decidedBy lastBlocks).privacy namesTwice namesTwice.partnerNames =
      .ok lastBlocks := rfl
  have hallows : (decidedBy lastAllows).privacy namesTwice namesTwice.partnerNames =
      .ok lastAllows := rfl
  have hblocked : PrivacyDecision.Blocks lastAllows "a" :=
    ⟨.block "a", List.mem_cons_self, rfl, rfl⟩
  obtain ⟨-, -, hfree, -⟩ :=
    @holdAuction_blocking (decidedBy lastBlocks) 0 [] namesTwice {} lastBlocks hblocks
  obtain ⟨-, -, hfree', -⟩ :=
    @holdAuction_blocking (decidedBy lastAllows) 0 [] namesTwice {} lastAllows hallows
  exact ⟨rfl, rfl, hfree, rfl, rfl, hblocked, hfree'⟩

end Exchange

end AdExchange
