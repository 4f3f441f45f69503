import AdExchange.Proofs.Delays

/-!
# A round of asking the partners

All partners are asked at the same time, but their calls are made one after the other.  So how long
a reply takes may depend on the calls to the partners before.  Apart from that the partners have
nothing to do with each other: the turn of each is made from its request, from its entry in the
catalog with the adapter there, and from the replies to its own calls.

## Main definitions

* `Transport.RepliesBy` — the reply to a call depends on the call alone.
* `PartnerRound` — all that partners are asked with.
* `PartnerRound.replies` — the replies to the calls of one partner.
* `PartnerRequest.readingBy` — what the replies amount to if none is late.
* `PartnerResponse.untimed` — a response but for the time that it took.

## Main statements

* `calls_turns` — the calls that are made.
* `PartnerRound.getElem?_responses` — the response at each place.
* `PartnerTurn.untimed_response` — a response but for its time is made from the reading.
-/

namespace AdExchange

namespace Transport

/-- The reply to a call depends on the call alone.  How long it takes may depend on more. -/
def RepliesBy (t : Transport) (reply : HttpCall → Except PartnerError HttpReply) : Prop :=
  ∀ earlier call, (t.answer earlier call).value = reply call

variable {t t' : Transport} {reply reply' : HttpCall → Except PartnerError HttpReply}

theorem map_value_send (h : t.RepliesBy reply) (earlier calls : List HttpCall) :
    (t.send earlier calls).map (fun r => (r.1, r.2.value)) =
      calls.map fun call => (call, reply call) := by
  induction calls generalizing earlier with
  | nil => rfl
  | cons call rest ih => rw [send, List.map_cons, List.map_cons, ih, h]

/-- Each call has one reply, in the order of the calls. -/
theorem map_fst_send (t : Transport) (earlier calls : List HttpCall) :
    (t.send earlier calls).map (·.1) = calls := by
  induction calls generalizing earlier with
  | nil => rfl
  | cons call rest ih => rw [send, List.map_cons, ih]

/-- What is sent back has been an answer to the call. -/
theorem exists_of_mem_send {earlier calls : List HttpCall}
    {r : HttpCall × Timed (Except PartnerError HttpReply)} (hr : r ∈ t.send earlier calls) :
    ∃ before, r.2 = t.answer before r.1 := by
  induction calls generalizing earlier with
  | nil => simp [send] at hr
  | cons call rest ih =>
    rcases List.mem_cons.1 hr with rfl | hr
    · exact ⟨earlier, rfl⟩
    · exact ih hr

/-- Calls with the same replies and delays are answered alike. -/
theorem send_congr (h : t.RepliesBy reply) (h' : t'.RepliesBy reply')
    {earlier earlier' calls : List HttpCall} (hreply : ∀ call ∈ calls, reply call = reply' call)
    (hdelay : (t.send earlier calls).map (·.2.delay) = (t'.send earlier' calls).map (·.2.delay)) :
    t.send earlier calls = t'.send earlier' calls := by
  induction calls generalizing earlier earlier' with
  | nil => rfl
  | cons call rest ih =>
    rw [List.forall_mem_cons] at hreply
    simp only [send, List.map_cons, List.cons.injEq] at hdelay ⊢
    have hvalue : (t.answer earlier call).value = (t'.answer earlier' call).value := by
      rw [h, h', hreply.1]
    have hanswer : t.answer earlier call = t'.answer earlier' call := by
      cases ha : t.answer earlier call
      cases ha' : t'.answer earlier' call
      simp_all
    exact ⟨by rw [hanswer], ih hreply.2 hdelay.2⟩

end Transport

/-! ## One partner -/

/-- A response but for the time that it took. -/
def PartnerResponse.untimed (r : PartnerResponse) : PartnerResponse :=
  { r with responseTimeMs := 0 }

namespace PartnerTurn

@[simp] theorem partner_response (t : PartnerTurn) (total : Nat) (report : String) :
    (t.response total report).partner = t.request.partner := by
  rw [response]
  split <;> rfl

@[simp] theorem code_response (t : PartnerTurn) (total : Nat) (report : String) :
    (t.response total report).code = t.request.code := by
  rw [response]
  split <;> rfl

/-- A response but for its time is made from the reading. -/
theorem untimed_response {t t' : PartnerTurn} (hrequest : t.request = t'.request)
    (hvalue : t.reading.value = t'.reading.value) (total total' : Nat) (report : String) :
    (t.response total report).untimed = (t'.response total' report).untimed := by
  simp only [response, hrequest, hvalue]
  split <;> rfl

end PartnerTurn

/-- What is to be done to ask a partner depends on its entry in the catalog and on the adapter
there. -/
theorem Preparation.of_congr {catalog catalog' : Catalog} {adapters adapters' : Adapters}
    {q : PartnerRequest} (hpartner : catalog.get? q.code = catalog'.get? q.code)
    (hadapter : ∀ partner, catalog.get? q.code = some partner →
      adapters partner.adapter = adapters' partner.adapter) :
    Preparation.of catalog adapters q = Preparation.of catalog' adapters' q := by
  rw [Preparation.of, Preparation.of, ← hpartner]
  cases h : catalog.get? q.code with
  | none => rfl
  | some partner =>
    dsimp only
    rw [hadapter partner h]

/-- What the replies to a partner's calls amount to if none is late. -/
def PartnerRequest.readingBy (catalog : Catalog) (adapters : Adapters)
    (reply : HttpCall → Except PartnerError HttpReply) (q : PartnerRequest) : Reading :=
  match Preparation.of catalog adapters q with
  | .refused reason => .answered [] [reason]
  | .crashed => .crashed
  | .ready adapter plan =>
    (Reading.ofReplies adapter q (plan.calls.map fun call => (call, reply call))).finish q.request
      plan.errors

namespace Adapter

/-- Makes one call, and has these bids in answer to every reply. -/
def ofBids (bids : List Bid) : Adapter where
  makeCalls _ partner := some { calls := [⟨"POST", partner.endpoint, [], "", []⟩] }
  readBids _ _ _ := some (.ok bids)

/-- Crashes before any call. -/
def crashing : Adapter where
  makeCalls _ _ := none
  readBids _ _ _ := none

end Adapter

/-! ## All partners -/

/-- The calls of a round are those to the single partners, in the order of the requests. -/
theorem calls_turns (catalog : Catalog) (adapters : Adapters) (transport : Transport) (now : Nat)
    (earlier : List HttpCall) (requests : List PartnerRequest) :
    (turns catalog adapters transport now earlier requests).flatMap (·.calls) =
      requests.flatMap fun q => (Preparation.of catalog adapters q).calls := by
  induction requests generalizing earlier with
  | nil => rfl
  | cons q rest ih =>
    rw [turns, List.flatMap_cons, List.flatMap_cons, ih]
    rfl

/-- All that partners are asked with. -/
structure PartnerRound where
  catalog : Catalog
  adapters : Adapters
  transport : Transport
  /-- The calls that were made before. -/
  earlier : List HttpCall
  requests : List PartnerRequest
  /-- What the runtime says of the task at each place if it crashes. -/
  reports : Nat → String := LibraryTexts.crash {}

namespace PartnerRound

def dispatched (d : PartnerRound) (now : Nat) : Dispatched :=
  dispatch d.catalog d.adapters d.transport now d.earlier d.requests d.reports

/-- The calls that are made to a partner. -/
def callsTo (d : PartnerRound) (q : PartnerRequest) : List HttpCall :=
  (Preparation.of d.catalog d.adapters q).calls

/-- The calls that are made before those to the partner at the place `i`. -/
def callsBefore (d : PartnerRound) (i : Nat) : List HttpCall :=
  d.earlier ++ (d.requests.take i).flatMap d.callsTo

/-- The calls to the partner at the place `i` with their replies. -/
def replies (d : PartnerRound) (i : Nat) (q : PartnerRequest) :
    List (HttpCall × Timed (Except PartnerError HttpReply)) :=
  d.transport.send (d.callsBefore i) (d.callsTo q)

/-- The turn of the partner at the place `i`. -/
def turn (d : PartnerRound) (now i : Nat) (q : PartnerRequest) : PartnerTurn :=
  .of d.catalog d.adapters d.transport now (d.callsBefore i) q

variable (d : PartnerRound) (now : Nat)

/-- The turn at each place. -/
theorem getElem?_turns (catalog : Catalog) (adapters : Adapters) (transport : Transport)
    (now : Nat) (earlier : List HttpCall) (requests : List PartnerRequest) (i : Nat) :
    (turns catalog adapters transport now earlier requests)[i]? =
      requests[i]?.map (({ catalog, adapters, transport, earlier, requests } :
        PartnerRound).turn now i) := by
  induction requests generalizing earlier i with
  | nil => rfl
  | cons q rest ih =>
    cases i with
    | zero => simp [turns, turn, callsBefore]
    | succ i =>
      rw [turns, List.getElem?_cons_succ, List.getElem?_cons_succ, ih]
      congr 1
      funext q'
      simp only [turn, callsBefore, List.take_succ_cons, List.flatMap_cons, ← List.append_assoc]
      rfl

/-- The response at each place. -/
theorem getElem?_responses (i : Nat) :
    (d.dispatched now).responses[i]? = d.requests[i]?.map fun q =>
      (d.turn now i q).response (d.dispatched now).elapsed (d.reports i) := by
  change (List.mapIdx _ _)[i]? = _
  rw [List.getElem?_mapIdx, getElem?_turns, Option.map_map]
  rfl

/-- There is one response for each request, in the same order. -/
theorem names_responses :
    (d.dispatched now).responses.map (fun r => (r.partner, r.code)) =
      d.requests.map fun q => (q.partner, q.code) := by
  refine List.ext_getElem? fun i => ?_
  rw [List.getElem?_map, getElem?_responses, List.getElem?_map, Option.map_map]
  congr 1
  funext q
  simp [turn, PartnerTurn.of]

end PartnerRound

end AdExchange
