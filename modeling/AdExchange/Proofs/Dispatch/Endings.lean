import AdExchange.Proofs.Dispatch.Round
import AdExchange.Proofs.Results

/-!
# How the turn of a partner ends

All calls to a partner are made at once, so the partner is done with the latest of its replies, or
with its deadline if that comes first.  There are three ends: the partner is late, and nothing that
it has sent counts; it has answered; or its adapter has crashed.
-/

namespace AdExchange

/-! ## What the calls come to -/

/-- What a call comes to: the bids in the reply, or the error of the transport or of the adapter.
`none` if the adapter crashes. -/
def Adapter.outcome? (a : Adapter) (q : PartnerRequest) (call : HttpCall) :
    Except PartnerError HttpReply → Option (Except PartnerError (List Bid))
  | .error e => some (.error e)
  | .ok reply => a.readBids q call reply

namespace Reading

variable {a : Adapter} {q : PartnerRequest}

theorem ofReplies_cons (call : HttpCall) (reply : Except PartnerError HttpReply)
    (rest : List (HttpCall × Except PartnerError HttpReply)) :
    ofReplies a q ((call, reply) :: rest) =
      (a.outcome? q call reply).elim .crashed fun outcome => cons outcome (ofReplies a q rest) := by
  cases reply with
  | error e => rfl
  | ok reply =>
    simp only [ofReplies, Adapter.outcome?]
    cases a.readBids q call reply <;> rfl

/-- The replies are read one by one, in the order of the calls.  One crash leaves nothing. -/
theorem ofReplies_eq (replies : List (HttpCall × Except PartnerError HttpReply)) :
    ofReplies a q replies =
      (replies.mapM fun r => a.outcome? q r.1 r.2).elim .crashed fun outcomes =>
        .answered (successes outcomes).flatten (failures outcomes) := by
  induction replies with
  | nil => rfl
  | cons r rest ih =>
    rw [ofReplies_cons, List.mapM_cons, ih]
    cases a.outcome? q r.1 r.2 with
    | none => rfl
    | some outcome =>
      cases rest.mapM fun r => a.outcome? q r.1 r.2 with
      | none => cases outcome <;> rfl
      | some outcomes => cases outcome <;> rfl

theorem ofReplies_of_forall₂ {replies : List (HttpCall × Except PartnerError HttpReply)}
    {outcomes : List (Except PartnerError (List Bid))}
    (h : List.Forall₂ (fun r outcome => a.outcome? q r.1 r.2 = some outcome) replies outcomes) :
    ofReplies a q replies = .answered (successes outcomes).flatten (failures outcomes) := by
  rw [ofReplies_eq, mapM_eq_some_iff.2 h, Option.elim_some]

end Reading

/-! ## The end of a turn -/

namespace PartnerRound

variable (d : PartnerRound) (now : Nat) (i : Nat) (q : PartnerRequest)

/-- What the replies to the partner at the place `i` amount to, however late they are. -/
def reading : Reading :=
  match Preparation.of d.catalog d.adapters q with
  | .refused reason => .answered [] [reason]
  | .crashed => .crashed
  | .ready adapter plan =>
    (Reading.ofReplies adapter q ((d.replies i q).map fun r => (r.1, r.2.value))).finish q.request
      plan.errors

/-- The adapter of the partner crashes, when it makes the calls or when it reads a reply. -/
def Crashes : Prop :=
  ∃ partner adapter, d.catalog.get? q.code = some partner ∧
    d.adapters partner.adapter = some adapter ∧
    (adapter.makeCalls q partner = none ∨
      ∃ r ∈ d.replies i q, adapter.outcome? q r.1 r.2.value = none)

/-- The longest delay among the calls to the partner, zero if there are none. -/
def longest : Nat := ((d.replies i q).map (·.2.delay)).foldl max 0

/-- How long the round waits for the partner at the place `i`. -/
def wait : Nat := min (d.longest i q) (q.deadline.remaining now)

/-- How long the round waits for each partner. -/
def waits : List Nat := d.requests.mapIdx (d.wait now)

variable {d now i q}

theorem longest_eq_longestDelay : d.longest i q = longestDelay ((d.replies i q).map (·.2)) := by
  rw [longest, longestDelay_eq_foldl, List.map_map]
  rfl

theorem longest_le_iff {n : Nat} : d.longest i q ≤ n ↔ ∀ r ∈ d.replies i q, r.2.delay ≤ n := by
  rw [longest_eq_longestDelay, longestDelay_le_iff, List.forall_mem_map]

/-- Nothing is to be read exactly if the adapter crashes. -/
theorem reading_eq_crashed_iff : d.reading i q = .crashed ↔ d.Crashes i q := by
  rw [reading, Crashes, Preparation.of]
  cases hpartner : d.catalog.get? q.code with
  | none => simp
  | some partner =>
    cases hadapter : d.adapters partner.adapter with
    | none => simp [hadapter]
    | some adapter =>
      cases hplan : adapter.makeCalls q partner with
      | none => simp [hadapter, hplan]
      | some plan =>
        have hread : ((d.replies i q).map fun r => (r.1, r.2.value)).mapM
              (fun r => adapter.outcome? q r.1 r.2) = none ↔
            ∃ r ∈ d.replies i q, adapter.outcome? q r.1 r.2.value = none := by
          rw [mapM_eq_none_iff]
          simp
        simp only [hadapter, hplan, Reading.ofReplies_eq, Option.some.injEq, exists_eq_left',
          exists_and_left, reduceCtorEq, false_or, ← hread]
        cases ((d.replies i q).map fun r => (r.1, r.2.value)).mapM
            fun r => adapter.outcome? q r.1 r.2 with
        | none => simp [Reading.finish]
        | some outcomes => simp [Reading.finish]

/-- The turn of a partner is the wait for what its replies amount to. -/
theorem reading_turn :
    (d.turn now i q).reading = q.deadline.await now ⟨d.longest i q, d.reading i q⟩ := by
  simp only [turn, PartnerTurn.of, reading, longest_eq_longestDelay]
  congr 1
  cases h : Preparation.of d.catalog d.adapters q with
  | refused reason => simp [replies, callsTo, h, Preparation.calls, Transport.send]
  | crashed => simp [replies, callsTo, h, Preparation.calls, Transport.send]
  | ready adapter plan => simp [replies, callsTo, h, Preparation.calls]

theorem delay_reading_turn : (d.turn now i q).reading.delay = d.wait now i q := by
  rw [reading_turn, Deadline.delay_await, wait]

/-- Nothing that a late partner has sent counts. -/
theorem response_of_late (h : q.deadline.remaining now < d.longest i q) (total : Nat)
    (report : String) :
    (d.turn now i q).response total report =
      { partner := q.partner, code := q.code, errors := [.timedOut]
        responseTimeMs := d.wait now i q } := by
  have hvalue : (d.turn now i q).reading.value = none := by
    rw [reading_turn, Deadline.await, if_neg (by simpa using h)]
  rw [PartnerTurn.response, hvalue, delay_reading_turn]
  rfl

theorem value_reading_of_le (h : d.longest i q ≤ q.deadline.remaining now) :
    (d.turn now i q).reading.value = some (d.reading i q) := by
  rw [reading_turn]
  exact Deadline.value_await h

/-- Where the replies depend on the calls alone, so does the reading. -/
theorem reading_eq_readingBy {reply : HttpCall → Except PartnerError HttpReply}
    (hreply : d.transport.RepliesBy reply) :
    d.reading i q = q.readingBy d.catalog d.adapters reply := by
  rw [reading, PartnerRequest.readingBy]
  cases h : Preparation.of d.catalog d.adapters q with
  | refused reason => rfl
  | crashed => rfl
  | ready adapter plan =>
    have hcalls : d.callsTo q = plan.calls := by rw [callsTo, h, Preparation.calls]
    simp only [replies, hcalls, Transport.map_value_send hreply]

/-- A partner that is not late has read all its replies. -/
theorem value_reading_turn (d : PartnerRound) (now : Nat)
    {reply : HttpCall → Except PartnerError HttpReply} (hreply : d.transport.RepliesBy reply)
    {i : Nat} {q : PartnerRequest}
    (hin : ∀ r ∈ d.replies i q, r.2.delay ≤ q.deadline.remaining now) :
    (d.turn now i q).reading.value = some (q.readingBy d.catalog d.adapters reply) := by
  rw [value_reading_of_le (longest_le_iff.2 hin), reading_eq_readingBy hreply]

/-- A partner that has answered has the bids and errors of its reading. -/
theorem response_of_answered (h : d.longest i q ≤ q.deadline.remaining now) {bids : List Bid}
    {errors : List PartnerError} (hreading : d.reading i q = .answered bids errors) (total : Nat)
    (report : String) :
    (d.turn now i q).response total report =
      { partner := q.partner, code := q.code, bids, errors, responseTimeMs := d.wait now i q } := by
  rw [PartnerTurn.response, value_reading_of_le h, hreading, delay_reading_turn]
  rfl

/-- The response of a partner whose adapter has crashed has the time of the whole round. -/
theorem response_of_crashed (h : d.longest i q ≤ q.deadline.remaining now) (hcrash : d.Crashes i q)
    (total : Nat) (report : String) :
    (d.turn now i q).response total report =
      { partner := q.partner, code := q.code, errors := [.adapterCrashed report]
        responseTimeMs := total } := by
  rw [PartnerTurn.response, value_reading_of_le h, reading_eq_crashed_iff.2 hcrash]
  rfl

/-- The response to a request is that of its turn. -/
theorem response_dispatched (hq : d.requests[i]? = some q) :
    (d.dispatched now).responses[i]? =
      some ((d.turn now i q).response (d.dispatched now).elapsed (d.reports i)) := by
  rw [getElem?_responses, hq, Option.map_some]

/-- The round takes as long as the longest wait. -/
theorem elapsed_dispatched : (d.dispatched now).elapsed = (d.waits now).foldl max 0 := by
  have hdelays : (turns d.catalog d.adapters d.transport now d.earlier d.requests).map
      (fun t => t.reading.delay) = d.waits now := by
    refine List.ext_getElem? fun i => ?_
    rw [List.getElem?_map, getElem?_turns, waits, List.getElem?_mapIdx, Option.map_map]
    congr 1
    funext q
    exact delay_reading_turn
  change longestDelay ((turns ..).map (·.reading)) = _
  rw [longestDelay_eq_foldl, List.map_map, ← hdelays]
  rfl

end PartnerRound

end AdExchange
