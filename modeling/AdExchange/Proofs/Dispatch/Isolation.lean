import AdExchange.Proofs.Dispatch.Round

/-!
# What goes wrong with one partner does not touch the others

Two rounds may differ in all that concerns other partners: who they are, what they are asked, which
adapters they have, whether these crash, what the others reply and when.  A partner that is asked
the same, in whichever place, has the same bids and the same errors in both.
-/

namespace AdExchange

namespace PartnerRound

/-- Two rounds do not differ in what concerns the partner that is asked `q`, at the place `i` of the
one and `j` of the other: its entry in the catalog, its adapter, the replies to its calls, and how
long they take. -/
structure SameFor (d d' : PartnerRound) (reply reply' : HttpCall → Except PartnerError HttpReply)
    (i j : Nat) (q : PartnerRequest) : Prop where
  request : d.requests[i]? = some q
  request' : d'.requests[j]? = some q
  partner : d.catalog.get? q.code = d'.catalog.get? q.code
  adapter : ∀ partner, d.catalog.get? q.code = some partner →
    d.adapters partner.adapter = d'.adapters partner.adapter
  reply : ∀ call ∈ d.callsTo q, reply call = reply' call
  delay : (d.replies i q).map (·.2.delay) = (d'.replies j q).map (·.2.delay)

variable {d d' : PartnerRound} {reply reply' : HttpCall → Except PartnerError HttpReply}
  {i j : Nat} {q : PartnerRequest}

theorem SameFor.callsTo_eq (h : d.SameFor d' reply reply' i j q) : d.callsTo q = d'.callsTo q :=
  congrArg Preparation.calls (Preparation.of_congr h.partner h.adapter)

/-- The partner has the same turn in both rounds. -/
theorem turn_congr (hreply : d.transport.RepliesBy reply) (hreply' : d'.transport.RepliesBy reply')
    (h : d.SameFor d' reply reply' i j q) (now : Nat) : d.turn now i q = d'.turn now j q := by
  have hdelay := h.delay
  simp only [replies] at hdelay
  rw [← h.callsTo_eq] at hdelay
  have hreplies : d.transport.send (d.callsBefore i) (d.callsTo q) =
      d'.transport.send (d'.callsBefore j) (d.callsTo q) :=
    Transport.send_congr hreply hreply' h.reply hdelay
  have hprep := Preparation.of_congr h.partner h.adapter
  simp only [callsTo] at hreplies
  simp only [turn, PartnerTurn.of, ← hprep]
  cases hp : Preparation.of d.catalog d.adapters q with
  | refused reason => rfl
  | crashed => rfl
  | ready adapter plan =>
    simp only [hp, Preparation.calls] at hreplies ⊢
    rw [hreplies]

/-- What comes of the same reading: the same bids, and the same errors unless the adapter has
crashed.  Then there is no other error than the crash. -/
theorem PartnerTurn.bids_errors_response {t t' : PartnerTurn}
    (hvalue : t.reading.value = t'.reading.value) (total total' : Nat) (report report' : String) :
    (t.response total report).bids = (t'.response total' report').bids ∧
    ((t.response total report).errors = (t'.response total' report').errors ∨
      (t.response total report).errors = [.adapterCrashed report] ∧
        (t'.response total' report').errors = [.adapterCrashed report']) := by
  simp only [PartnerTurn.response, hvalue]
  split
  · exact ⟨rfl, .inl rfl⟩
  · exact ⟨rfl, .inr ⟨rfl, rfl⟩⟩
  · exact ⟨rfl, .inl rfl⟩

/-- There is one response for each request, in the same order and under the same names.  Its bids
and errors are the same in every round that does not differ in what concerns the partner and in what
the runtime says of its task.  Where the runtime says something else, there is no difference but in
these words, and only if the adapter has crashed. -/
theorem dispatch_isolated (d : PartnerRound) (now : Nat) :
    (d.dispatched now).responses.map (fun r => (r.partner, r.code)) =
      d.requests.map (fun q => (q.partner, q.code)) ∧
    ∀ (d' : PartnerRound) (reply reply' : HttpCall → Except PartnerError HttpReply) (i j : Nat)
      (q : PartnerRequest),
      d.transport.RepliesBy reply → d'.transport.RepliesBy reply' →
      d.SameFor d' reply reply' i j q →
      ∃ r r', (d.dispatched now).responses[i]? = some r ∧
        (d'.dispatched now).responses[j]? = some r' ∧
        r.bids = r'.bids ∧
        (d.reports i = d'.reports j → r.errors = r'.errors) ∧
        (r.errors ≠ r'.errors → r.errors = [.adapterCrashed (d.reports i)] ∧
          r'.errors = [.adapterCrashed (d'.reports j)]) := by
  refine ⟨d.names_responses now, ?_⟩
  intro d' reply reply' i j q hreply hreply' h
  have hreading : (d.turn now i q).reading.value = (d'.turn now j q).reading.value := by
    rw [turn_congr hreply hreply' h now]
  obtain ⟨hbids, herrors⟩ := PartnerTurn.bids_errors_response hreading
    (d.dispatched now).elapsed (d'.dispatched now).elapsed (d.reports i) (d'.reports j)
  refine ⟨_, _, ?_, ?_, hbids, ?_, ?_⟩
  · rw [d.getElem?_responses, h.request]
    rfl
  · rw [d'.getElem?_responses, h.request']
    rfl
  · intro hreport
    rcases herrors with heq | ⟨hcrash, hcrash'⟩
    · exact heq
    · rw [hcrash, hcrash', hreport]
  · exact fun hne => herrors.resolve_left hne

/-- What a partner is asked: one imp, to be answered within 10 milliseconds. -/
def oneImp (partner : String) : PartnerRequest where
  partner
  code := partner
  request := { id := "r", imps := [{ id := "i" }] }
  deadline := ⟨10⟩

/-- The partners `a` and `b`, the first one with an adapter of this name. -/
def twoAdapters (name : String) : Catalog :=
  .ofList [{ id := 1, name := "a", endpoint := "http://a", adapter := name },
    { id := 2, name := "b", endpoint := "http://b", adapter := "steady" }]

def oneBid : Bid where
  id := "1"
  impId := "i"
  price := .ofNat 1
  mediaType := .banner

/-- The adapter `steady` bids in answer to every reply, all others crash. -/
def steadyOrCrashing (name : String) : Option Adapter :=
  if name = "steady" then some (.ofBids [oneBid]) else some .crashing

/-- The partner `b`, asked after others.  How long a reply takes depends on the number of calls that
were made before. -/
def askB (others : List PartnerRequest) (adapter : String) (delays : List Nat) : PartnerRound where
  catalog := twoAdapters adapter
  adapters := steadyOrCrashing
  transport := ⟨fun earlier _ => ⟨delays.getD earlier.length 0, .ok ⟨200, []⟩⟩⟩
  earlier := []
  requests := others ++ [oneImp "b"]

/-- In the first round `a` bids too late, in the second one its adapter crashes, and another partner
is asked that nobody knows; `b` bids in both. -/
theorem dispatch_isolated_askB :
    let late := askB [oneImp "a"] "steady" [20, 3]
    let crash :=
      { askB [oneImp "a", oneImp "c"] "other" [3] with reports := fun i => "t" ++ toString i }
    (late.dispatched 0).responses.map (·.errors) = [[.timedOut], []] ∧
    (crash.dispatched 0).responses.map (·.errors) =
      [[.adapterCrashed "t0"], [.notConfigured "c"], []] ∧
    ∃ r r', (late.dispatched 0).responses[1]? = some r ∧
      (crash.dispatched 0).responses[2]? = some r' ∧ r.bids = r'.bids ∧ r.errors = r'.errors := by
  intro late crash
  refine ⟨rfl, rfl, ?_⟩
  obtain ⟨r, r', hr, hr', hbids, -, herrors⟩ := (dispatch_isolated late 0).2 crash
    (fun _ => .ok ⟨200, []⟩) (fun _ => .ok ⟨200, []⟩) 1 2 (oneImp "b") (fun _ _ => rfl)
    (fun _ _ => rfl) ⟨rfl, rfl, rfl, fun _ _ => rfl, fun _ _ => rfl, rfl⟩
  refine ⟨r, r', hr, hr', hbids, ?_⟩
  -- Had they different errors, both would be crashes, but the adapter of `b` does not crash.
  refine Classical.byContradiction fun hne => ?_
  cases hr
  cases (herrors hne).1

end PartnerRound

end AdExchange
