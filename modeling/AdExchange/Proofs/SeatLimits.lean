import AdExchange.Proofs.MultiBid
import AdExchange.Proofs.Ranks

/-!
# Limits and empty seats

A request may limit how many bids a bidder lists for one imp, and of several declarations that limit
a bidder the first one counts.  Each partner with bids has a seat.  Whether it has one is decided
before the limit leaves anything out, so a limit of zero leaves the seat empty; every other limit
leaves a bid for each imp that the partner has bids for.
-/

namespace AdExchange

namespace MultiBid

/-- The limit that a list of declarations sets for the bids of a bidder. -/
def limitFor? (declarations : List MultiBidDeclaration) (name : String) : Option UInt32 :=
  (declarations.findSome? (·.settingFor? name)).map (·.maxBids)

end MultiBid

/-! ## Empty seats -/

/-- A limit leaves nothing of some bids exactly if it is zero. -/
theorem cappedBids_eq_nil_iff {bids : List Bid} (hbids : bids ≠ []) {limit : Option Nat} :
    cappedBids bids limit = [] ↔ limit = some 0 := by
  cases limit with
  | none => simpa [cappedBids] using hbids
  | some n =>
    constructor
    · intro hnone
      obtain ⟨bid, rest, rfl⟩ := List.exists_cons_of_ne_nil hbids
      have hcount := count_cappedBids (bid :: rest) n bid.impId
      have hpos : 0 < (((bid :: rest).map (·.impId)).count bid.impId) :=
        List.count_pos_iff.2 (by simp)
      rw [hnone, List.map_nil, List.count_nil] at hcount
      have hzero : n = 0 := by omega
      rw [hzero]
    · intro hzero
      obtain rfl : n = 0 := Option.some.inj hzero
      simp [cappedBids]

/-- The seat is that of the response: it has the name of the partner, and lists some of the bids in
their order. -/
structure SeatBid.IsOf (r : PartnerResponse) (seat : SeatBid) : Prop where
  partner : seat.seat = some r.partner
  bids : (seat.bids.map (·.id)).Sublist (r.bids.map (·.id))

theorem isOf_of_seatBid? {input : AssemblyInput} {r : PartnerResponse} {seat : SeatBid}
    (h : seatBid? input r = some seat) : seat.IsOf r where
  partner := seat_of_seatBid? h
  bids := by
    obtain ⟨-, rfl⟩ := seatBid?_eq_some_iff.1 h
    have hids := (map_cappedBids_sublist r.bids
      ((Dictionary.get? input.multibid r.partner).map (·.maxBids.toNat))).map (·.id)
    rw [List.map_map] at hids
    rw [List.map_map]
    exact hids

theorem bids_eq_nil_iff_of_seatBid? {input : AssemblyInput} {r : PartnerResponse} {seat : SeatBid}
    (h : seatBid? input r = some seat) :
    seat.bids = [] ↔ (Dictionary.get? input.multibid r.partner).map (·.maxBids) = some 0 := by
  obtain ⟨hbids, rfl⟩ := seatBid?_eq_some_iff.1 h
  rw [List.map_eq_nil_iff, cappedBids_eq_nil_iff hbids]
  cases Dictionary.get? input.multibid r.partner with
  | none => simp
  | some m => simp [← UInt32.toNat_inj]

/-- There is one seat for each partner with bids, in the order of the responses.  A seat is empty
exactly if the limit that counts for its partner is zero, so none is if no declaration has that
limit. -/
theorem assemble_seats (input : AssemblyInput) (declarations : List MultiBidDeclaration)
    (hmultibid : input.multibid = (MultiBid.resolve declarations).configs) :
    List.Forall₂
      (fun r seat => seat.IsOf r ∧
        (seat.bids = [] ↔ MultiBid.limitFor? declarations r.partner = some 0))
      (input.responses.filter fun r => r.bids ≠ []) (assemble input).seatBids ∧
    ((∀ d ∈ declarations, d.maxBids ≠ some 0) →
      ∀ seat ∈ (assemble input).seatBids, seat.bids ≠ []) := by
  have hlimit : ∀ name, (Dictionary.get? input.multibid name).map (·.maxBids) =
      MultiBid.limitFor? declarations name := by
    intro name
    rw [hmultibid, MultiBid.get?_resolve, MultiBid.limitFor?]
  have hpartners : (input.responses.filter fun r => (seatBid? input r).isSome) =
      input.responses.filter fun r => r.bids ≠ [] := by
    refine List.filter_congr fun r _ => ?_
    cases hbids : r.bids <;> simp [seatBid?, hbids]
  have hseats : List.Forall₂
      (fun r seat => seat.IsOf r ∧
        (seat.bids = [] ↔ MultiBid.limitFor? declarations r.partner = some 0))
      (input.responses.filter fun r => r.bids ≠ []) (assemble input).seatBids := by
    rw [← hpartners]
    refine (forall₂_filterMap (seatBid? input) input.responses).imp fun r seat h => ?_
    rw [← hlimit]
    exact ⟨isOf_of_seatBid? h, bids_eq_nil_iff_of_seatBid? h⟩
  refine ⟨hseats, ?_⟩
  intro hpositive seat hseat hempty
  obtain ⟨r, -, -, hiff⟩ := exists_of_mem_right hseats hseat
  obtain ⟨m, hm, hzero⟩ := Option.map_eq_some_iff.1 (hiff.1 hempty)
  obtain ⟨d, hd, hsetting⟩ := List.exists_of_findSome?_eq_some hm
  exact hpositive d hd (hzero ▸ d.maxBids_of_settingFor? hsetting)

/-- One bid of `a`, which may list `n` bids for each imp, and none of `b`. -/
def oneSeat (n : UInt32) : AssemblyInput where
  request := { id := "r" }
  responses :=
    [{ partner := "a", code := "a"
       bids := [{ id := "1", impId := "i", price := .ofNat 1, mediaType := .banner }] },
     { partner := "b", code := "b" }]
  multibid := (MultiBid.resolve [{ bidder := some "a", maxBids := some n }]).configs
  currency := "USD"
  tmax := 300

/-- With a limit of zero the seat of `a` is there and is empty, with a limit of one it is not. -/
theorem assemble_seats_oneSeat :
    (∃ seat, (assemble (oneSeat 0)).seatBids = [seat] ∧ seat.seat = some "a" ∧ seat.bids = []) ∧
    ∀ seat ∈ (assemble (oneSeat 1)).seatBids, seat.bids ≠ [] := by
  obtain ⟨hzero, -⟩ :=
    assemble_seats (oneSeat 0) [{ bidder := some "a", maxBids := some 0 }] rfl
  obtain ⟨-, hone⟩ :=
    assemble_seats (oneSeat 1) [{ bidder := some "a", maxBids := some 1 }] rfl
  refine ⟨?_, hone (by decide)⟩
  obtain ⟨seat, rest, ⟨hseat, hempty⟩, hrest, hseats⟩ := List.forall₂_cons_left_iff.1 hzero
  obtain rfl := List.forall₂_nil_left_iff.1 hrest
  exact ⟨seat, hseats, hseat.partner, hempty.2 rfl⟩

end AdExchange
