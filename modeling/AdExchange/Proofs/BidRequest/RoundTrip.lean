import AdExchange.BidResponse
import AdExchange.Proofs.BidRequest.Parties
import AdExchange.Proofs.BidRequest.Prebid
import AdExchange.Proofs.Decimal.Value

/-!
# Requests and responses come back

The lowest price of an imp and the price of a bid are decimals that are written as binary numbers.
Such a decimal comes back as the same number if the binary number that it is written as reads as it.
That is not always the nearest one, so it is not enough that the nearest one would read as it.

If all these decimals come back, so does the whole request or response, with every field, every
member that is kept for others and every value that is not looked into.
-/

namespace AdExchange

open RawJson

/-! ## Decimals that are written as binary numbers -/

namespace Decimal

/-- The binary number that a decimal is written as reads as the same number, though perhaps with
another number of places. -/
def ComesBack (d : Decimal) : Prop :=
  ∃ d', ofBinary64? d.toBinary64 = some d' ∧ d'.value = d.value

/-- A change of the form of decimals, but not of the numbers that they stand for. -/
def SameNumber (f : Decimal → Decimal) : Prop := ∀ d, (f d).value = d.value

/-- The form in which a decimal comes back, if it does. -/
def rewritten (d : Decimal) : Decimal :=
  ((ofBinary64? d.toBinary64).filter fun d' => d'.value = d.value).getD d

theorem rewritten_eq {d d' : Decimal} (h : ofBinary64? d.toBinary64 = some d')
    (hvalue : d'.value = d.value) : d.rewritten = d' := by
  rw [rewritten, h, Option.filter_some, if_pos (by simpa using hvalue), Option.getD_some]

theorem sameNumber_rewritten : SameNumber rewritten := by
  intro d
  cases h : (ofBinary64? d.toBinary64).filter fun d' => d'.value = d.value with
  | none => rw [rewritten, h, Option.getD_none]
  | some d' =>
    rw [rewritten, h, Option.getD_some]
    exact of_decide_eq_true (Option.filter_eq_some_iff.1 h).2

/-- A zero is the same number with and without a sign. -/
theorem sameNumber_withoutZeroSign : SameNumber withoutZeroSign := by
  intro d
  cases hzero : d.isZero with
  | false => simp [withoutZeroSign, hzero]
  | true =>
    have hmantissa : d.mantissa = 0 := by simpa [isZero] using hzero
    simp [value, signed, withoutZeroSign, hmantissa]

end Decimal

theorem returns_decimal :
    ReturnsAs decimal? Json.decimal Decimal.ComesBack Decimal.rewritten where
  read_write := by
    rintro v d - ⟨d', hread, hvalue⟩
    rw [Decimal.rewritten_eq hread hvalue]
    exact hread
  write_ne_null _ _ h := by cases h

/-! ## Requests -/

theorem Video.returns : Returns Video.read? Video.toJson := by
  refine .openRecord (by decide) (fun _ => rfl) fun {m m' other video} h _ => ?_
  simp only [bind_eq_some_iff] at h ⊢
  obtain ⟨mimes, hmimes, least, hleast, most, hmost, placement, hplacement, w, hw, height, hheight,
    heq⟩ := h
  cases heq
  refine ⟨rfl, fun hwritten => ?_⟩
  simp only [List.forall_mem_cons] at hwritten
  obtain ⟨hmimes', hleast', hmost', hplacement', hw', hheight', -⟩ := hwritten
  exact ⟨_, returns_string.withDefault_nonempty hmimes hmimes', _,
    returns_uint32.optional hleast hleast', _, returns_uint32.optional hmost hmost', _,
    returns_int32.optional hplacement hplacement', _, returns_uint32.optional hw hw', _,
    returns_uint32.optional hheight hheight', rfl⟩

def Imp.mapFloor (f : Decimal → Decimal) (i : Imp) : Imp := { i with bidFloor := i.bidFloor.map f }

theorem Imp.returns :
    ReturnsAs Imp.read? Imp.toJson (fun i => ∀ d ∈ i.bidFloor, d.ComesBack)
      (Imp.mapFloor Decimal.rewritten) := by
  refine .openRecord (by decide) (fun _ => rfl) fun {m m' other i} h hfloors => ?_
  simp only [bind_eq_some_iff] at h ⊢
  obtain ⟨id, hid, banner, hbanner, video, hvideo, audio, haudio, native, hnative, floor, hfloor,
    floorCur, hfloorCur, tag, htag, pmp, hpmp, ext, hext, heq⟩ := h
  cases heq
  refine ⟨rfl, fun hwritten => ?_⟩
  simp only [List.forall_mem_cons] at hwritten
  obtain ⟨hid', hbanner', hvideo', haudio', hnative', hfloor', hfloorCur', htag', hpmp', hext',
    -⟩ := hwritten
  exact ⟨_, returns_string.required hid hid', _, optional_value hbanner hbanner', _,
    Video.returns.optional hvideo hvideo', _, optional_value haudio haudio', _,
    optional_value hnative hnative', _, returns_decimal.optional hfloor hfloor' hfloors, _,
    returns_string.optional hfloorCur hfloorCur', _, returns_string.optional htag htag', _,
    optional_value hpmp hpmp', _, returns_object.optional hext hext', rfl⟩

/-- The request with other lowest prices, and with other factors and rates. -/
def BidRequest.mapDecimals (floor text : Decimal → Decimal) (r : BidRequest) : BidRequest :=
  { r with
    imps := r.imps.map (·.mapFloor floor)
    ext := r.ext.map (·.mapDecimals text) }

theorem BidRequest.returns :
    ReturnsAs BidRequest.read? BidRequest.toJson
      (fun r => ∀ imp ∈ r.imps, ∀ d ∈ imp.bidFloor, d.ComesBack)
      (BidRequest.mapDecimals Decimal.rewritten Decimal.withoutZeroSign) := by
  refine .openRecord (by decide) (fun _ => rfl) fun {m m' other r} h hfloors => ?_
  simp only [bind_eq_some_iff] at h ⊢
  obtain ⟨id, hid, imps, himps, site, hsite, app, happ, device, hdevice, user, huser, source,
    hsource, regs, hregs, test, htest, auction, hauction, tmax, htmax, cur, hcur, categories,
    hcategories, advertisers, hadvertisers, ext, hext, heq⟩ := h
  cases heq
  refine ⟨rfl, fun hwritten => ?_⟩
  simp only [List.forall_mem_cons] at hwritten
  obtain ⟨hid', himps', hsite', happ', hdevice', huser', hsource', hregs', htest', hauction',
    htmax', hcur', hcategories', hadvertisers', hext', -⟩ := hwritten
  exact ⟨_, returns_string.required hid hid', _,
    Imp.returns.list.withDefault himps himps' hfloors fun _ => rfl, _,
    Site.returns.optional hsite hsite', _, App.returns.optional happ happ', _,
    optional_value hdevice hdevice', _, User.returns.optional huser huser', _,
    Source.returns.optional hsource hsource', _, optional_value hregs hregs', _,
    returns_int32.optional htest htest', _, returns_int32.optional hauction hauction', _,
    returns_uint64.optional htmax htmax', _, returns_strings.optional hcur hcur', _,
    returns_strings.optional hcategories hcategories', _,
    returns_strings.optional hadvertisers hadvertisers', _,
    RequestExt.returns.optional hext hext' fun _ _ => trivial, rfl⟩

/-! ## Responses -/

def WireBid.mapPrice (f : Decimal → Decimal) (b : WireBid) : WireBid :=
  { b with price := f b.price }

theorem WireBid.returns :
    ReturnsAs WireBid.read? WireBid.toJson (fun b => b.price.ComesBack)
      (WireBid.mapPrice Decimal.rewritten) := by
  refine .closedRecord (by decide) (fun _ => rfl) fun {m m' b} h hcomes hwritten => ?_
  simp only [bind_eq_some_iff] at h ⊢
  obtain ⟨id, hid, imp, himp, price, hprice, adm, hadm, nurl, hnurl, adid, hadid, adomain, hadomain,
    cid, hcid, crid, hcrid, cat, hcat, attr, hattr, deal, hdeal, dur, hdur, height, hheight, w, hw,
    ext, hext, heq⟩ := h
  cases heq
  simp only [List.forall_mem_cons] at hwritten
  obtain ⟨hid', himp', hprice', hadm', hnurl', hadid', hadomain', hcid', hcrid', hcat', hattr',
    hdeal', hdur', hheight', hw', hext', -⟩ := hwritten
  have hdefault : Decimal.zero.ComesBack →
      decimal? (Json.decimal .zero).raw = some Decimal.zero.rewritten :=
    returns_decimal.read_write (v := .string "0") rfl
  exact ⟨_, returns_string.withDefault hid hid' rfl, _, returns_string.withDefault himp himp' rfl,
    _, returns_decimal.withDefault hprice hprice' hcomes hdefault, _,
    returns_string.optional hadm hadm', _, returns_string.optional hnurl hnurl', _,
    returns_string.optional hadid hadid', _, returns_strings.optional hadomain hadomain', _,
    returns_string.optional hcid hcid', _, returns_string.optional hcrid hcrid', _,
    returns_strings.optional hcat hcat', _, returns_int32.list.optional hattr hattr', _,
    returns_string.optional hdeal hdeal', _, returns_uint32.optional hdur hdur', _,
    returns_uint32.optional hheight hheight', _, returns_uint32.optional hw hw', _,
    optional_value hext hext', rfl⟩

def SeatBid.mapPrices (f : Decimal → Decimal) (s : SeatBid) : SeatBid :=
  { s with bids := s.bids.map (·.mapPrice f) }

theorem SeatBid.returns :
    ReturnsAs SeatBid.read? SeatBid.toJson (fun s => ∀ bid ∈ s.bids, bid.price.ComesBack)
      (SeatBid.mapPrices Decimal.rewritten) := by
  refine .closedRecord (by decide) (fun _ => rfl) fun {m m' s} h hprices hwritten => ?_
  simp only [bind_eq_some_iff] at h ⊢
  obtain ⟨bids, hbids, seat, hseat, group, hgroup, heq⟩ := h
  cases heq
  simp only [List.forall_mem_cons] at hwritten
  obtain ⟨hbids', hseat', hgroup', -⟩ := hwritten
  exact ⟨_, WireBid.returns.list.withDefault hbids hbids' hprices fun _ => rfl, _,
    returns_string.optional hseat hseat', _, returns_int32.optional hgroup hgroup', rfl⟩

def BidResponse.mapPrices (f : Decimal → Decimal) (r : BidResponse) : BidResponse :=
  { r with seatBids := r.seatBids.map (·.mapPrices f) }

theorem BidResponse.returns :
    ReturnsAs BidResponse.read? BidResponse.toJson
      (fun r => ∀ seat ∈ r.seatBids, ∀ bid ∈ seat.bids, bid.price.ComesBack)
      (BidResponse.mapPrices Decimal.rewritten) := by
  refine .closedRecord (by decide) (fun _ => rfl) fun {m m' r} h hprices hwritten => ?_
  simp only [bind_eq_some_iff] at h ⊢
  obtain ⟨id, hid, seats, hseats, bidId, hbidId, cur, hcur, custom, hcustom, reason, hreason, ext,
    hext, heq⟩ := h
  cases heq
  simp only [List.forall_mem_cons] at hwritten
  obtain ⟨hid', hseats', hbidId', hcur', hcustom', hreason', hext', -⟩ := hwritten
  exact ⟨_, returns_string.required hid hid', _,
    SeatBid.returns.list.withDefault hseats hseats' hprices fun _ => rfl, _,
    returns_string.optional hbidId hbidId', _, returns_string.optional hcur hcur', _,
    returns_string.optional hcustom hcustom', _, returns_int32.optional hreason hreason', _,
    optional_value hext hext', rfl⟩

/-! ## The round trip -/

/-- What is read from a text comes back when it is written and read again: a request whose lowest
prices come back, a response whose prices come back, and a site, an app or a user in any case.
Decimals may change their form, but they stand for the same numbers.  Nothing else changes. -/
theorem read_toJson (v : RawJson) :
    (∀ r, BidRequest.read? v = some r →
      (∀ imp ∈ r.imps, ∀ d ∈ imp.bidFloor, d.ComesBack) →
      ∃ floor text, Decimal.SameNumber floor ∧ Decimal.SameNumber text ∧
        BidRequest.read? r.toJson.raw = some (r.mapDecimals floor text)) ∧
    (∀ r, BidResponse.read? v = some r →
      (∀ seat ∈ r.seatBids, ∀ bid ∈ seat.bids, bid.price.ComesBack) →
      ∃ price, Decimal.SameNumber price ∧
        BidResponse.read? r.toJson.raw = some (r.mapPrices price)) ∧
    (∀ s, Site.read? v = some s → Site.read? s.toJson.raw = some s) ∧
    (∀ a, App.read? v = some a → App.read? a.toJson.raw = some a) ∧
    (∀ u, User.read? v = some u → User.read? u.toJson.raw = some u) := by
  refine ⟨?_, ?_, ?_, ?_, ?_⟩
  · intro r hr hfloors
    exact ⟨_, _, Decimal.sameNumber_rewritten, Decimal.sameNumber_withoutZeroSign,
      BidRequest.returns.read_write hr hfloors⟩
  · intro r hr hprices
    exact ⟨_, Decimal.sameNumber_rewritten, BidResponse.returns.read_write hr hprices⟩
  · intro s hs
    exact Site.returns.read_write hs
  · intro a ha
    exact App.returns.read_write ha
  · intro u hu
    exact User.returns.read_write hu

/-- A text that reads as a request, as a response and as each section of a request. -/
def sharedText : RawJson :=
  .object
    [("id", .string "r"),
     ("imp", .array [.object [("id", .string "1"), ("bidfloor", .string "1.50")]]),
     ("seatbid", .array [.object [("bid", .array [.object [("price", .string "1.50")]])]]),
     ("keywords", .null), ("x", .object [("b", .null), ("a", .bool true), ("b", .bool false)]),
     ("ext", .object [("data", .object [("k", .string "v")])])]

/-- The price in the text is written with two places and comes back with one. -/
theorem comesBack_threeHalves : (Decimal.ofNat 150 2).ComesBack :=
  ⟨.ofNat 15 1, rfl, le_antisymm (Decimal.le_iff_value_le.1 (by decide))
    (Decimal.le_iff_value_le.1 (by decide))⟩

/-- What the text reads as comes back. -/
theorem read_toJson_sharedText :
    ∃ r b s a u, BidRequest.read? sharedText = some r ∧ BidResponse.read? sharedText = some b ∧
      Site.read? sharedText = some s ∧ App.read? sharedText = some a ∧
      User.read? sharedText = some u ∧
      r.imps.map (·.bidFloor) = [some (.ofNat 150 2)] ∧
      b.seatBids.map (·.bids.map (·.price)) = [[.ofNat 150 2]] ∧
      (∃ floor text, Decimal.SameNumber floor ∧ Decimal.SameNumber text ∧
        BidRequest.read? r.toJson.raw = some (r.mapDecimals floor text)) ∧
      (∃ price, Decimal.SameNumber price ∧
        BidResponse.read? b.toJson.raw = some (b.mapPrices price)) ∧
      Site.read? s.toJson.raw = some s ∧ App.read? a.toJson.raw = some a ∧
      User.read? u.toJson.raw = some u := by
  obtain ⟨hrequest, hresponse, hsite, happ, huser⟩ := read_toJson sharedText
  have hfloors : ∀ r : BidRequest, r.imps.map (·.bidFloor) = [some (.ofNat 150 2)] →
      ∀ imp ∈ r.imps, ∀ d ∈ imp.bidFloor, d.ComesBack := by
    intro r hr imp himp d hd
    have hmem : imp.bidFloor ∈ r.imps.map (·.bidFloor) := List.mem_map_of_mem himp
    rw [hr, List.mem_singleton] at hmem
    cases hmem.symm.trans hd
    exact comesBack_threeHalves
  have hprices : ∀ b : BidResponse, b.seatBids.map (·.bids.map (·.price)) = [[.ofNat 150 2]] →
      ∀ seat ∈ b.seatBids, ∀ bid ∈ seat.bids, bid.price.ComesBack := by
    intro b hb seat hseat bid hbid
    have hseats : seat.bids.map (·.price) ∈ b.seatBids.map (·.bids.map (·.price)) :=
      List.mem_map_of_mem hseat
    rw [hb, List.mem_singleton] at hseats
    have hmem : bid.price ∈ seat.bids.map (·.price) := List.mem_map_of_mem hbid
    rw [hseats, List.mem_singleton] at hmem
    rw [hmem]
    exact comesBack_threeHalves
  exact ⟨_, _, _, _, _, rfl, rfl, rfl, rfl, rfl, rfl, rfl, hrequest _ rfl (hfloors _ rfl),
    hresponse _ rfl (hprices _ rfl), hsite _ rfl, happ _ rfl, huser _ rfl⟩

/-- The binary number that is nearest to a decimal. -/
def Decimal.nearest64? (d : Decimal) : Option Binary64 :=
  Binary64.ofRatio? d.negative d.mantissa (10 ^ d.scale)

/-- A price that is not written as the nearest binary number, but as the one above it. -/
def unevenPrice : Decimal := .ofNat 3690244335654165 14

def unevenRequest : BidRequest where
  id := "r"
  imps := [{ id := "1", bidFloor := some unevenPrice }]

/-- That the nearest binary numbers would give back the prices is not enough for a request to come
back. -/
theorem read_toJson_not_of_nearest :
    ¬ ∀ v r, BidRequest.read? v = some r →
      (∀ imp ∈ r.imps, ∀ d ∈ imp.bidFloor,
        ∃ x, d.nearest64? = some x ∧ Decimal.ofBinary64? x = some d) →
      ∃ floor text, Decimal.SameNumber floor ∧ Decimal.SameNumber text ∧
        BidRequest.read? r.toJson.raw = some (r.mapDecimals floor text) := by
  intro h
  have hread : BidRequest.read? (.object [("id", .string "r"), ("imp", .array [.object
      [("id", .string "1"), ("bidfloor", .string "36.90244335654165")]])]) =
        some unevenRequest := rfl
  have hnearest : ∃ x, unevenPrice.nearest64? = some x ∧
      Decimal.ofBinary64? x = some unevenPrice :=
    Option.bind_eq_some_iff.1 (by decide +kernel)
  have hfloors : ∀ imp ∈ unevenRequest.imps, ∀ d ∈ imp.bidFloor,
      ∃ x, d.nearest64? = some x ∧ Decimal.ofBinary64? x = some d := by
    intro imp himp d hd
    cases List.mem_singleton.1 himp
    cases hd
    exact hnearest
  obtain ⟨floor, text, hfloor, -, hback⟩ := h _ _ hread hfloors
  have hgiven : (BidRequest.read? unevenRequest.toJson.raw).map (·.imps.map (·.bidFloor)) =
      some [some (.ofNat 3690244335654166 14)] := rfl
  rw [hback] at hgiven
  have hnumber : floor unevenPrice = .ofNat 3690244335654166 14 := by
    simpa [BidRequest.mapDecimals, Imp.mapFloor, unevenRequest] using hgiven
  have hvalue := hfloor unevenPrice
  rw [hnumber] at hvalue
  have hle : Decimal.ofNat 3690244335654166 14 ≤ unevenPrice :=
    Decimal.le_iff_value_le.2 (le_of_eq hvalue)
  exact absurd hle (by decide)

end AdExchange
