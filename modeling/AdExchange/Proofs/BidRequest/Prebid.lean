import AdExchange.BidRequest.Prebid
import AdExchange.Proofs.Decimal.Text
import AdExchange.Proofs.Json.RoundTrip

/-!
# Source and auction controls come back

Price factors and currency rates are decimals that are written as texts.  All their digits and
places come back; of a zero the sign does not.  Everything else comes back as it is.
-/

namespace AdExchange

open RawJson

/-! ## The source of a request -/

theorem SupplyChainNode.returns : Returns SupplyChainNode.read? SupplyChainNode.toJson := by
  refine .closedRecord (by decide) (fun _ => rfl) fun {m m' n} h _ hwritten => ?_
  simp only [bind_eq_some_iff] at h ⊢
  obtain ⟨asi, hasi, sid, hsid, hp, hhp, rid, hrid, name, hname, domain, hdomain, ext, hext, heq⟩ :=
    h
  cases heq
  simp only [List.forall_mem_cons] at hwritten
  obtain ⟨hasi', hsid', hhp', hrid', hname', hdomain', hext', -⟩ := hwritten
  exact ⟨_, returns_string.required hasi hasi', _, returns_string.required hsid hsid', _,
    returns_int32.optional hhp hhp', _, returns_string.optional hrid hrid', _,
    returns_string.optional hname hname', _, returns_string.optional hdomain hdomain', _,
    optional_value hext hext', rfl⟩

theorem SupplyChain.returns : Returns SupplyChain.read? SupplyChain.toJson := by
  refine .closedRecord (by decide) (fun _ => rfl) fun {m m' c} h _ hwritten => ?_
  simp only [bind_eq_some_iff] at h ⊢
  obtain ⟨ver, hver, complete, hcomplete, nodes, hnodes, ext, hext, heq⟩ := h
  cases heq
  simp only [List.forall_mem_cons] at hwritten
  obtain ⟨hver', hcomplete', hnodes', hext', -⟩ := hwritten
  exact ⟨_, returns_string.required hver hver', _, returns_int32.required hcomplete hcomplete', _,
    SupplyChainNode.returns.list.withDefault hnodes hnodes' rfl, _, optional_value hext hext', rfl⟩

theorem SourceExt.returns : Returns SourceExt.read? SourceExt.toJson := by
  refine .openRecord (by decide) (fun _ => rfl) fun {m m' other e} h _ => ?_
  simp only [bind_eq_some_iff] at h ⊢
  obtain ⟨schain, hschain, heq⟩ := h
  cases heq
  refine ⟨rfl, fun hwritten => ?_⟩
  simp only [List.forall_mem_cons] at hwritten
  obtain ⟨hschain', -⟩ := hwritten
  exact ⟨_, SupplyChain.returns.optional hschain hschain', rfl⟩

theorem Source.returns : Returns Source.read? Source.toJson := by
  refine .closedRecord (by decide) (fun _ => rfl) fun {m m' s} h _ hwritten => ?_
  simp only [bind_eq_some_iff] at h ⊢
  obtain ⟨fd, hfd, tid, htid, pchain, hpchain, ext, hext, heq⟩ := h
  cases heq
  simp only [List.forall_mem_cons] at hwritten
  obtain ⟨hfd', htid', hpchain', hext', -⟩ := hwritten
  exact ⟨_, returns_int32.optional hfd hfd', _, returns_string.optional htid htid', _,
    returns_string.optional hpchain hpchain', _, SourceExt.returns.optional hext hext', rfl⟩

/-! ## Targeting and permissions -/

theorem MediaGranularities.returns :
    Returns MediaGranularities.read? MediaGranularities.toJson := by
  refine .closedRecord (by decide) (fun _ => rfl) fun {m m' g} h _ hwritten => ?_
  simp only [bind_eq_some_iff] at h ⊢
  obtain ⟨banner, hbanner, video, hvideo, native, hnative, heq⟩ := h
  cases heq
  simp only [List.forall_mem_cons] at hwritten
  obtain ⟨hbanner', hvideo', hnative', -⟩ := hwritten
  exact ⟨_, optional_value hbanner hbanner', _, optional_value hvideo hvideo', _,
    optional_value hnative hnative', rfl⟩

theorem BrandCategory.returns : Returns BrandCategory.read? BrandCategory.toJson := by
  refine .closedRecord (by decide) (fun _ => rfl) fun {m m' b} h _ hwritten => ?_
  simp only [bind_eq_some_iff] at h ⊢
  obtain ⟨primaryAdServer, hprimaryAdServer, publisher, hpublisher, withCategory, hwithCategory,
    translateCategories, htranslateCategories, heq⟩ := h
  cases heq
  simp only [List.forall_mem_cons] at hwritten
  obtain ⟨hprimaryAdServer', hpublisher', hwithCategory', htranslateCategories', -⟩ := hwritten
  exact ⟨_, returns_int32.optional hprimaryAdServer hprimaryAdServer', _,
    returns_string.optional hpublisher hpublisher', _,
    returns_bool.optional hwithCategory hwithCategory', _,
    returns_bool.optional htranslateCategories htranslateCategories', rfl⟩

theorem Targeting.returns : Returns Targeting.read? Targeting.toJson := by
  refine .closedRecord (by decide) (fun _ => rfl) fun {m m' t} h _ hwritten => ?_
  simp only [bind_eq_some_iff] at h ⊢
  obtain ⟨priceGranularity, hpriceGranularity, mediaTypes, hmediaTypes, brand, hbrand, durations,
    hdurations, winners, hwinners, bidderKeys, hbidderKeys, heq⟩ := h
  cases heq
  simp only [List.forall_mem_cons] at hwritten
  obtain ⟨hpriceGranularity', hmediaTypes', hbrand', hdurations', hwinners', hbidderKeys', -⟩ :=
    hwritten
  exact ⟨_, optional_value hpriceGranularity hpriceGranularity', _,
    MediaGranularities.returns.optional hmediaTypes hmediaTypes', _,
    BrandCategory.returns.optional hbrand hbrand', _,
    returns_uint32.list.optional hdurations hdurations', _,
    returns_bool.optional hwinners hwinners', _, returns_bool.optional hbidderKeys hbidderKeys',
    rfl⟩

theorem EidPermission.returns : Returns EidPermission.read? EidPermission.toJson := by
  refine .closedRecord (by decide) (fun _ => rfl) fun {m m' p} h _ hwritten => ?_
  simp only [bind_eq_some_iff] at h ⊢
  obtain ⟨source, hsource, bidders, hbidders, heq⟩ := h
  cases heq
  simp only [List.forall_mem_cons] at hwritten
  obtain ⟨hsource', hbidders', -⟩ := hwritten
  exact ⟨_, returns_string.required hsource hsource', _,
    returns_strings.withDefault hbidders hbidders' rfl, rfl⟩

theorem DataPermissions.returns : Returns DataPermissions.read? DataPermissions.toJson := by
  refine .closedRecord (by decide) (fun _ => rfl) fun {m m' d} h _ hwritten => ?_
  simp only [bind_eq_some_iff] at h ⊢
  obtain ⟨bidders, hbidders, eids, heids, heq⟩ := h
  cases heq
  simp only [List.forall_mem_cons] at hwritten
  obtain ⟨hbidders', heids', -⟩ := hwritten
  exact ⟨_, returns_strings.optional hbidders hbidders', _,
    EidPermission.returns.list.optional heids heids', rfl⟩

/-! ## Settings for lists of bidders -/

theorem SchainEntry.returns : Returns SchainEntry.read? SchainEntry.toJson := by
  refine .closedRecord (by decide) (fun _ => rfl) fun {m m' e} h _ hwritten => ?_
  simp only [bind_eq_some_iff] at h ⊢
  obtain ⟨bidders, hbidders, schain, hschain, heq⟩ := h
  cases heq
  simp only [List.forall_mem_cons] at hwritten
  obtain ⟨hbidders', hschain', -⟩ := hwritten
  exact ⟨_, returns_strings.withDefault hbidders hbidders' rfl, _,
    SupplyChain.returns.required hschain hschain', rfl⟩

theorem MultiBidDeclaration.returns :
    Returns MultiBidDeclaration.read? MultiBidDeclaration.toJson := by
  refine .closedRecord (by decide) (fun _ => rfl) fun {m m' d} h _ hwritten => ?_
  simp only [bind_eq_some_iff] at h ⊢
  obtain ⟨bidder, hbidder, bidders, hbidders, maxBids, hmaxBids, codePrefix, hcodePrefix, heq⟩ := h
  cases heq
  simp only [List.forall_mem_cons] at hwritten
  obtain ⟨hbidder', hbidders', hmaxBids', hcodePrefix', -⟩ := hwritten
  exact ⟨_, returns_string.optional hbidder hbidder', _,
    returns_strings.optional hbidders hbidders', _, returns_uint32.optional hmaxBids hmaxBids', _,
    returns_string.optional hcodePrefix hcodePrefix', rfl⟩

theorem OrtbFragments.returns : Returns OrtbFragments.read? OrtbFragments.toJson := by
  refine .closedRecord (by decide) (fun _ => rfl) fun {m m' f} h _ hwritten => ?_
  simp only [bind_eq_some_iff] at h ⊢
  obtain ⟨site, hsite, app, happ, user, huser, heq⟩ := h
  cases heq
  simp only [List.forall_mem_cons] at hwritten
  obtain ⟨hsite', happ', huser', -⟩ := hwritten
  exact ⟨_, optional_value hsite hsite', _, optional_value happ happ', _,
    optional_value huser huser', rfl⟩

theorem BidderConfig.returns : Returns BidderConfig.read? BidderConfig.toJson := by
  refine .closedRecord (by decide) (fun _ => rfl) fun {m m' c} h _ hwritten => ?_
  simp only [bind_eq_some_iff] at h ⊢
  obtain ⟨ortb2, hortb2, heq⟩ := h
  cases heq
  simp only [List.forall_mem_cons] at hwritten
  obtain ⟨hortb2', -⟩ := hwritten
  exact ⟨_, OrtbFragments.returns.optional hortb2 hortb2', rfl⟩

theorem BidderConfigEntry.returns : Returns BidderConfigEntry.read? BidderConfigEntry.toJson := by
  refine .closedRecord (by decide) (fun _ => rfl) fun {m m' e} h _ hwritten => ?_
  simp only [bind_eq_some_iff] at h ⊢
  obtain ⟨bidders, hbidders, config, hconfig, heq⟩ := h
  cases heq
  simp only [List.forall_mem_cons] at hwritten
  obtain ⟨hbidders', hconfig', -⟩ := hwritten
  exact ⟨_, returns_strings.withDefault hbidders hbidders' rfl, _,
    BidderConfig.returns.required hconfig hconfig', rfl⟩

/-! ## Decimals that are written as texts -/

theorem returns_decimalText :
    ReturnsAs decimal? (fun x => .string x.toText) (fun _ => True) Decimal.withoutZeroSign where
  read_write _ _ := Decimal.parse?_toText _
  write_ne_null _ _ h := by cases h

theorem returns_decimals :
    ReturnsAs (dictionary? decimal?) Json.decimals (fun _ => True)
      (·.mapValues Decimal.withoutZeroSign) :=
  (ReturnsAs.dictionary returns_decimalText).congr (fun _ _ _ _ => trivial) fun _ _ => rfl

theorem Rates.returns :
    ReturnsAs Rates.read? Rates.toJson (fun _ => True)
      (·.mapValues (·.mapValues Decimal.withoutZeroSign)) :=
  (ReturnsAs.dictionary returns_decimals).congr (fun _ _ _ _ => trivial) fun _ _ => rfl

/-- Other decimals in the place of the factors. -/
def AdjustmentFactors.mapDecimals (f : Decimal → Decimal) (a : AdjustmentFactors) :
    AdjustmentFactors where
  mediaTypes := a.mediaTypes.map (·.map fun e => (e.1, e.2.mapValues f))
  factors := a.factors.mapValues f

def CurrencyExt.mapDecimals (f : Decimal → Decimal) (c : CurrencyExt) : CurrencyExt :=
  { c with rates := c.rates.map (·.mapValues (·.mapValues f)) }

/-- Other decimals in the place of the factors and the rates. -/
def PrebidExt.mapDecimals (f : Decimal → Decimal) (p : PrebidExt) : PrebidExt :=
  { p with
    adjustmentFactors := p.adjustmentFactors.map (·.mapDecimals f)
    currency := p.currency.map (·.mapDecimals f) }

def RequestExt.mapDecimals (f : Decimal → Decimal) (e : RequestExt) : RequestExt :=
  { e with prebid := e.prebid.map (·.mapDecimals f) }

namespace AdjustmentMedia

theorem name_of_ofName? {name : String} {m : AdjustmentMedia} (h : ofName? name = some m) :
    m.name = name := by
  unfold ofName? at h
  split at h <;> cases h <;> rfl

end AdjustmentMedia

namespace AdjustmentFactors

/-- Factors per medium are written under the names of the media. -/
theorem returns_mediaTypes :
    ReturnsAs readMediaTypes?
      (fun entries => Json.dictionary Json.decimals (entries.map fun e => (e.1.name, e.2)))
      (fun _ => True) (·.map fun e => (e.1, e.2.mapValues Decimal.withoutZeroSign)) where
  read_write := by
    intro v entries h _
    simp only [readMediaTypes?, bind_eq_some_iff] at h ⊢
    obtain ⟨byName, hbyName, hentries⟩ := h
    have hnames : byName = entries.map fun e => (e.1.name, e.2) := by
      have hsame := mapM_eq_some_iff.1 hentries
      refine (List.map_id byName).symm.trans (map_eq_of_forall₂ hsame ?_).symm
      intro e entry he
      obtain ⟨m, hm, rfl⟩ := Option.map_eq_some_iff.1 he
      rw [id, AdjustmentMedia.name_of_ofName? hm]
    subst hnames
    refine ⟨_, Rates.returns.read_write hbyName trivial, ?_⟩
    rw [mapM_eq_some_iff]
    simp only [Dictionary.mapValues]
    rw [List.map_map, List.forall₂_map_left_iff, List.forall₂_map_right_iff, List.forall₂_same]
    intro e _
    simp
  write_ne_null _ _ h := by cases h

theorem returns :
    ReturnsAs read? toJson (fun _ => True) (mapDecimals Decimal.withoutZeroSign) where
  read_write := by
    intro v a h _
    simp only [read?, bind_eq_some_iff] at h ⊢
    obtain ⟨⟨m, rest⟩, hm, media, hmedia, factors, hfactors, heq⟩ := h
    cases heq
    -- The other members are decimals and not values, so this is not read as an open record.
    obtain ⟨hordered, hkeys⟩ := keys_of_dictionary? hfactors
    have hapart : ∀ e ∈ factors.mapValues (fun x => Json.string x.toText),
        e.1 ∉ ["mediatypes"] := by
      intro e he
      obtain ⟨factor, hfactor, rfl⟩ := List.mem_map.1 he
      obtain ⟨member, hmember, hkey⟩ := hkeys factor hfactor
      rw [← hkey]
      exact unknown_of_splitRecord? hm member hmember
    obtain ⟨m', hm', hwritten⟩ := splitRecord?_written
      [("mediatypes", media.map fun entries =>
        Json.dictionary Json.decimals (entries.map fun e => (e.1.name, e.2)))]
      rfl (List.nodup_singleton _) (hordered.mapValues _) hapart
    simp only [List.forall_mem_cons] at hwritten
    obtain ⟨hmedia', -⟩ := hwritten
    exact ⟨_, hm', _, returns_mediaTypes.optional hmedia hmedia' fun _ _ => trivial, _,
      returns_decimals.read_write hfactors trivial, rfl⟩
  write_ne_null _ _ h := by cases h

end AdjustmentFactors

theorem CurrencyExt.returns :
    ReturnsAs CurrencyExt.read? CurrencyExt.toJson (fun _ => True)
      (CurrencyExt.mapDecimals Decimal.withoutZeroSign) := by
  refine .closedRecord (by decide) (fun _ => rfl) fun {m m' c} h _ hwritten => ?_
  simp only [bind_eq_some_iff] at h ⊢
  obtain ⟨rates, hrates, useExchangeRates, huse, heq⟩ := h
  cases heq
  simp only [List.forall_mem_cons] at hwritten
  obtain ⟨hrates', huse', -⟩ := hwritten
  exact ⟨_, Rates.returns.optional hrates hrates' fun _ _ => trivial, _,
    returns_bool.optional huse huse', rfl⟩

/-! ## The controls -/

theorem PrebidExt.returns :
    ReturnsAs PrebidExt.read? PrebidExt.toJson (fun _ => True)
      (PrebidExt.mapDecimals Decimal.withoutZeroSign) := by
  refine .openRecord (by decide) (fun _ => rfl) fun {m m' other p} h _ => ?_
  simp only [bind_eq_some_iff] at h ⊢
  obtain ⟨aliases, haliases, factors, hfactors, currency, hcurrency, targeting, htargeting, cache,
    hcache, data, hdata, schains, hschains, multibid, hmultibid, configs, hconfigs, bidders,
    hbidders, debug, hdebug, heq⟩ := h
  cases heq
  refine ⟨rfl, fun hwritten => ?_⟩
  simp only [List.forall_mem_cons] at hwritten
  obtain ⟨haliases', hfactors', hcurrency', htargeting', hcache', hdata', hschains', hmultibid',
    hconfigs', hbidders', hdebug', -⟩ := hwritten
  exact ⟨_, returns_string.dictionary.optional haliases haliases', _,
    AdjustmentFactors.returns.optional hfactors hfactors' fun _ _ => trivial, _,
    CurrencyExt.returns.optional hcurrency hcurrency' fun _ _ => trivial, _,
    Targeting.returns.optional htargeting htargeting', _, optional_value hcache hcache', _,
    DataPermissions.returns.optional hdata hdata', _,
    SchainEntry.returns.list.optional hschains hschains', _,
    MultiBidDeclaration.returns.list.optional hmultibid hmultibid', _,
    BidderConfigEntry.returns.list.optional hconfigs hconfigs', _,
    returns_object.optional hbidders hbidders', _, returns_int32.optional hdebug hdebug', rfl⟩

theorem RequestExt.returns :
    ReturnsAs RequestExt.read? RequestExt.toJson (fun _ => True)
      (RequestExt.mapDecimals Decimal.withoutZeroSign) := by
  refine .openRecord (List.nodup_singleton _) (fun _ => rfl) fun {m m' other e} h _ => ?_
  simp only [bind_eq_some_iff] at h ⊢
  obtain ⟨prebid, hprebid, heq⟩ := h
  cases heq
  refine ⟨rfl, fun hwritten => ?_⟩
  simp only [List.forall_mem_cons] at hwritten
  obtain ⟨hprebid', -⟩ := hwritten
  exact ⟨_, PrebidExt.returns.optional hprebid hprebid' fun _ _ => trivial, rfl⟩

end AdExchange
