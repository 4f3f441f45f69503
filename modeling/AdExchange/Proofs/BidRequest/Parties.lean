import AdExchange.BidRequest.Parties
import AdExchange.Proofs.Json.RoundTrip

/-!
# Site, app and user come back

Each section is an open record.  Its fields come back because their types do, and the rest because
it is kept as it is.
-/

namespace AdExchange

open RawJson

theorem Content.returns : Returns Content.read? Content.toJson := by
  refine .openRecord (by decide) (fun _ => rfl) fun {m m' other c} h _ => ?_
  simp only [bind_eq_some_iff] at h ⊢
  obtain ⟨id, hid, data, hdata, heq⟩ := h
  cases heq
  refine ⟨rfl, fun hwritten => ?_⟩
  simp only [List.forall_mem_cons] at hwritten
  obtain ⟨hid', hdata', -⟩ := hwritten
  exact ⟨_, returns_string.optional hid hid', _, returns_values.optional hdata hdata', rfl⟩

theorem DataExt.returns : Returns DataExt.read? DataExt.toJson := by
  refine .openRecord (by decide) (fun _ => rfl) fun {m m' other e} h _ => ?_
  simp only [bind_eq_some_iff] at h ⊢
  obtain ⟨data, hdata, heq⟩ := h
  cases heq
  refine ⟨rfl, fun hwritten => ?_⟩
  simp only [List.forall_mem_cons] at hwritten
  obtain ⟨hdata', -⟩ := hwritten
  exact ⟨_, optional_value hdata hdata', rfl⟩

theorem Site.returns : Returns Site.read? Site.toJson := by
  refine .openRecord (by decide) (fun _ => rfl) fun {m m' other s} h _ => ?_
  simp only [bind_eq_some_iff] at h ⊢
  obtain ⟨id, hid, name, hname, domain, hdomain, page, hpage, publisher, hpublisher, content,
    hcontent, keywords, hkeywords, ext, hext, heq⟩ := h
  cases heq
  refine ⟨rfl, fun hwritten => ?_⟩
  simp only [List.forall_mem_cons] at hwritten
  obtain ⟨hid', hname', hdomain', hpage', hpublisher', hcontent', hkeywords', hext', -⟩ := hwritten
  exact ⟨_, returns_string.optional hid hid', _, returns_string.optional hname hname', _,
    returns_string.optional hdomain hdomain', _, returns_string.optional hpage hpage', _,
    optional_value hpublisher hpublisher', _, Content.returns.optional hcontent hcontent', _,
    returns_string.optional hkeywords hkeywords', _, DataExt.returns.optional hext hext', rfl⟩

theorem App.returns : Returns App.read? App.toJson := by
  refine .openRecord (by decide) (fun _ => rfl) fun {m m' other a} h _ => ?_
  simp only [bind_eq_some_iff] at h ⊢
  obtain ⟨id, hid, name, hname, bundle, hbundle, publisher, hpublisher, content, hcontent, keywords,
    hkeywords, ext, hext, heq⟩ := h
  cases heq
  refine ⟨rfl, fun hwritten => ?_⟩
  simp only [List.forall_mem_cons] at hwritten
  obtain ⟨hid', hname', hbundle', hpublisher', hcontent', hkeywords', hext', -⟩ := hwritten
  exact ⟨_, returns_string.optional hid hid', _, returns_string.optional hname hname', _,
    returns_string.optional hbundle hbundle', _, optional_value hpublisher hpublisher', _,
    Content.returns.optional hcontent hcontent', _, returns_string.optional hkeywords hkeywords', _,
    DataExt.returns.optional hext hext', rfl⟩

theorem Eid.returns : Returns Eid.read? Eid.toJson := by
  refine .openRecord (by decide) (fun _ => rfl) fun {m m' other e} h _ => ?_
  simp only [bind_eq_some_iff] at h ⊢
  obtain ⟨source, hsource, uids, huids, heq⟩ := h
  cases heq
  refine ⟨rfl, fun hwritten => ?_⟩
  simp only [List.forall_mem_cons] at hwritten
  obtain ⟨hsource', huids', -⟩ := hwritten
  have hwritten : List.lookup "uids" m' = (Json.nonempty? (uids.map id)).map Json.raw := by
    rwa [List.map_id]
  exact ⟨_, returns_string.required hsource hsource', _,
    returns_value.withDefault_nonempty huids hwritten, rfl⟩

theorem UserExt.returns : Returns UserExt.read? UserExt.toJson := by
  refine .openRecord (by decide) (fun _ => rfl) fun {m m' other e} h _ => ?_
  simp only [bind_eq_some_iff] at h ⊢
  obtain ⟨data, hdata, eids, heids, heq⟩ := h
  cases heq
  refine ⟨rfl, fun hwritten => ?_⟩
  simp only [List.forall_mem_cons] at hwritten
  obtain ⟨hdata', heids', -⟩ := hwritten
  exact ⟨_, optional_value hdata hdata', _, Eid.returns.list.optional heids heids', rfl⟩

theorem User.returns : Returns User.read? User.toJson := by
  refine .openRecord (by decide) (fun _ => rfl) fun {m m' other u} h _ => ?_
  simp only [bind_eq_some_iff] at h ⊢
  obtain ⟨id, hid, buyerUid, hbuyerUid, yearOfBirth, hyearOfBirth, gender, hgender, keywords,
    hkeywords, geo, hgeo, data, hdata, ext, hext, heq⟩ := h
  cases heq
  refine ⟨rfl, fun hwritten => ?_⟩
  simp only [List.forall_mem_cons] at hwritten
  obtain ⟨hid', hbuyerUid', hyearOfBirth', hgender', hkeywords', hgeo', hdata', hext', -⟩ :=
    hwritten
  exact ⟨_, returns_string.optional hid hid', _, returns_string.optional hbuyerUid hbuyerUid', _,
    returns_int32.optional hyearOfBirth hyearOfBirth', _, returns_string.optional hgender hgender',
    _, returns_string.optional hkeywords hkeywords', _, optional_value hgeo hgeo', _,
    returns_values.optional hdata hdata', _, UserExt.returns.optional hext hext', rfl⟩

end AdExchange
