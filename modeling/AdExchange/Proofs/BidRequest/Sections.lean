import AdExchange.Proofs.BidRequest.Parties

/-!
# Sections are read member by member

Site, app and user are open records.  Each of their members is read and written by itself: where
other members are changed in what is written, it is still read as it was, and written so again.
-/

namespace AdExchange

open RawJson

variable {α : Type} {read : RawJson → Option α} {write : α → Json} {blank : α}

/-! ## Members that are written as before -/

/-- The laws of a section: it comes back, an empty object is read as a section without members, and
a member that is written as before stays so, whatever is read beside it. -/
structure SectionLaws (read : RawJson → Option α) (write : α → Json) (blank : α) : Prop where
  returns : Returns read write
  object : ∀ a, ∃ fields : Dictionary Json, write a = .object fields ∧ fields.Ordered
  read_blank : read (.object []) = some blank
  write_blank : write blank = .object []
  keeps : ∀ {v a} {d : Dictionary Json} {b key}, read v = some a → d.Ordered →
    read (Json.object d).raw = some b → Dictionary.get? d key = (write a).get? key →
    (write b).get? key = (write a).get? key

/-- A member whose value is that of a dictionary. -/
theorem get?_of_memberValues? {members : List (String × RawJson)}
    {fields : List (String × Json)} (h : memberValues? members = some fields) (key : String) :
    Dictionary.get? fields key = (List.lookup key members).bind value? := by
  induction members generalizing fields with
  | nil =>
    cases h
    rfl
  | cons e rest ih =>
    obtain ⟨k, v⟩ := e
    simp only [memberValues?, bind_eq_some_iff] at h
    obtain ⟨value, hvalue, tail, htail, heq⟩ := h
    cases heq
    rw [Dictionary.get?_cons, ih htail, List.lookup_cons]
    by_cases hkey : key = k
    · rw [if_pos hkey, beq_iff_eq.2 hkey, Option.bind_some, hvalue]
    · rw [if_neg hkey, beq_eq_false_iff_ne.2 hkey]

/-- The known fields and the others of a dictionary that is read. -/
theorem openRecord?_raw {d : Dictionary Json} {names : List String} {m : Members}
    {others : Dictionary Json} (hd : d.Ordered)
    (h : (Json.object d).raw.openRecord? names = some (m, others)) :
    (∀ name ∈ names, List.lookup name m = (d.get? name).map Json.raw) ∧
    ∀ key, key ∉ names → Dictionary.get? others key = (d.get? key).bind (·.raw.value?) := by
  simp only [openRecord?, splitRecord?_raw hd, Option.bind_eq_bind, Option.bind_some,
    Option.bind_eq_some_iff] at h
  obtain ⟨values, hvalues, heq⟩ := h
  cases heq
  constructor
  · intro name hname
    exact lookup_filter_rawFields d hname
  · intro key hkey
    have hleft : Dictionary.Ordered (d.filter fun e => !names.contains e.1) := hd.filter _
    have hkeys : (values.map (·.1)).Nodup := by
      rw [keys_of_memberValues? hvalues, Json.rawFields_eq_mapValues]
      exact (hleft.mapValues Json.raw).nodup_keys
    have hlookup : List.lookup key (Json.rawFields (d.filter fun e => !names.contains e.1)) =
        (d.get? key).map Json.raw := by
      rw [Json.rawFields_eq_mapValues]
      change Dictionary.get? _ key = _
      rw [Dictionary.get?_mapValues, Dictionary.get?_filter d (!names.contains ·), if_pos]
      simpa using hkey
    rw [Dictionary.get?_ofList_of_nodup hkeys, get?_of_memberValues? hvalues, hlookup,
      Option.bind_map]
    rfl

section Records

variable {fields : List (String × Option Json)} {others : Dictionary Json} {key : String}

/-- What is no field of a record is one of its others. -/
theorem Json.get?_openRecord_other (hfields : (fields.map (·.1)).Nodup) (hothers : others.Ordered)
    (hapart : ∀ e ∈ others, e.1 ∉ fields.map (·.1)) (hkey : key ∉ fields.map (·.1)) :
    (Json.openRecord fields others).get? key = Dictionary.get? others key := by
  conv_rhs => rw [← Json.filter_openRecord hfields hothers hapart]
  rw [Dictionary.get?_filter _ fun key => !(fields.map (·.1)).contains key,
    if_pos (by simpa using hkey)]
  rfl

end Records

/-- The laws hold of an open record if each of its fields is read by itself: it is what it was if it
is found as it was written. -/
theorem SectionLaws.openRecord {names : List String}
    {fields : Members × Dictionary Json → Option α} {entries : α → List (String × Option Json)}
    {others : α → Dictionary Json} (hnodup : names.Nodup)
    (hnames : ∀ a, (entries a).map (·.1) = names)
    (hreturns : Returns (fun v => v.openRecord? names >>= fields)
      fun a => .openRecord (entries a) (others a))
    (hread : fields ([], []) = some blank)
    (hwrite : Json.openRecord (entries blank) (others blank) = .object [])
    (hfields : ∀ {m rest a m' rest' b}, fields (m, rest) = some a → fields (m', rest') = some b →
      others a = rest ∧ others b = rest' ∧ List.Forall₂
        (fun f g => List.lookup f.1 m' = f.2.map Json.raw → g = f) (entries a) (entries b)) :
    SectionLaws (fun v => v.openRecord? names >>= fields)
      (fun a => .openRecord (entries a) (others a)) blank where
  returns := hreturns
  object a := ⟨_, rfl, .ofList _⟩
  read_blank := by
    have hopen : (RawJson.object []).openRecord? names = some ([], []) := by
      simp [openRecord?, splitRecord?, noneRepeated, memberValues?, Dictionary.ofList]
    rw [hopen]
    exact hread
  write_blank := hwrite
  keeps := by
    intro v a d b key ha hd hb hkey
    obtain ⟨⟨m, rest⟩, hm, ha⟩ := bind_eq_some_iff.1 ha
    obtain ⟨⟨m', rest'⟩, hm', hb⟩ := bind_eq_some_iff.1 hb
    obtain ⟨hrest, hrest', hsame⟩ := hfields ha hb
    obtain ⟨hothers, hapart, hcanonical⟩ := others_of_openRecord? hm
    obtain ⟨hothers', hapart', -⟩ := others_of_openRecord? hm'
    obtain ⟨hlookup, hget⟩ := openRecord?_raw hd hm'
    rw [← hrest] at hothers hapart hcanonical
    rw [← hrest'] at hothers' hapart' hget
    rw [← hnames a] at hnodup hapart hlookup hget
    have hnodup' : ((entries b).map (·.1)).Nodup := by rwa [hnames b, ← hnames a]
    have hapart'' : ∀ e ∈ others b, e.1 ∉ (entries b).map (·.1) := by rwa [hnames b]
    -- A field that is found as it was written is read as it was.  What is no field has not been
    -- read: it is found among the others, and kept as it is found.
    by_cases hknown : key ∈ (entries a).map (·.1)
    · obtain ⟨f, hf, rfl⟩ := List.mem_map.1 hknown
      have hvalue : (Json.openRecord (entries a) (others a)).get? f.1 = f.2 :=
        Json.get?_openRecord_field hnodup hothers hapart hf
      have hfound : List.lookup f.1 m' = f.2.map Json.raw := by
        rw [hlookup f.1 hknown, hkey, hvalue]
      obtain ⟨g, hg, hfg⟩ := exists_of_mem_left hsame hf
      obtain rfl := hfg hfound
      rw [hvalue]
      exact Json.get?_openRecord_field hnodup' hothers' hapart'' hg
    · have hknown' : key ∉ (entries b).map (·.1) := by rwa [hnames b, ← hnames a]
      rw [Json.get?_openRecord_other hnodup hothers hapart hknown] at hkey ⊢
      rw [Json.get?_openRecord_other hnodup' hothers' hapart'' hknown', hget key hknown, hkey]
      cases hv : Dictionary.get? (others a) key with
      | none => rfl
      | some w =>
        have hw : w.Canonical :=
          Json.canonicalFields_iff.1 hcanonical _ (Dictionary.mem_of_get?_eq_some hv)
        rw [Option.bind_some, Json.value?_raw hw]

/-! ## The sections -/

section Entries

variable {m m' : Members} {name : String}

/-- A field that is found as it was written is what it was. -/
theorem Returns.entry_eq (h : Returns read write) {x x' : Option α}
    (hread : m.optional? name read = some x) (hread' : m'.optional? name read = some x')
    (hwritten : List.lookup name m' = (x.map write).map Json.raw) :
    (name, x'.map write) = (name, x.map write) := by
  have hback := h.optional hread hwritten
  rw [hread', Option.some.injEq] at hback
  rw [hback]

theorem value_entry_eq {x x' : Option Json} (hread : m.optional? name value? = some x)
    (hread' : m'.optional? name value? = some x')
    (hwritten : List.lookup name m' = x.map Json.raw) : (name, x') = (name, x) := by
  have hback := optional_value hread hwritten
  rw [hread', Option.some.injEq] at hback
  rw [hback]

end Entries

theorem Site.laws : SectionLaws Site.read? Site.toJson {} := by
  refine .openRecord (by decide) (fun _ => rfl) Site.returns rfl rfl
    fun {m rest s m' rest' s'} h h' => ?_
  simp only [bind_eq_some_iff] at h h'
  obtain ⟨id, hid, name, hname, domain, hdomain, page, hpage, publisher, hpublisher, content,
    hcontent, keywords, hkeywords, ext, hext, heq⟩ := h
  obtain ⟨id', hid', name', hname', domain', hdomain', page', hpage', publisher', hpublisher',
    content', hcontent', keywords', hkeywords', ext', hext', heq'⟩ := h'
  cases heq
  cases heq'
  refine ⟨rfl, rfl, ?_⟩
  exact .cons (returns_string.entry_eq hid hid') <| .cons (returns_string.entry_eq hname hname') <|
    .cons (returns_string.entry_eq hdomain hdomain') <|
    .cons (returns_string.entry_eq hpage hpage') <|
    .cons (value_entry_eq hpublisher hpublisher') <|
    .cons (Content.returns.entry_eq hcontent hcontent') <|
    .cons (returns_string.entry_eq hkeywords hkeywords') <|
    .cons (DataExt.returns.entry_eq hext hext') .nil

theorem App.laws : SectionLaws App.read? App.toJson {} := by
  refine .openRecord (by decide) (fun _ => rfl) App.returns rfl rfl
    fun {m rest a m' rest' a'} h h' => ?_
  simp only [bind_eq_some_iff] at h h'
  obtain ⟨id, hid, name, hname, bundle, hbundle, publisher, hpublisher, content, hcontent, keywords,
    hkeywords, ext, hext, heq⟩ := h
  obtain ⟨id', hid', name', hname', bundle', hbundle', publisher', hpublisher', content', hcontent',
    keywords', hkeywords', ext', hext', heq'⟩ := h'
  cases heq
  cases heq'
  refine ⟨rfl, rfl, ?_⟩
  exact .cons (returns_string.entry_eq hid hid') <| .cons (returns_string.entry_eq hname hname') <|
    .cons (returns_string.entry_eq hbundle hbundle') <|
    .cons (value_entry_eq hpublisher hpublisher') <|
    .cons (Content.returns.entry_eq hcontent hcontent') <|
    .cons (returns_string.entry_eq hkeywords hkeywords') <|
    .cons (DataExt.returns.entry_eq hext hext') .nil

theorem User.laws : SectionLaws User.read? User.toJson {} := by
  refine .openRecord (by decide) (fun _ => rfl) User.returns rfl rfl
    fun {m rest u m' rest' u'} h h' => ?_
  simp only [bind_eq_some_iff] at h h'
  obtain ⟨id, hid, buyerUid, hbuyerUid, yearOfBirth, hyearOfBirth, gender, hgender, keywords,
    hkeywords, geo, hgeo, data, hdata, ext, hext, heq⟩ := h
  obtain ⟨id', hid', buyerUid', hbuyerUid', yearOfBirth', hyearOfBirth', gender', hgender',
    keywords', hkeywords', geo', hgeo', data', hdata', ext', hext', heq'⟩ := h'
  cases heq
  cases heq'
  refine ⟨rfl, rfl, ?_⟩
  exact .cons (returns_string.entry_eq hid hid') <|
    .cons (returns_string.entry_eq hbuyerUid hbuyerUid') <|
    .cons (returns_int32.entry_eq hyearOfBirth hyearOfBirth') <|
    .cons (returns_string.entry_eq hgender hgender') <|
    .cons (returns_string.entry_eq hkeywords hkeywords') <|
    .cons (value_entry_eq hgeo hgeo') <| .cons (returns_values.entry_eq hdata hdata') <|
    .cons (UserExt.returns.entry_eq hext hext') .nil

end AdExchange
