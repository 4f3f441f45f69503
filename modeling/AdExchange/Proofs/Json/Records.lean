import AdExchange.Proofs.Json.Values

/-!
# Records come back from what is written

A record is written as an object of its fields and, if it is an open one, of all else that it was
read with.  The others have none of the names of the fields.  So each name is there once, the
fields are found under their names, and the others are what is left.
-/

namespace AdExchange

/-! ## The object that is written -/

namespace Json

variable {fields : List (String × Option Json)} {others : Dictionary Json}

/-- Neither the fields nor the others have a key twice, nor do they share one. -/
theorem nodup_keys_openRecord (hfields : (fields.map (·.1)).Nodup) (hothers : others.Ordered)
    (hapart : ∀ e ∈ others, e.1 ∉ fields.map (·.1)) :
    (((fields.filterMap fun (k, v) => v.map (k, ·)) ++ others).map (·.1)).Nodup := by
  have hsub := keys_present_sublist fields
  rw [List.map_append, List.nodup_append']
  refine ⟨hfields.sublist hsub, hothers.nodup_keys, ?_⟩
  intro key hkey hother
  obtain ⟨e, he, rfl⟩ := List.mem_map.1 hother
  exact hapart e he (hsub.subset hkey)

/-- A field has its value, if it has one. -/
theorem get?_openRecord_field (hfields : (fields.map (·.1)).Nodup) (hothers : others.Ordered)
    (hapart : ∀ e ∈ others, e.1 ∉ fields.map (·.1)) {key : String} {value : Option Json}
    (h : (key, value) ∈ fields) :
    (Dictionary.ofList ((fields.filterMap fun (k, v) => v.map (k, ·)) ++ others)).get? key =
      value := by
  have hnodup := nodup_keys_openRecord hfields hothers hapart
  have hvalue : Dictionary.get? fields key = some value :=
    (Dictionary.get?_eq_some_iff hfields).2 h
  have hnot : ∀ v, (key, v) ∉ others := by
    intro v hv
    exact hapart _ hv (List.mem_map_of_mem (f := Prod.fst) h)
  ext v
  rw [Dictionary.get?_ofList_of_nodup hnodup, Dictionary.get?_eq_some_iff hnodup, List.mem_append,
    mem_present, or_iff_left (hnot v), ← Dictionary.get?_eq_some_iff hfields, hvalue,
    Option.some.injEq]

/-- Without the fields the others are left. -/
theorem filter_openRecord (hfields : (fields.map (·.1)).Nodup) (hothers : others.Ordered)
    (hapart : ∀ e ∈ others, e.1 ∉ fields.map (·.1)) :
    (Dictionary.ofList ((fields.filterMap fun (k, v) => v.map (k, ·)) ++ others)).filter
      (fun e => !(fields.map (·.1)).contains e.1) = others := by
  have hnodup := nodup_keys_openRecord hfields hothers hapart
  have hordered := List.Pairwise.filter (fun e => !(fields.map (·.1)).contains e.1)
    (Dictionary.Ordered.ofList ((fields.filterMap fun (k, v) => v.map (k, ·)) ++ others))
  refine Dictionary.Ordered.ext hordered hothers fun key => ?_
  rw [Dictionary.get?_filter _ (fun key => !(fields.map (·.1)).contains key),
    Dictionary.get?_ofList_of_nodup hnodup]
  ext v
  by_cases hkey : key ∈ fields.map (·.1)
  · have hnone : Dictionary.get? others key ≠ some v := by
      intro hget
      exact hapart _ (Dictionary.mem_of_get?_eq_some hget) hkey
    have hknown : (fields.map (·.1)).contains key = true := List.contains_iff_mem.2 hkey
    rw [hknown]
    simp [hnone]
  · have hnot : (key, some v) ∉ fields := fun h => hkey (List.mem_map_of_mem (f := Prod.fst) h)
    rw [if_pos (by simpa using hkey), Dictionary.get?_eq_some_iff hnodup, List.mem_append,
      mem_present, or_iff_right hnot, Dictionary.get?_eq_some_iff hothers.nodup_keys]

end Json

/-! ## Records that are read -/

namespace RawJson

variable {names : List String} {m : Members} {others : Dictionary Json} {v : RawJson}

/-- What is not among the known fields has none of their names. -/
theorem unknown_of_splitRecord? {rest : List (String × RawJson)}
    (h : v.splitRecord? names = some (m, rest)) : ∀ e ∈ rest, e.1 ∉ names := by
  cases v with
  | object members =>
    rw [splitRecord?] at h
    split at h
    · simp only [List.partition_eq_filter_filter, Option.some.injEq, Prod.mk.injEq] at h
      intro e he hname
      rw [← h.2] at he
      have hunknown := (List.mem_filter.1 he).2
      simp [hname] at hunknown
    · cases h
  | _ => cases h

/-- The others are in order, none of them has the name of a field, and their values are in order. -/
theorem others_of_openRecord? (h : v.openRecord? names = some (m, others)) :
    others.Ordered ∧ (∀ e ∈ others, e.1 ∉ names) ∧ Json.CanonicalFields others := by
  simp only [openRecord?, bind_eq_some_iff] at h
  obtain ⟨⟨known, rest⟩, hsplit, values, hvalues, heq⟩ := h
  cases heq
  have hcanonical := Json.canonicalFields_iff.1 (canonicalFields_of_memberValues? hvalues)
  refine ⟨.ofList values, ?_, ?_⟩
  · intro e he
    have hkey : e.1 ∈ rest.map (·.1) := by
      rw [← keys_of_memberValues? hvalues]
      exact List.mem_map_of_mem (Dictionary.mem_of_mem_ofList he)
    obtain ⟨member, hmember, hmemberKey⟩ := List.mem_map.1 hkey
    rw [← hmemberKey]
    exact unknown_of_splitRecord? hsplit member hmember
  · refine Json.canonicalFields_iff.2 ?_
    intro e he
    exact hcanonical e (Dictionary.mem_of_mem_ofList he)

/-! ## Records that are written -/

/-- In a dictionary no key is there twice. -/
theorem noneRepeated_rawFields {d : Dictionary Json} (hd : d.Ordered) (names : List String) :
    noneRepeated names (Json.rawFields d) = true := by
  rw [Json.rawFields_eq_mapValues, noneRepeated, List.all_eq_true]
  intro name _
  have hnodup := (hd.mapValues Json.raw).nodup_keys
  have hcount := List.nodup_iff_count_le_one.1 hnodup name
  rw [List.count, List.countP_map] at hcount
  rw [← List.countP_eq_length_filter, decide_eq_true_eq]
  exact hcount

/-- What is found under the name of a field. -/
theorem lookup_filter_rawFields (d : Dictionary Json) {name : String} (hname : name ∈ names) :
    List.lookup name ((Json.rawFields d).filter fun e => names.contains e.1) =
      (d.get? name).map Json.raw := by
  rw [Json.rawFields_eq_mapValues]
  refine (Dictionary.get?_filter (d.mapValues Json.raw) (names.contains ·) name).trans ?_
  rw [if_pos (List.contains_iff_mem.2 hname), Dictionary.get?_mapValues]

/-- The members of a dictionary that is written, with and without the known names. -/
theorem splitRecord?_raw {d : Dictionary Json} (hd : d.Ordered) (names : List String) :
    (Json.object d).raw.splitRecord? names =
      some ((Json.rawFields d).filter fun e => names.contains e.1,
        Json.rawFields (d.filter fun e => !names.contains e.1)) := by
  have hrest : (Json.rawFields d).filter (fun e => !names.contains e.1) =
      Json.rawFields (d.filter fun e => !names.contains e.1) := by
    rw [Json.rawFields_eq_mapValues, Json.rawFields_eq_mapValues, Dictionary.mapValues,
      List.filter_map]
    rfl
  rw [Json.raw, splitRecord?, if_pos (noneRepeated_rawFields hd _), List.partition_eq_filter_filter,
    ← hrest]
  rfl

/-- An open record is written so that its fields and the others are found. -/
theorem splitRecord?_written (fields : List (String × Option Json))
    (hnames : fields.map (·.1) = names) (hnodup : names.Nodup) (hothers : others.Ordered)
    (hapart : ∀ e ∈ others, e.1 ∉ names) :
    ∃ m', (Json.openRecord fields others).raw.splitRecord? names =
        some (m', Json.rawFields others) ∧
      ∀ f ∈ fields, List.lookup f.1 m' = f.2.map Json.raw := by
  subst hnames
  have hsplit := splitRecord?_raw (Dictionary.Ordered.ofList
    ((fields.filterMap fun (k, v) => v.map (k, ·)) ++ others)) (fields.map (·.1))
  rw [Json.filter_openRecord hnodup hothers hapart] at hsplit
  refine ⟨_, hsplit, ?_⟩
  intro f hf
  rw [lookup_filter_rawFields _ (List.mem_map_of_mem hf),
    Json.get?_openRecord_field hnodup hothers hapart hf]

/-- An open record that has been read is written so that it reads with the same others. -/
theorem openRecord?_written (h : v.openRecord? names = some (m, others))
    {fields : List (String × Option Json)} (hnames : fields.map (·.1) = names)
    (hnodup : names.Nodup) :
    ∃ m', (Json.openRecord fields others).raw.openRecord? names = some (m', others) ∧
      ∀ f ∈ fields, List.lookup f.1 m' = f.2.map Json.raw := by
  obtain ⟨hothers, hapart, hcanonical⟩ := others_of_openRecord? h
  obtain ⟨m', hsplit, hfields⟩ := splitRecord?_written fields hnames hnodup hothers hapart
  refine ⟨m', ?_, hfields⟩
  simp only [openRecord?, hsplit, Option.bind_eq_bind, Option.bind_some,
    Json.memberValues?_rawFields hcanonical, hothers.ofList_eq]

/-- A closed record is written so that its fields are found. -/
theorem closedRecord?_written {rules : List FieldRule} {fields : List (String × Option Json)}
    (hnames : fields.map (·.1) = rules.map (·.name)) (hnodup : (rules.map (·.name)).Nodup) :
    ∃ m', (Json.ofFields fields).raw.closedRecord? rules = some m' ∧
      ∀ f ∈ fields, List.lookup f.1 m' = f.2.map Json.raw := by
  refine ⟨_, if_pos (noneRepeated_rawFields (.ofList _) _), ?_⟩
  intro f hf
  rw [← hnames] at hnodup ⊢
  rw [lookup_filter_rawFields _ (List.mem_map_of_mem hf)]
  exact congrArg (Option.map Json.raw) (Json.get?_ofFields hnodup hf)

end RawJson

end AdExchange
