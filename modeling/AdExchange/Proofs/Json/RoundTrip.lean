import AdExchange.Proofs.Json.Records

/-!
# Round trips

A type is read from a text and written as a value.  What has been read is to be the same if it is
written and read once more, or at least what it is to be changed into.  This is a law for a reader
and a writer, and it is kept by all that readers and writers are made of: lists, dictionaries,
records and their fields.
-/

namespace AdExchange

open RawJson

variable {α : Type}

/-- What has been read comes back as `back` changes it, if `P` holds of it.  Only `null` is written
as `null`, so that a field that is there is not taken for a missing one. -/
structure ReturnsAs (read : RawJson → Option α) (write : α → Json) (P : α → Prop)
    (back : α → α) : Prop where
  read_write : ∀ {v a}, read v = some a → P a → read (write a).raw = some (back a)
  write_ne_null : ∀ {v a}, read v = some a → v ≠ .null → write a ≠ .null

/-- What has been read comes back as it is. -/
abbrev Returns (read : RawJson → Option α) (write : α → Json) : Prop :=
  ReturnsAs read write (fun _ => True) id

variable {read : RawJson → Option α} {write : α → Json} {P P' : α → Prop} {back back' : α → α}

/-- Another form of the condition and of the change. -/
theorem ReturnsAs.congr (h : ReturnsAs read write P back) (hP : ∀ a, P' a → P a)
    (hback : ∀ a, P' a → back a = back' a) : ReturnsAs read write P' back' where
  read_write hread ha := by
    rw [← hback _ ha]
    exact h.read_write hread (hP _ ha)
  write_ne_null := h.write_ne_null

theorem Returns.read_write (h : Returns read write) {v : RawJson} {a : α}
    (hread : read v = some a) : read (write a).raw = some a :=
  ReturnsAs.read_write h hread trivial

/-! ## Plain values -/

theorem returns_string : Returns string? Json.string where
  read_write _ _ := rfl
  write_ne_null _ _ h := by cases h

theorem returns_bool : Returns bool? Json.bool where
  read_write _ _ := rfl
  write_ne_null _ _ h := by cases h

theorem returns_int32 : Returns int32? fun n => .int n.toInt where
  read_write := by
    intro _ n _ _
    have hbounds : -2 ^ 31 ≤ n.toInt ∧ n.toInt ≤ 2 ^ 31 - 1 := by
      have hlow := n.le_toInt
      have hhigh := n.toInt_lt
      omega
    have hinteger : (Json.int n.toInt).raw.integer? (-2 ^ 31) (2 ^ 31 - 1) = some n.toInt :=
      if_pos hbounds
    rw [int32?, hinteger, Option.map_some, Int32.ofInt_toInt]
    rfl
  write_ne_null _ _ h := by cases h

theorem returns_uint32 : Returns uint32? fun n => .nat n.toNat where
  read_write := by
    intro _ n _ _
    have hbounds : (0 : Int) ≤ (n.toNat : Int) ∧ (n.toNat : Int) ≤ 2 ^ 32 - 1 := by
      have hhigh := n.toNat_lt
      omega
    have hinteger : (Json.nat n.toNat).raw.integer? 0 (2 ^ 32 - 1) = some (n.toNat : Int) :=
      if_pos hbounds
    rw [uint32?, hinteger, Option.map_some, Int.toNat_natCast, UInt32.ofNat_toNat]
    rfl
  write_ne_null _ _ h := by cases h

theorem returns_uint64 : Returns uint64? fun n => .nat n.toNat where
  read_write := by
    intro _ n _ _
    have hbounds : (0 : Int) ≤ (n.toNat : Int) ∧ (n.toNat : Int) ≤ 2 ^ 64 - 1 := by
      have hhigh := n.toNat_lt
      omega
    have hinteger : (Json.nat n.toNat).raw.integer? 0 (2 ^ 64 - 1) = some (n.toNat : Int) :=
      if_pos hbounds
    rw [uint64?, hinteger, Option.map_some, Int.toNat_natCast, UInt64.ofNat_toNat]
    rfl
  write_ne_null _ _ h := by cases h

theorem returns_value : Returns value? id where
  read_write h _ := Json.value?_raw (canonical_of_value? h)
  write_ne_null := by
    rintro v a h hv rfl
    exact hv (value?_eq_null_iff.1 h)

theorem returns_object : Returns object? Json.object where
  read_write := by
    intro v d h _
    obtain ⟨a, ha, hobject⟩ := Option.bind_eq_some_iff.1 h
    have heq : a = .object d := by
      cases a with
      | object fields =>
        cases hobject
        rfl
      | _ => cases hobject
    rw [heq] at ha
    rw [object?, Json.value?_raw (canonical_of_value? ha)]
    rfl
  write_ne_null _ _ h := by cases h

/-! ## Collections -/

/-- A list comes back if its items do. -/
theorem ReturnsAs.list (h : ReturnsAs read write P back) :
    ReturnsAs (list? read) (fun items => .array (items.map write)) (fun items => ∀ a ∈ items, P a)
      (·.map back) where
  read_write := by
    intro v items hread hitems
    cases v with
    | array texts =>
      have htexts := mapM_eq_some_iff.1 hread
      have hreads : List.Forall₂ (fun w b => read w = some b) ((items.map write).map Json.raw)
          (items.map back) := by
        rw [List.map_map, List.forall₂_map_left_iff, List.forall₂_map_right_iff, List.forall₂_same]
        intro a ha
        obtain ⟨w, -, hw⟩ := exists_of_mem_right htexts ha
        exact h.read_write hw (hitems a ha)
      rw [Json.raw, Json.rawItems_eq_map]
      exact mapM_eq_some_iff.2 hreads
    | _ => cases hread
  write_ne_null _ _ h := by cases h

theorem Returns.list (h : Returns read write) :
    Returns (list? read) fun items => .array (items.map write) :=
  (ReturnsAs.list h).congr (fun _ _ _ _ => trivial) fun items _ => List.map_id items

theorem returns_strings : Returns (list? string?) Json.strings := returns_string.list

theorem returns_values : Returns (list? value?) Json.array := by
  have h := returns_value.list
  simp only [List.map_id] at h
  exact h

/-- A dictionary has the keys of the members that it is read from. -/
theorem keys_of_dictionary? {members : List (String × RawJson)} {d : Dictionary α}
    (h : (RawJson.object members).dictionary? read = some d) :
    d.Ordered ∧ ∀ e ∈ d, ∃ m ∈ members, m.1 = e.1 := by
  obtain ⟨entries, hentries, rfl⟩ := Option.map_eq_some_iff.1 h
  refine ⟨.ofList entries, ?_⟩
  intro e he
  obtain ⟨m, hm, hme⟩ :=
    exists_of_mem_right (mapM_eq_some_iff.1 hentries) (Dictionary.mem_of_mem_ofList he)
  obtain ⟨a, -, rfl⟩ := Option.map_eq_some_iff.1 hme
  exact ⟨m, hm, rfl⟩

/-- A dictionary comes back if its values do. -/
theorem ReturnsAs.dictionary (h : ReturnsAs read write P back) :
    ReturnsAs (dictionary? read) (Json.dictionary write) (fun d => ∀ e ∈ d, P e.2)
      (·.mapValues back) where
  read_write := by
    intro v d hread hd
    cases v with
    | object members =>
      obtain ⟨entries, hentries, rfl⟩ := Option.map_eq_some_iff.1 hread
      have hordered : (Dictionary.ofList entries).Ordered := .ofList entries
      have hreads : List.Forall₂ (fun m e => (read m.2).map (m.1, ·) = some e)
          (((Dictionary.ofList entries).mapValues write).mapValues Json.raw)
          ((Dictionary.ofList entries).mapValues back) := by
        simp only [Dictionary.mapValues]
        rw [List.map_map, List.forall₂_map_left_iff, List.forall₂_map_right_iff, List.forall₂_same]
        intro e he
        obtain ⟨m, -, hm⟩ :=
          exists_of_mem_right (mapM_eq_some_iff.1 hentries) (Dictionary.mem_of_mem_ofList he)
        obtain ⟨a, ha, rfl⟩ := Option.map_eq_some_iff.1 hm
        rw [Option.map_eq_some_iff]
        exact ⟨_, h.read_write ha (hd _ he), rfl⟩
      rw [Json.dictionary, Json.raw, Json.rawFields_eq_mapValues, dictionary?,
        mapM_eq_some_iff.2 hreads, Option.map_some, (hordered.mapValues back).ofList_eq]
    | _ => cases hread
  write_ne_null _ _ h := by cases h

theorem Returns.dictionary (h : Returns read write) :
    Returns (dictionary? read) (Json.dictionary write) :=
  (ReturnsAs.dictionary h).congr (fun _ _ _ _ => trivial) fun d _ => List.map_id d

/-! ## Fields -/

section Fields

variable {m m' : Members} {name : String}

theorem optional?_of_ne_null {v : RawJson} (hm : List.lookup name m = some v) (hv : v ≠ .null) :
    m.optional? name read = (read v).map some := by
  rw [Members.optional?, hm]
  cases v with
  | null => exact absurd rfl hv
  | _ => rfl

/-- A field that may be missing comes back. -/
theorem ReturnsAs.optional (h : ReturnsAs read write P back) {x : Option α}
    (hread : m.optional? name read = some x)
    (hwritten : List.lookup name m' = (x.map write).map Json.raw) (hx : ∀ a ∈ x, P a) :
    m'.optional? name read = some (x.map back) := by
  have hmissing : x = none → m'.optional? name read = some (x.map back) := by
    rintro rfl
    rw [Members.optional?, hwritten]
    rfl
  cases hm : List.lookup name m with
  | none =>
    simp only [Members.optional?, hm, Option.some.injEq] at hread
    exact hmissing hread.symm
  | some v =>
    by_cases hv : v = .null
    · simp only [Members.optional?, hm, hv, Option.some.injEq] at hread
      exact hmissing hread.symm
    · rw [optional?_of_ne_null hm hv] at hread
      obtain ⟨a, ha, rfl⟩ := Option.map_eq_some_iff.1 hread
      have hne : (write a).raw ≠ .null := fun hnull =>
        h.write_ne_null ha hv (Json.raw_eq_null_iff.1 hnull)
      rw [optional?_of_ne_null hwritten hne, h.read_write ha (hx a rfl)]
      rfl

theorem Returns.optional (h : Returns read write) {x : Option α}
    (hread : m.optional? name read = some x)
    (hwritten : List.lookup name m' = (x.map write).map Json.raw) :
    m'.optional? name read = some x := by
  have hreturns := ReturnsAs.optional h hread hwritten fun _ _ => trivial
  rwa [Option.map_id] at hreturns

/-- A value that may be missing is written as it is. -/
theorem optional_value {x : Option Json} (hread : m.optional? name value? = some x)
    (hwritten : List.lookup name m' = x.map Json.raw) : m'.optional? name value? = some x := by
  refine returns_value.optional hread ?_
  rwa [Option.map_id]

/-- A field that must be there comes back. -/
theorem Returns.required (h : Returns read write) {a : α}
    (hread : m.required? name read = some a)
    (hwritten : List.lookup name m' = some (write a).raw) : m'.required? name read = some a := by
  obtain ⟨v, -, hv⟩ := Option.bind_eq_some_iff.1 hread
  rw [Members.required?, hwritten]
  exact h.read_write hv

/-- A field with a default comes back if the default does. -/
theorem ReturnsAs.withDefault (h : ReturnsAs read write P back) {a default : α}
    (hread : m.withDefault? name default read = some a)
    (hwritten : List.lookup name m' = some (write a).raw) (ha : P a)
    (hdefault : P default → read (write default).raw = some (back default)) :
    m'.withDefault? name default read = some (back a) := by
  rw [Members.withDefault?, hwritten]
  cases hm : List.lookup name m with
  | none =>
    simp only [Members.withDefault?, hm, Option.some.injEq] at hread
    rw [← hread] at ha ⊢
    exact hdefault ha
  | some v =>
    simp only [Members.withDefault?, hm] at hread
    exact h.read_write hread ha

theorem Returns.withDefault (h : Returns read write) {a default : α}
    (hread : m.withDefault? name default read = some a)
    (hwritten : List.lookup name m' = some (write a).raw)
    (hdefault : read (write default).raw = some default) :
    m'.withDefault? name default read = some a :=
  ReturnsAs.withDefault h hread hwritten trivial fun _ => hdefault

/-- A list that is left out if it is empty comes back. -/
theorem Returns.withDefault_nonempty (h : Returns read write) {items : List α}
    (hread : m.withDefault? name [] (list? read) = some items)
    (hwritten : List.lookup name m' = (Json.nonempty? (items.map write)).map Json.raw) :
    m'.withDefault? name [] (list? read) = some items := by
  by_cases hitems : items = []
  · subst hitems
    rw [Members.withDefault?, hwritten]
    rfl
  · have hsome : Json.nonempty? (items.map write) = some (.array (items.map write)) := by
      simp [Json.nonempty?, hitems]
    rw [hsome] at hwritten
    exact h.list.withDefault hread hwritten rfl

end Fields

/-! ## Records -/

/-- An open record comes back if its fields do. -/
theorem ReturnsAs.openRecord {names : List String} {fields : Members × Dictionary Json → Option α}
    {entries : α → List (String × Option Json)} {others : α → Dictionary Json}
    (hnodup : names.Nodup) (hnames : ∀ a, (entries a).map (·.1) = names)
    (hfields : ∀ {m m' rest a}, fields (m, rest) = some a → P a → others a = rest ∧
      ((∀ f ∈ entries a, List.lookup f.1 m' = f.2.map Json.raw) →
        fields (m', rest) = some (back a))) :
    ReturnsAs (fun v => v.openRecord? names >>= fields)
      (fun a => .openRecord (entries a) (others a)) P back where
  read_write := by
    intro v a h ha
    obtain ⟨⟨m, rest⟩, hm, hread⟩ := bind_eq_some_iff.1 h
    obtain ⟨m', hm', hwritten⟩ := openRecord?_written hm (hnames a) hnodup
    obtain ⟨hothers, hback⟩ := hfields hread ha
    rw [bind_eq_some_iff, hothers]
    exact ⟨_, hm', hback hwritten⟩
  write_ne_null _ _ h := by cases h

/-- A closed record comes back if its fields do. -/
theorem ReturnsAs.closedRecord {rules : List FieldRule} {fields : Members → Option α}
    {entries : α → List (String × Option Json)} (hnodup : (rules.map (·.name)).Nodup)
    (hnames : ∀ a, (entries a).map (·.1) = rules.map (·.name))
    (hfields : ∀ {m m' a}, fields m = some a → P a →
      (∀ f ∈ entries a, List.lookup f.1 m' = f.2.map Json.raw) → fields m' = some (back a)) :
    ReturnsAs (fun v => v.closedRecord? rules >>= fields) (fun a => .ofFields (entries a)) P
      back where
  read_write := by
    intro v a h ha
    obtain ⟨m, -, hread⟩ := bind_eq_some_iff.1 h
    obtain ⟨m', hm', hwritten⟩ := closedRecord?_written (hnames a) hnodup
    exact bind_eq_some_iff.2 ⟨m', hm', hfields hread ha hwritten⟩
  write_ne_null _ _ h := by cases h

end AdExchange
