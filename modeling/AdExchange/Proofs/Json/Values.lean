import AdExchange.Json.Record
import AdExchange.Proofs.Dictionaries

/-!
# Values come back from what is written

The value of a text has its objects in order at every depth.  When such a value is written and read
again as a value nothing changes: no key is there twice, so none is lost.
-/

namespace AdExchange

namespace Json

theorem canonicalFields_iff {fields : List (String × Json)} :
    CanonicalFields fields ↔ ∀ e ∈ fields, e.2.Canonical := by
  induction fields with
  | nil => simp [CanonicalFields]
  | cons e rest ih => rw [CanonicalFields, ih, List.forall_mem_cons]

theorem rawItems_eq_map (items : List Json) : rawItems items = items.map raw := by
  induction items with
  | nil => rfl
  | cons v rest ih => rw [rawItems, ih, List.map_cons]

theorem rawFields_eq_mapValues (fields : List (String × Json)) :
    rawFields fields = Dictionary.mapValues raw fields := by
  induction fields with
  | nil => rfl
  | cons e rest ih =>
    rw [rawFields, ih]
    rfl

theorem raw_eq_null_iff {v : Json} : v.raw = .null ↔ v = .null := by
  cases v <;> simp [raw]

end Json

namespace Dictionary

variable {α : Type} {entries : List (String × α)} {e : String × α}

/-- A dictionary has no other entries than those that it is made of. -/
theorem mem_of_mem_ofList (h : e ∈ ofList entries) : e ∈ entries := by
  have hget : (ofList entries).get? e.1 = some e.2 :=
    (get?_eq_some_iff (Ordered.ofList entries).nodup_keys).2 h
  rw [get?_ofList] at hget
  exact List.mem_reverse.1 (mem_of_get?_eq_some hget)

end Dictionary

/-! ## What is read -/

namespace RawJson

mutual

/-- The value of a text is in order. -/
theorem canonical_of_value? : ∀ {v : RawJson} {a : Json}, v.value? = some a → a.Canonical
  | .null, a, h => by
    cases h
    trivial
  | .bool b, a, h => by
    cases h
    trivial
  | .number n, a, h => by
    cases h
    trivial
  | .string s, a, h => by
    cases h
    trivial
  | .array items, a, h => by
    rw [value?] at h
    obtain ⟨values, hvalues, rfl⟩ := Option.map_eq_some_iff.1 h
    exact canonicalItems_of_values? hvalues
  | .object members, a, h => by
    rw [value?] at h
    obtain ⟨fields, hfields, rfl⟩ := Option.map_eq_some_iff.1 h
    have hcanonical := Json.canonicalFields_iff.1 (canonicalFields_of_memberValues? hfields)
    refine ⟨.ofList fields, Json.canonicalFields_iff.2 ?_⟩
    intro e he
    exact hcanonical e (Dictionary.mem_of_mem_ofList he)
  | .unreadable, a, h => by cases h

theorem canonicalItems_of_values? :
    ∀ {items : List RawJson} {values : List Json}, values? items = some values →
      Json.CanonicalItems values
  | [], values, h => by
    cases h
    trivial
  | v :: rest, values, h => by
    simp only [values?, bind_eq_some_iff] at h
    obtain ⟨value, hvalue, tail, htail, heq⟩ := h
    cases heq
    exact ⟨canonical_of_value? hvalue, canonicalItems_of_values? htail⟩

theorem canonicalFields_of_memberValues? :
    ∀ {members : List (String × RawJson)} {fields : List (String × Json)},
      memberValues? members = some fields → Json.CanonicalFields fields
  | [], fields, h => by
    cases h
    trivial
  | (k, v) :: rest, fields, h => by
    simp only [memberValues?, bind_eq_some_iff] at h
    obtain ⟨value, hvalue, tail, htail, heq⟩ := h
    cases heq
    exact ⟨canonical_of_value? hvalue, canonicalFields_of_memberValues? htail⟩

end

/-- The members of an object keep their keys. -/
theorem keys_of_memberValues? {members : List (String × RawJson)} {fields : List (String × Json)}
    (h : memberValues? members = some fields) : fields.map (·.1) = members.map (·.1) := by
  induction members generalizing fields with
  | nil =>
    cases h
    rfl
  | cons e rest ih =>
    obtain ⟨k, v⟩ := e
    simp only [memberValues?, bind_eq_some_iff] at h
    obtain ⟨value, -, tail, htail, heq⟩ := h
    cases heq
    rw [List.map_cons, List.map_cons, ih htail]

/-- Only `null` has the value `null`. -/
theorem value?_eq_null_iff {v : RawJson} : v.value? = some .null ↔ v = .null := by
  cases v <;> simp [value?]

end RawJson

/-! ## What is written -/

namespace Json

mutual

/-- A value that is in order comes back. -/
theorem value?_raw : ∀ {a : Json}, a.Canonical → a.raw.value? = some a
  | .null, _ => rfl
  | .bool _, _ => rfl
  | .number _, _ => rfl
  | .string _, _ => rfl
  | .array items, h => by
    rw [raw, RawJson.value?, values?_rawItems h]
    rfl
  | .object fields, h => by
    rw [raw, RawJson.value?, memberValues?_rawFields h.2, Option.map_some, h.1.ofList_eq]

theorem values?_rawItems : ∀ {items : List Json}, CanonicalItems items →
    RawJson.values? (rawItems items) = some items
  | [], _ => rfl
  | v :: rest, h => by
    simp [rawItems, RawJson.values?, value?_raw h.1, values?_rawItems h.2]

theorem memberValues?_rawFields : ∀ {fields : List (String × Json)}, CanonicalFields fields →
    RawJson.memberValues? (rawFields fields) = some fields
  | [], _ => rfl
  | (k, v) :: rest, h => by
    simp [rawFields, RawJson.memberValues?, value?_raw h.1, memberValues?_rawFields h.2]

end

end Json

end AdExchange
