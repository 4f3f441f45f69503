import AdExchange.Json.Merge
import AdExchange.Proofs.Json.Values

/-!
# Merging and merge patches

By the rules of merge patches a member that the patch sets to `null` is gone afterwards, at any
depth: an object of the patch is merged into an empty one where the value has none.  `Json.merge`
takes such an object over as it is.  So it keeps to the rules exactly where the value has an object
for every `null` of the patch; only then does merging a second time change nothing.

## Main definitions

* `Json.Patches` — what a merge patch makes of a value, member by member.
* `Json.objectAt?` — the object that a path of keys leads to.
* `Json.NullsMeetObjects` — the value has an object for every `null` of the patch.
* `Json.MergedThroughout` — what merging makes of a value, at any depth.

## Main statements

* `Json.get?_mergeFields` — the members of an object that a patch has been merged into.
* `Json.Patches.unique`, `Json.Patches.idem` — a merge patch has one result, and it is patched
  already.
* `Json.mergedThroughout_merge` — what merging makes of a value.
* `Json.merge_patches_iff` — when it is what a merge patch makes of it.
-/

namespace AdExchange

namespace Json

/-! ## Induction on members -/

/-- What holds of an object if it holds of its members, and of all that is no object, holds of
every value. -/
theorem member_induction {motive : Json → Prop}
    (plain : ∀ v, (∀ fields, v ≠ .object fields) → motive v)
    (members : ∀ fields, (∀ e ∈ fields, motive e.2) → motive (.object fields)) (v : Json) :
    motive v := by
  match v with
  | .object fields =>
    apply members
    intro e he
    have hlt : sizeOf e.2 < sizeOf (Json.object fields) := by
      have hmem := List.sizeOf_lt_of_mem he
      obtain ⟨key, value⟩ := e
      simp only [Prod.mk.sizeOf_spec, object.sizeOf_spec] at hmem ⊢
      omega
    exact member_induction plain members e.2
  | .null => exact plain _ (by simp)
  | .bool _ => exact plain _ (by simp)
  | .number _ => exact plain _ (by simp)
  | .string _ => exact plain _ (by simp)
  | .array _ => exact plain _ (by simp)
termination_by sizeOf v
decreasing_by exact hlt

/-! ## The members that merging makes -/

variable {t p : Json} {fields patch : Dictionary Json} {key : String}

theorem isNull_eq_false_iff {v : Json} : v.isNull = false ↔ v ≠ .null := by
  cases v <;> simp [isNull]

@[simp] theorem get?_object (fields : Dictionary Json) (key : String) :
    (object fields).get? key = Dictionary.get? fields key := rfl

/-- A value is an object or none. -/
theorem eq_object_or (v : Json) :
    (∃ fields, v = .object fields) ∨ ∀ fields, v ≠ .object fields := by
  rw [← not_exists]
  exact Classical.em _

theorem get?_of_not_object (h : ∀ fields, t ≠ .object fields) : t.get? key = none := by
  cases t <;> simp_all [get?, asObject?]

@[simp] theorem merge_object_object (fields patch : Dictionary Json) :
    merge (.object fields) (.object patch) = .object (mergeFields fields patch) := by
  rw [merge]

/-- What is no object takes the place of what is there. -/
theorem merge_of_not_object (h : ∀ patch, p ≠ .object patch) : merge t p = p := by
  cases p <;> simp_all [merge]

/-- Where there is no object the patch takes the place of what is there. -/
theorem merge_into_not_object (h : ∀ fields, t ≠ .object fields) : merge t p = p := by
  cases p <;> cases t <;> simp_all [merge]

theorem get?_mergeFields_of_not_mem (h : key ∉ patch.map (·.1)) :
    Dictionary.get? (mergeFields fields patch) key = Dictionary.get? fields key := by
  induction patch generalizing fields with
  | nil => rw [mergeFields]
  | cons e rest ih =>
    obtain ⟨k, v⟩ := e
    simp only [List.map_cons, List.mem_cons, not_or] at h
    rw [mergeFields]
    split
    · rw [ih h.2, Dictionary.get?_erase_of_ne _ h.1]
    · rw [ih h.2, Dictionary.get?_insert_of_ne _ _ h.1]

/-- A member of the patch takes the member away if it is `null`, and is merged into it if not;
without one the member stays. -/
theorem get?_mergeFields (hkeys : (patch.map (·.1)).Nodup) (fields : Dictionary Json)
    (key : String) :
    Dictionary.get? (mergeFields fields patch) key =
      match Dictionary.get? patch key with
      | none => Dictionary.get? fields key
      | some v =>
        if v.isNull then none else some (merge ((Dictionary.get? fields key).getD .null) v) := by
  induction patch generalizing fields with
  | nil => simp [mergeFields]
  | cons e rest ih =>
    obtain ⟨k, v⟩ := e
    rw [List.map_cons, List.nodup_cons] at hkeys
    rw [mergeFields, Dictionary.get?_cons]
    by_cases hkey : key = k
    · subst hkey
      rw [if_pos rfl]
      dsimp only
      split
      · rw [get?_mergeFields_of_not_mem hkeys.1, Dictionary.get?_erase_self]
      · rw [get?_mergeFields_of_not_mem hkeys.1, Dictionary.get?_insert_self]
    · rw [if_neg hkey]
      split
      · rw [ih hkeys.2, Dictionary.get?_erase_of_ne _ hkey]
      · rw [ih hkeys.2, Dictionary.get?_insert_of_ne _ _ hkey]

theorem ordered_mergeFields (h : fields.Ordered) (patch : List (String × Json)) :
    (mergeFields fields patch).Ordered := by
  induction patch generalizing fields with
  | nil => simpa [mergeFields] using h
  | cons e rest ih =>
    obtain ⟨k, v⟩ := e
    rw [mergeFields]
    split
    · exact ih (h.erase k)
    · exact ih (h.insert k _)

/-- Below an object the patch is merged member by member, also where there is no object: what is
taken over as it is might as well be merged into `null`. -/
theorem get?_merge_object (hkeys : (patch.map (·.1)).Nodup) {v : Json}
    (hv : Dictionary.get? patch key = some v) (hne : v ≠ .null) :
    (merge t (.object patch)).get? key = some (merge ((t.get? key).getD .null) v) := by
  rcases eq_object_or t with ⟨fields, rfl⟩ | hplain
  · rw [merge_object_object, get?_object, get?_mergeFields hkeys, hv, get?_object]
    simp [isNull_eq_false_iff.2 hne]
  · rw [merge_into_not_object hplain, get?_object, hv, get?_of_not_object hplain, Option.getD_none,
      merge_into_not_object (by simp)]

/-- A member that an object of the patch does not have is as it was. -/
theorem get?_merge_of_absent (hkeys : (patch.map (·.1)).Nodup)
    (hv : Dictionary.get? patch key = none) : (merge t (.object patch)).get? key = t.get? key := by
  rcases eq_object_or t with ⟨fields, rfl⟩ | hplain
  · rw [merge_object_object, get?_object, get?_mergeFields hkeys, hv, get?_object]
  · rw [merge_into_not_object hplain, get?_object, hv, get?_of_not_object hplain]

/-- A member that is set to `null` is taken out of an object, and is there where there is none. -/
theorem get?_merge_of_null (hkeys : (patch.map (·.1)).Nodup)
    (hv : Dictionary.get? patch key = some .null) :
    (merge t (.object patch)).get? key = if t.asObject?.isSome then none else some .null := by
  rcases eq_object_or t with ⟨fields, rfl⟩ | hplain
  · rw [merge_object_object, get?_object, get?_mergeFields hkeys, hv]
    rfl
  · have hnone : t.asObject? = none := by
      cases t <;> simp_all [asObject?]
    rw [merge_into_not_object hplain, get?_object, hv, hnone]
    rfl

/-! ## Values that are in order -/

theorem Canonical.of_get? {v : Json} (h : (object fields).Canonical)
    (hv : Dictionary.get? fields key = some v) : v.Canonical :=
  canonicalFields_iff.1 h.2 _ (Dictionary.mem_of_get?_eq_some hv)

theorem Canonical.nodup_keys (h : (object fields).Canonical) : (fields.map (·.1)).Nodup :=
  Dictionary.Ordered.nodup_keys h.1

theorem Canonical.getD_get? {v : Json} (h : v.Canonical) (key : String) :
    ((v.get? key).getD .null).Canonical := by
  rcases eq_object_or v with ⟨fields, rfl⟩ | hplain
  · rw [get?_object]
    cases hget : Dictionary.get? fields key with
    | none => trivial
    | some w => exact h.of_get? hget
  · rw [get?_of_not_object hplain]
    trivial

/-- An object whose members are in order, as looked up by key. -/
theorem canonical_object_iff (hfields : fields.Ordered) :
    (object fields).Canonical ↔
      ∀ key v, Dictionary.get? fields key = some v → v.Canonical := by
  constructor
  · intro h key v hv
    exact h.of_get? hv
  · intro h
    refine ⟨hfields, canonicalFields_iff.2 ?_⟩
    intro e he
    exact h e.1 e.2 ((Dictionary.get?_eq_some_iff hfields.nodup_keys).2 he)

/-- Merging keeps values in order. -/
theorem Canonical.merge (ht : t.Canonical) (hp : p.Canonical) : (merge t p).Canonical := by
  induction p using member_induction generalizing t with
  | plain p hplain =>
    rw [merge_of_not_object hplain]
    exact hp
  | members patch ih =>
    rcases eq_object_or t with ⟨fields, rfl⟩ | hplain
    · rw [merge_object_object, canonical_object_iff (ordered_mergeFields ht.1 patch)]
      intro key v hv
      rw [get?_mergeFields hp.nodup_keys] at hv
      split at hv
      · exact ht.of_get? hv
      · next w hw =>
        split at hv
        · cases hv
        · obtain rfl := Option.some.inj hv
          exact ih (key, w) (Dictionary.mem_of_get?_eq_some hw) (ht.getD_get? key)
            (hp.of_get? hw)
    · rw [merge_into_not_object hplain]
      exact hp

/-- Into an object an object is merged in order, and so it is where there is none. -/
theorem exists_merge_object (ht : t.Canonical) (hp : (object patch).Canonical) :
    ∃ result : Dictionary Json, merge t (.object patch) = .object result ∧ result.Ordered := by
  rcases eq_object_or t with ⟨fields, rfl⟩ | hplain
  · exact ⟨_, merge_object_object fields patch, ordered_mergeFields ht.1 patch⟩
  · exact ⟨patch, merge_into_not_object hplain, hp.1⟩

/-! ## Merge patches -/

/-- What a merge patch makes of a value.  An object patches the members of a value one by one: one
that it sets to `null` is gone, one that it does not have stays as it is, and any other is patched,
beginning with an empty object if there is none.  Anything else takes the place of the value. -/
inductive Patches : Json → Json → Json → Prop where
  | replaced {target patch : Json} (h : ∀ fields, patch ≠ .object fields) :
    Patches target patch patch
  | members {target : Json} {patch result : Dictionary Json} (ordered : result.Ordered)
    (erased : ∀ key, Dictionary.get? patch key = some .null → Dictionary.get? result key = none)
    (kept : ∀ key, Dictionary.get? patch key = none →
      Dictionary.get? result key = target.get? key)
    (present : ∀ key v, Dictionary.get? patch key = some v → v ≠ .null →
      (Dictionary.get? result key).isSome)
    (patched : ∀ key v new, Dictionary.get? patch key = some v → v ≠ .null →
      Dictionary.get? result key = some new →
      Patches ((target.get? key).getD (.object [])) v new) :
    Patches target (.object patch) (.object result)

namespace Patches

variable {r r' : Json}

/-- A merge patch has one result only. -/
theorem unique (h : Patches t p r) (h' : Patches t p r') : r = r' := by
  induction p using member_induction generalizing t r r' with
  | plain p hplain =>
    cases h with
    | members => exact absurd rfl (hplain _)
    | replaced =>
      cases h' with
      | members => exact absurd rfl (hplain _)
      | replaced => rfl
  | members patch ih =>
    cases h with
    | replaced hplain => exact absurd rfl (hplain _)
    | members ordered erased kept present patched =>
      cases h' with
      | replaced hplain => exact absurd rfl (hplain _)
      | members ordered' erased' kept' present' patched' =>
        congr 1
        apply ordered.ext ordered'
        intro key
        cases hv : Dictionary.get? patch key with
        | none => rw [kept key hv, kept' key hv]
        | some v =>
          by_cases hne : v = .null
          · subst hne
            rw [erased key hv, erased' key hv]
          · obtain ⟨new, hnew⟩ := Option.isSome_iff_exists.1 (present key v hv hne)
            obtain ⟨new', hnew'⟩ := Option.isSome_iff_exists.1 (present' key v hv hne)
            rw [hnew, hnew', ih (key, v) (Dictionary.mem_of_get?_eq_some hv)
              (patched key v new hv hne hnew) (patched' key v new' hv hne hnew')]

/-- What has been patched is not changed by patching it again. -/
theorem idem (h : Patches t p r) : Patches r p r := by
  induction h with
  | replaced h => exact .replaced h
  | members ordered erased kept present patched ih =>
    refine .members ordered erased (fun _ _ => rfl) present ?_
    intro key v new hv hne hnew
    rw [get?_object, hnew, Option.getD_some]
    exact ih key v new hv hne hnew

/-- Only the members of a value matter to a merge patch. -/
theorem congr {t' : Json} (h : Patches t p r) (hget : ∀ key, t.get? key = t'.get? key) :
    Patches t' p r := by
  cases h with
  | replaced h => exact .replaced h
  | members ordered erased kept present patched =>
    refine .members ordered erased ?_ present ?_
    · intro key hv
      rw [kept key hv, hget]
    · intro key v new hv hne hnew
      rw [← hget]
      exact patched key v new hv hne hnew

end Patches

/-! ## What merging makes of a value at any depth -/

/-- The object that a path of keys leads to. -/
def objectAt? (v : Json) (path : List String) : Option (Dictionary Json) :=
  (v.path? path).bind (·.asObject?)

/-- Wherever the patch sets a member to `null`, the value has an object, be it without that
member. -/
def NullsMeetObjects (patch target : Json) : Prop :=
  ∀ path key, patch.path? (path ++ [key]) = some .null → (target.objectAt? path).isSome

/-- What merging makes of a value, at any depth of the patch: a member that is set to `null` is gone
if the value has an object there, and is `null` if it has none; a member that an object of the patch
does not have is as it was; an object leads to an object, and anything else, `null` only if it is
the whole patch, to itself. -/
structure MergedThroughout (target patch result : Json) : Prop where
  null : ∀ path key, patch.path? (path ++ [key]) = some .null →
    result.path? (path ++ [key]) = if (target.objectAt? path).isSome then none else some .null
  unnamed : ∀ path fields key, patch.path? path = some (.object fields) →
    Dictionary.get? fields key = none → result.path? (path ++ [key]) = target.path? (path ++ [key])
  object : ∀ path fields, patch.path? path = some (.object fields) →
    (result.objectAt? path).isSome
  plain : ∀ path v, patch.path? path = some v → (∀ fields, v ≠ .object fields) →
    (v = .null → path = []) → result.path? path = some v

section Paths

variable {v : Json} {path : List String}

theorem path?_cons (v : Json) (key : String) (path : List String) :
    v.path? (key :: path) = (v.get? key).bind (·.path? path) := rfl

theorem objectAt?_cons (v : Json) (key : String) (path : List String) :
    v.objectAt? (key :: path) = (v.get? key).bind (·.objectAt? path) := by
  rw [objectAt?, path?_cons, Option.bind_assoc]
  rfl

theorem objectAt?_null (path : List String) : Json.null.objectAt? path = none := by
  cases path <;> rfl

/-- A member that is not there has as little in it as `null`. -/
theorem objectAt?_getD_null (v : Json) (key : String) (path : List String) :
    ((v.get? key).getD .null).objectAt? path = v.objectAt? (key :: path) := by
  rw [objectAt?_cons]
  cases v.get? key with
  | none => rw [Option.getD_none, objectAt?_null, Option.bind_none]
  | some w => rfl

theorem path?_concat (v : Json) (path : List String) (key : String) :
    v.path? (path ++ [key]) = (v.path? path).bind (·.get? key) := by
  induction path generalizing v with
  | nil =>
    rw [List.nil_append, path?_cons]
    cases hv : v.get? key <;> simp [path?, hv]
  | cons k path ih =>
    rw [List.cons_append, path?_cons, path?_cons, Option.bind_assoc]
    simp only [ih]

/-- Where there is nothing there is nothing but `null` below, either. -/
theorem getD_path?_getD_null (v : Json) (key : String) (path : List String) :
    (((v.get? key).getD .null).path? path).getD .null = (v.path? (key :: path)).getD .null := by
  rw [path?_cons]
  cases v.get? key with
  | none => cases path <;> rfl
  | some w => rfl

/-- A patch with something below a key is an object. -/
theorem exists_of_path?_cons (h : p.path? (key :: path) = some v) :
    ∃ patch w, p = .object patch ∧ Dictionary.get? patch key = some w ∧ w.path? path = some v := by
  obtain ⟨w, hw, hpath⟩ := Option.bind_eq_some_iff.1 h
  rcases eq_object_or p with ⟨patch, rfl⟩ | hplain
  · exact ⟨patch, w, rfl, hw, hpath⟩
  · rw [get?_of_not_object hplain] at hw
    cases hw

/-- What has a member is an object. -/
theorem exists_of_path?_concat (h : p.path? (path ++ [key]) = some v) :
    ∃ fields, p.path? path = some (.object fields) ∧ Dictionary.get? fields key = some v := by
  rw [path?_concat] at h
  obtain ⟨w, hw, hget⟩ := Option.bind_eq_some_iff.1 h
  rcases eq_object_or w with ⟨fields, rfl⟩ | hplain
  · exact ⟨fields, hw, hget⟩
  · rw [get?_of_not_object hplain] at hget
    cases hget

theorem ne_null_of_path? (h : p.path? path = some v) (hv : v ≠ .null) : p ≠ .null := by
  rintro rfl
  cases path with
  | nil => exact hv (Option.some.inj h).symm
  | cons _ _ => cases h

theorem Canonical.of_path? (h : p.Canonical) (hv : p.path? path = some v) : v.Canonical := by
  induction path generalizing p with
  | nil =>
    obtain rfl : p = v := Option.some.inj hv
    exact h
  | cons key path ih =>
    obtain ⟨patch, w, rfl, hw, hpath⟩ := exists_of_path?_cons hv
    exact ih (h.of_get? hw) hpath

/-- At any depth of the patch but at a `null`, merging puts what is merged there into what the value
has there. -/
theorem path?_merge (hp : p.Canonical) (h : p.path? path = some v) (hv : v ≠ .null) :
    (merge t p).path? path = some (merge ((t.path? path).getD .null) v) := by
  induction path generalizing t p with
  | nil =>
    obtain rfl : p = v := Option.some.inj h
    rfl
  | cons key path ih =>
    obtain ⟨patch, w, rfl, hw, hpath⟩ := exists_of_path?_cons h
    rw [path?_cons, get?_merge_object hp.nodup_keys hw (ne_null_of_path? hpath hv),
      Option.bind_some, ih (hp.of_get? hw) hpath, getD_path?_getD_null]

end Paths

/-- What merging makes of a value. -/
theorem mergedThroughout_merge (hp : p.Canonical) : MergedThroughout t p (merge t p) where
  null path key h := by
    obtain ⟨fields, hpath, hnull⟩ := exists_of_path?_concat h
    rw [path?_concat, path?_merge hp hpath (by simp), Option.bind_some,
      get?_merge_of_null (hp.of_path? hpath).nodup_keys hnull, objectAt?]
    cases t.path? path <;> rfl
  unnamed path fields key h hfields := by
    rw [path?_concat, path?_merge hp h (by simp), Option.bind_some,
      get?_merge_of_absent (hp.of_path? h).nodup_keys hfields, path?_concat]
    cases t.path? path <;> rfl
  object path fields h := by
    rw [objectAt?, path?_merge hp h (by simp), Option.bind_some]
    cases (t.path? path).getD .null <;> rfl
  plain path v h hplain hnull := by
    by_cases hv : v = .null
    · rw [hnull hv] at h ⊢
      obtain rfl : p = v := Option.some.inj h
      rw [merge_of_not_object hplain]
      rfl
    · rw [path?_merge hp h hv, merge_of_not_object hplain]

/-! ## Where merging keeps to the rules -/

/-- The members of a patch meet objects in the members of the value. -/
theorem NullsMeetObjects.of_get? {v : Json} (h : (object patch).NullsMeetObjects t)
    (hv : Dictionary.get? patch key = some v) :
    v.NullsMeetObjects ((t.get? key).getD .null) := by
  intro path last hnull
  rw [objectAt?_getD_null]
  apply h (key :: path) last
  rw [List.cons_append, path?_cons, get?_object, hv]
  exact hnull

/-- Merging keeps to the rules of merge patches if the value has an object for every `null` of the
patch. -/
theorem NullsMeetObjects.patches (h : p.NullsMeetObjects t) (ht : t.Canonical)
    (hp : p.Canonical) : Patches t p (merge t p) := by
  induction p using member_induction generalizing t with
  | plain p hplain =>
    rw [merge_of_not_object hplain]
    exact .replaced hplain
  | members patch ih =>
    -- Where there is no member, merging begins with `null` and the rules with an empty object.
    have hpatched : ∀ key v, Dictionary.get? patch key = some v →
        Patches ((t.get? key).getD (.object [])) v (merge ((t.get? key).getD .null) v) := by
      intro key v hv
      have hmember := ih (key, v) (Dictionary.mem_of_get?_eq_some hv) (h.of_get? hv)
        (ht.getD_get? key) (hp.of_get? hv)
      apply hmember.congr
      intro inner
      cases t.get? key <;> rfl
    obtain ⟨result, hresult, hordered⟩ := exists_merge_object ht hp
    have hkeys := hp.nodup_keys
    have hget : ∀ key, Dictionary.get? result key = (merge t (.object patch)).get? key := by
      intro key
      rw [hresult, get?_object]
    rw [hresult]
    refine .members hordered ?_ ?_ ?_ ?_
    · intro key hv
      have hobject : t.asObject?.isSome := by
        apply h [] key
        rw [List.nil_append, path?_cons, get?_object, hv]
        rfl
      rw [hget, get?_merge_of_null hkeys hv, if_pos hobject]
    · intro key hv
      rw [hget, get?_merge_of_absent hkeys hv]
    · intro key v hv hne
      rw [hget, get?_merge_object hkeys hv hne]
      rfl
    · intro key v new hv hne hnew
      rw [hget, get?_merge_object hkeys hv hne] at hnew
      obtain rfl := Option.some.inj hnew
      exact hpatched key v hv

/-- At any depth an object of the patch has patched what is there. -/
theorem Patches.exists_path? {r : Json} {path : List String} (h : Patches t p r)
    (hpath : p.path? path = some (.object fields)) :
    ∃ target result, r.path? path = some result ∧ Patches target (.object fields) result := by
  induction path generalizing t p r with
  | nil =>
    obtain rfl : p = .object fields := Option.some.inj hpath
    exact ⟨t, r, rfl, h⟩
  | cons key path ih =>
    obtain ⟨patch, w, rfl, hw, hrest⟩ := exists_of_path?_cons hpath
    have hne : w ≠ .null := ne_null_of_path? hrest (by simp)
    cases h with
    | replaced hplain => exact absurd rfl (hplain _)
    | members ordered erased kept present patched =>
      obtain ⟨new, hnew⟩ := Option.isSome_iff_exists.1 (present key w hw hne)
      rw [path?_cons, get?_object, hnew, Option.bind_some]
      exact ih (patched key w new hw hne hnew) hrest

/-- A member that is set to `null` is gone, at any depth. -/
theorem Patches.path?_null {r : Json} (h : Patches t p r) {path : List String}
    (hnull : p.path? (path ++ [key]) = some .null) : r.path? (path ++ [key]) = none := by
  obtain ⟨fields, hpath, hkey⟩ := exists_of_path?_concat hnull
  obtain ⟨target, result, hresult, hpatches⟩ := h.exists_path? hpath
  rw [path?_concat, hresult, Option.bind_some]
  cases hpatches with
  | replaced hplain => exact absurd rfl (hplain _)
  | members ordered erased kept present patched => exact erased key hkey

/-- The patch meets an object for every `null` in what it has been merged into. -/
theorem nullsMeetObjects_merge (hp : p.Canonical) : p.NullsMeetObjects (merge t p) := by
  intro path key hnull
  obtain ⟨fields, hfields, -⟩ := exists_of_path?_concat hnull
  exact (mergedThroughout_merge hp).object path fields hfields

/-- Merging makes of a value what a merge patch makes of it exactly if the value has an object for
every `null` of the patch, and exactly then merging once more changes nothing.  What merging makes
of a value in any case differs from it only in those members that are set to `null` where the value
has no object: they are there, and are `null`. -/
theorem merge_patches_iff (ht : t.Canonical) (hp : p.Canonical) :
    MergedThroughout t p (merge t p) ∧
    (Patches t p (merge t p) ↔ p.NullsMeetObjects t) ∧
    (merge (merge t p) p = merge t p ↔ p.NullsMeetObjects t) := by
  have hlaw := mergedThroughout_merge (t := t) hp
  have htwice : Patches (merge t p) p (merge (merge t p) p) :=
    (nullsMeetObjects_merge hp).patches (ht.merge hp) hp
  -- A `null` that meets no object is left after one merging, and gone where the rules are kept to.
  have hmeets : (∀ path key, p.path? (path ++ [key]) = some .null →
      (merge t p).path? (path ++ [key]) = none) → p.NullsMeetObjects t := by
    intro hgone path key hnull
    by_contra hno
    have hleft := hlaw.null path key hnull
    rw [if_neg hno, hgone path key hnull] at hleft
    cases hleft
  refine ⟨hlaw, ⟨?_, fun h => h.patches ht hp⟩, ?_, ?_⟩
  · intro h
    exact hmeets fun path key hnull => h.path?_null hnull
  · intro heq
    rw [heq] at htwice
    exact hmeets fun path key hnull => htwice.path?_null hnull
  · intro h
    exact htwice.unique (h.patches ht hp).idem

/-- A fragment that names a country and takes the city out. -/
def countryOnly : Json :=
  .object [("geo", .object [("city", .null), ("country", .string "US")])]

/-- A visitor in a city. -/
def inParis : Json := .object [("geo", .object [("city", .string "Paris")])]

/-- Merged into a visitor in a city the fragment takes the city out, once and for all.  Merged into
a visitor of whom nothing is known it leaves a city that is `null`, and takes it out the second
time. -/
theorem merge_patches_iff_countryOnly :
    (inParis.Canonical ∧ (object []).Canonical ∧ countryOnly.Canonical) ∧
    Patches inParis countryOnly (merge inParis countryOnly) ∧
    ¬ Patches (.object []) countryOnly (merge (.object []) countryOnly) ∧
    (merge (.object []) countryOnly).path? ["geo", "city"] = some .null ∧
    (merge (merge (.object []) countryOnly) countryOnly).path? ["geo", "city"] = none := by
  have hparis : inParis.Canonical :=
    ⟨by decide, ⟨by decide, trivial, trivial⟩, trivial⟩
  have hempty : (object []).Canonical := ⟨by decide, trivial⟩
  have hcountry : countryOnly.Canonical :=
    ⟨by decide, ⟨by decide, trivial, trivial, trivial⟩, trivial⟩
  obtain ⟨-, hparisPatches, hparisTwice⟩ := merge_patches_iff hparis hcountry
  obtain ⟨hlaw, hemptyPatches, -⟩ := merge_patches_iff hempty hcountry
  refine ⟨⟨hparis, hempty, hcountry⟩, hparisPatches.2 (hparisTwice.1 rfl), ?_,
    hlaw.null ["geo"] "city" rfl, rfl⟩
  intro h
  have hmeets : ((object []).objectAt? ["geo"]).isSome := hemptyPatches.1 h ["geo"] "city" rfl
  cases hmeets

end Json

end AdExchange
