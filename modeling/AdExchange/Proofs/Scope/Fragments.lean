import AdExchange.Proofs.BidRequest.Sections
import AdExchange.Proofs.Json.MergePatch
import AdExchange.Scope.PartnerData

/-!
# Merging fragments touches only what they name

Fragments are merged into site, app and user of a request.  A section that no fragment is meant for
is left alone, and of any other one the members that its fragment does not name are written
afterwards as before.  Nothing else of the request is changed.
-/

namespace AdExchange

section Sections

variable {α : Type} {read : RawJson → Option α} {write : α → Json} {blank : α}
  {before after : Option α} {fragment : Option Json}

/-- What is kept of a section that a fragment may be merged into: all of it if there is no fragment,
and the members that the fragment does not name if there is one.  An absent section has no members.
A fragment without members changes nothing. -/
structure KeptBy (write : α → Json) (before : Option α) (fragment : Option Json)
    (after : Option α) : Prop where
  untouched : fragment = none → after = before
  members : ∀ patch, fragment = some (.object patch) → ∃ a, after = some a ∧
    ∀ key, key ∉ patch.map (·.1) → (write a).get? key = before.bind fun b => (write b).get? key
  empty : ∀ b, fragment = some (.object []) → before = some b → after = some b

/-- An absent section is written as a section without members. -/
theorem SectionLaws.elim_eq (laws : SectionLaws read write blank) (before : Option α) :
    before.elim (.object []) write = write (before.getD blank) := by
  cases before with
  | none => exact laws.write_blank.symm
  | some b => rfl

theorem SectionLaws.keptBy_mergeSection (laws : SectionLaws read write blank)
    (hbefore : ∀ b ∈ before, ∃ v, read v = some b)
    {form : JsonForm} (h : BidRequest.mergeSection form read write before fragment = .ok after) :
    KeptBy write before fragment after where
  untouched := by
    rintro rfl
    rw [BidRequest.mergeSection, Except.ok.injEq] at h
    exact h.symm
  members := by
    rintro patch rfl
    rw [BidRequest.mergeSection] at h
    split at h
    · next merged hmerged =>
      cases h
      refine ⟨merged, rfl, ?_⟩
      intro key hkey
      have hread : ∃ v, read v = some (before.getD blank) := by
        cases before with
        | none => exact ⟨_, laws.read_blank⟩
        | some b => exact hbefore b rfl
      obtain ⟨v, hv⟩ := hread
      obtain ⟨fields, hfields, hordered⟩ := laws.object (before.getD blank)
      rw [laws.elim_eq, hfields, Json.merge_object_object] at hmerged
      have hkept : Dictionary.get? (Json.mergeFields fields patch) key =
          (write (before.getD blank)).get? key := by
        rw [Json.get?_mergeFields_of_not_mem hkey, hfields, Json.get?_object]
      rw [laws.keeps hv (Json.ordered_mergeFields hordered patch) hmerged hkept]
      cases before with
      | none => rw [Option.getD_none, laws.write_blank, Option.bind_none, Json.get?_object,
          Dictionary.get?_nil]
      | some b => rfl
    · cases h
  empty := by
    rintro b rfl rfl
    obtain ⟨v, hv⟩ := hbefore b rfl
    obtain ⟨fields, hfields, -⟩ := laws.object b
    have hsame : (write b).merge (.object []) = write b := by
      rw [hfields, Json.merge_object_object, Json.mergeFields]
    simp only [BidRequest.mergeSection, Option.elim_some, hsame, laws.returns.read_write hv,
      Except.ok.injEq] at h
    exact h.symm

end Sections

/-! ## Requests -/

/-- What a field holds has been read. -/
theorem exists_read_of_optional? {α : Type} {read : RawJson → Option α} {m : Members}
    {name : String} {x : Option α} (h : m.optional? name read = some x) :
    ∀ a ∈ x, ∃ v, read v = some a := by
  intro a ha
  rw [Members.optional?] at h
  split at h
  · cases h
    cases ha
  · cases h
    cases ha
  · obtain ⟨b, hb, rfl⟩ := Option.map_eq_some_iff.1 h
    cases ha
    exact ⟨_, hb⟩

namespace BidRequest

variable {v : RawJson} {r merged : BidRequest} {f : OrtbFragments}

/-- The sections of a request that has been read have been read. -/
theorem exists_read_sections (h : read? v = some r) :
    (∀ s ∈ r.site, ∃ w, Site.read? w = some s) ∧ (∀ a ∈ r.app, ∃ w, App.read? w = some a) ∧
    (∀ u ∈ r.user, ∃ w, User.read? w = some u) := by
  simp only [read?, bind_eq_some_iff] at h
  obtain ⟨_, -, _, -, _, -, site, hsite, app, happ, _, -, user, huser, h⟩ := h
  obtain ⟨_, -, _, -, _, -, _, -, _, -, _, -, _, -, _, -, _, -, heq⟩ := h
  cases heq
  exact ⟨exists_read_of_optional? hsite, exists_read_of_optional? happ,
    exists_read_of_optional? huser⟩

theorem mergeFragments_eq_ok_iff :
    r.mergeFragments f = .ok merged ↔ ∃ site app user,
      mergeSection .site Site.read? Site.toJson r.site f.site = .ok site ∧
      mergeSection .app App.read? App.toJson r.app f.app = .ok app ∧
      mergeSection .user User.read? User.toJson r.user f.user = .ok user ∧
      ¬ (site.isSome ∧ app.isSome) ∧ merged = { r with site, app, user } := by
  simp only [mergeFragments, bind_eq_ok_iff]
  constructor
  · rintro ⟨site, hsite, app, happ, user, huser, h⟩
    split at h
    · cases h
    · next hapart =>
      cases h
      exact ⟨site, app, user, hsite, happ, huser, hapart, rfl⟩
  · rintro ⟨site, app, user, hsite, happ, huser, hapart, rfl⟩
    exact ⟨site, hsite, app, happ, user, huser, if_neg hapart⟩

end BidRequest

/-- Of a request that has been read, merging fragments changes nothing but the sections that they
are meant for, and of those only the members that they name.  There is not both a site and an app
afterwards. -/
theorem mergeFragments_keeps {v : RawJson} {r merged : BidRequest} {f : OrtbFragments}
    (hread : BidRequest.read? v = some r) (h : r.mergeFragments f = .ok merged) :
    KeptBy Site.toJson r.site f.site merged.site ∧
    KeptBy App.toJson r.app f.app merged.app ∧
    KeptBy User.toJson r.user f.user merged.user ∧
    { merged with site := r.site, app := r.app, user := r.user } = r ∧
    ¬ (merged.site.isSome ∧ merged.app.isSome) := by
  obtain ⟨hreadSite, hreadApp, hreadUser⟩ := BidRequest.exists_read_sections hread
  obtain ⟨site, app, user, hsite, happ, huser, hapart, rfl⟩ :=
    BidRequest.mergeFragments_eq_ok_iff.1 h
  exact ⟨Site.laws.keptBy_mergeSection hreadSite hsite, App.laws.keptBy_mergeSection hreadApp happ,
    User.laws.keptBy_mergeSection hreadUser huser, rfl, hapart⟩

/-- A request for a page, with members that are `null` and some that the exchange has no use for. -/
def pageText : RawJson :=
  .object
    [("id", .string "r"),
     ("site", .object
       [("keywords", .null), ("mobile", .null), ("name", .string "News"), ("page", .string "p"),
        ("content", .object [("data", .array [.null]), ("title", .string "t")])]),
     ("user", .object [("yob", .number (.integer 1980))])]

/-- Another page without a name, and nothing new about the visitor. -/
def otherPage : OrtbFragments where
  site := some (.object [("name", .null), ("page", .string "q")])
  user := some (.object [])

/-- The name is gone and the page is another one; the content and what the exchange has no use for
are written as before, and the visitor is the same. -/
theorem mergeFragments_keeps_otherPage : ∃ r merged,
    BidRequest.read? pageText = some r ∧ r.mergeFragments otherPage = .ok merged ∧
    (merged.site.map fun s => (s.name, s.page)) = some (none, some "q") ∧
    (∃ s s', r.site = some s ∧ merged.site = some s' ∧
      s'.toJson.get? "content" = s.toJson.get? "content" ∧
      s'.toJson.get? "mobile" = some .null) ∧
    merged.app = none ∧ merged.user = r.user := by
  have hread : BidRequest.read? pageText =
      some ((BidRequest.read? pageText).getD { id := "" }) := rfl
  have hmerged : ((BidRequest.read? pageText).getD { id := "" }).mergeFragments otherPage =
      .ok ((((BidRequest.read? pageText).getD { id := "" }).mergeFragments otherPage).toOption.getD
        { id := "" }) := rfl
  obtain ⟨hsite, happ, huser, -, -⟩ := mergeFragments_keeps hread hmerged
  obtain ⟨s', hs', hkept⟩ := hsite.members _ rfl
  exact ⟨_, _, hread, hmerged, rfl, ⟨_, s', rfl, hs', hkept "content" (by decide),
    hkept "mobile" (by decide)⟩, happ.untouched rfl, huser.empty _ rfl rfl⟩

end AdExchange
