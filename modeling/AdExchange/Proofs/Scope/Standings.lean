import AdExchange.Proofs.Scope.Outcome

/-!
# What becomes of a name

A name leads to a partner of the catalog, as its own name or, if the catalog does not have it, as
another name that the request declares.  Of the decisions on a name the last one counts: an earlier
one that bars the name is overruled by a later one that does not.
-/

namespace AdExchange

/-! ## The catalog -/

namespace Catalog

/-- A name leads to the partner of that name or, if there is none, to the partner that it is another
name for. -/
inductive LeadsTo (catalog : Catalog) (aliases : Dictionary String) (name : String) :
    Partner → Prop where
  | own {partner : Partner} (h : catalog.get? name = some partner) :
    LeadsTo catalog aliases name partner
  | other {code : String} {partner : Partner} (hown : catalog.get? name = none)
    (hcode : Dictionary.get? aliases name = some code) (h : catalog.get? code = some partner) :
    LeadsTo catalog aliases name partner

variable {catalog : Catalog} {aliases : Dictionary String} {name : String} {partner : Partner}

theorem resolve?_eq_some_iff :
    catalog.resolve? aliases name = some partner ↔ catalog.LeadsTo aliases name partner := by
  rw [resolve?, Option.or_eq_some_iff, Option.bind_eq_some_iff]
  constructor
  · rintro (h | ⟨hown, code, hcode, h⟩)
    · exact .own h
    · exact .other hown hcode h
  · rintro (h | ⟨hown, hcode, h⟩)
    · exact .inl h
    · exact .inr ⟨hown, _, hcode, h⟩

theorem resolve?_eq_none_iff :
    catalog.resolve? aliases name = none ↔ catalog.get? name = none ∧
      ∀ code, Dictionary.get? aliases name = some code → catalog.get? code = none := by
  rw [resolve?, Option.or_eq_none_iff, Option.bind_eq_none_iff]

end Catalog

/-! ## The decisions -/

namespace PrivacyDecision

/-- Some decision on a name bars it. -/
def Blocks (decisions : List PrivacyDecision) (name : String) : Prop :=
  ∃ d ∈ decisions, d.partner = name ∧ d.blocked = true

/-- The last decision on a name bars it. -/
def Bars (decisions : List PrivacyDecision) (name : String) : Prop :=
  ∃ before d after, decisions = before ++ d :: after ∧ d.partner = name ∧ d.blocked = true ∧
    ∀ later ∈ after, later.partner ≠ name

variable {decisions : List PrivacyDecision} {name : String} {d : PrivacyDecision}

theorem forPartner?_eq_some_iff :
    forPartner? decisions name = some d ↔ d.partner = name ∧
      ∃ before after, decisions = before ++ d :: after ∧ ∀ later ∈ after, later.partner ≠ name := by
  rw [forPartner?, List.find?_eq_some_iff_append, beq_iff_eq]
  refine and_congr_right fun _ => ?_
  constructor
  · rintro ⟨after, before, hsplit, hafter⟩
    refine ⟨before.reverse, after.reverse, by simpa using congrArg List.reverse hsplit, ?_⟩
    intro later hlater
    simpa using hafter later (List.mem_reverse.1 hlater)
  · rintro ⟨before, after, rfl, hafter⟩
    refine ⟨after.reverse, before.reverse, by simp, ?_⟩
    intro later hlater
    simpa using hafter later (List.mem_reverse.1 hlater)

/-- A name is barred exactly if the decision that counts for it bars it. -/
theorem bars_iff_forPartner? :
    Bars decisions name ↔ ((forPartner? decisions name).map (·.blocked)).getD false = true := by
  constructor
  · rintro ⟨before, d, after, hsplit, hname, hblocked, hafter⟩
    rw [forPartner?_eq_some_iff.2 ⟨hname, before, after, hsplit, hafter⟩]
    exact hblocked
  · intro h
    cases hd : forPartner? decisions name with
    | none => simp [hd] at h
    | some d =>
      obtain ⟨hname, before, after, hsplit, hafter⟩ := forPartner?_eq_some_iff.1 hd
      exact ⟨before, d, after, hsplit, hname, by simpa [hd] using h, hafter⟩

/-- A name that is barred has a decision that bars it. -/
theorem Bars.blocks (h : Bars decisions name) : Blocks decisions name := by
  obtain ⟨before, d, after, rfl, hname, hblocked, -⟩ := h
  exact ⟨d, by simp, hname, hblocked⟩

/-- Where no name has two decisions, the last one is the only one. -/
theorem bars_iff_blocks (honce : (decisions.map (·.partner)).Nodup) :
    Bars decisions name ↔ Blocks decisions name := by
  refine ⟨Bars.blocks, ?_⟩
  rintro ⟨d, hd, hname, hblocked⟩
  obtain ⟨before, after, rfl⟩ := List.append_of_mem hd
  refine ⟨before, d, after, rfl, hname, hblocked, ?_⟩
  intro later hlater heq
  rw [List.map_append, List.map_cons] at honce
  have hfresh := (List.nodup_cons.1 (List.nodup_append.1 honce).2.1).1
  exact hfresh (List.mem_map.2 ⟨later, hlater, heq.trans hname.symm⟩)

end PrivacyDecision

/-! ## Names -/

inductive NameClass where
  | unknown
  | disabled
  | blocked
  | emitted
  deriving DecidableEq, Inhabited

namespace NameClass

/-- What becomes of a name that is barred or is not: it is unknown if it leads to no partner, and
disabled if the partner takes no part in auctions; else it is blocked if it is barred, and emitted
if it is not. -/
inductive Holds (catalog : Catalog) (aliases : Dictionary String) (barred : Prop) (name : String) :
    NameClass → Prop where
  | unknown (hown : catalog.get? name = none)
    (hother : ∀ code, Dictionary.get? aliases name = some code → catalog.get? code = none) :
    Holds catalog aliases barred name .unknown
  | disabled {partner : Partner} (h : catalog.LeadsTo aliases name partner)
    (hoff : partner.enabled = false) : Holds catalog aliases barred name .disabled
  | blocked {partner : Partner} (h : catalog.LeadsTo aliases name partner)
    (hon : partner.enabled = true) (hbarred : barred) : Holds catalog aliases barred name .blocked
  | emitted {partner : Partner} (h : catalog.LeadsTo aliases name partner)
    (hon : partner.enabled = true) (hfree : ¬ barred) : Holds catalog aliases barred name .emitted

def warning? (name : String) : NameClass → Option ScopeWarning
  | .unknown => some (.unknown name)
  | .disabled => some (.disabled name)
  | .blocked => none
  | .emitted => none

end NameClass

namespace Standing

/-- What becomes of a name, without the partner that is asked. -/
def nameClass : Standing → NameClass
  | .unknown => .unknown
  | .disabled => .disabled
  | .blocked => .blocked
  | .eligible _ _ => .emitted

theorem nameClass_eq_emitted_iff {standing : Standing} :
    standing.nameClass = .emitted ↔ ∃ partner decision, standing = .eligible partner decision := by
  cases standing <;> simp [nameClass]

variable {catalog : Catalog} {aliases : Dictionary String} {decisions : List PrivacyDecision}
  {name : String}

/-- Each name is in a class. -/
theorem holds_nameClass_of :
    (Standing.of catalog aliases decisions name).nameClass.Holds catalog aliases
      (PrivacyDecision.Bars decisions name) name := by
  rw [Standing.of]
  cases hresolve : catalog.resolve? aliases name with
  | none =>
    obtain ⟨hown, hother⟩ := Catalog.resolve?_eq_none_iff.1 hresolve
    exact .unknown hown hother
  | some partner =>
    have hleads := Catalog.resolve?_eq_some_iff.1 hresolve
    cases hon : partner.enabled with
    | false =>
      simp only [hon, Bool.not_false, if_true]
      exact .disabled hleads hon
    | true =>
      simp only [hon, Bool.not_true, Bool.false_eq_true, if_false]
      by_cases hbars : PrivacyDecision.Bars decisions name
      · rw [if_pos (PrivacyDecision.bars_iff_forPartner?.1 hbars)]
        exact .blocked hleads hon hbars
      · rw [if_neg (mt PrivacyDecision.bars_iff_forPartner?.2 hbars)]
        exact .emitted hleads hon hbars

/-- Each name is in one class only. -/
theorem nameClass_of_holds {k : NameClass}
    (h : k.Holds catalog aliases (PrivacyDecision.Bars decisions name) name) :
    (Standing.of catalog aliases decisions name).nameClass = k := by
  rw [Standing.of]
  cases h with
  | unknown hown hother =>
    rw [Catalog.resolve?_eq_none_iff.2 ⟨hown, hother⟩]
    rfl
  | disabled hleads hoff =>
    rw [Catalog.resolve?_eq_some_iff.2 hleads]
    simp [hoff, nameClass]
  | blocked hleads hon hbars =>
    rw [Catalog.resolve?_eq_some_iff.2 hleads]
    simp [hon, PrivacyDecision.bars_iff_forPartner?.1 hbars, nameClass]
  | emitted hleads hon hfree =>
    rw [PrivacyDecision.bars_iff_forPartner?] at hfree
    rw [Catalog.resolve?_eq_some_iff.2 hleads]
    simp [hon, hfree, nameClass]

theorem nameClass_of_eq_iff {k : NameClass} :
    (Standing.of catalog aliases decisions name).nameClass = k ↔
      k.Holds catalog aliases (PrivacyDecision.Bars decisions name) name := by
  constructor
  · rintro rfl
    exact holds_nameClass_of
  · exact nameClass_of_holds

end Standing

section Scope

variable {request : BidRequest} {catalog : Catalog} {multibid : Dictionary MultiBid}
  {decisions : List PrivacyDecision} {deadline : Deadline} {now : Nat} {s : ScopedRequests}

/-- Where scoping succeeds, the names that have a request are those that are to have one. -/
theorem requestFor?_isSome_iff {name : String}
    (h : scope request catalog multibid decisions deadline now = .ok s)
    (hname : name ∈ request.partnerNames) :
    (requestFor? request catalog multibid decisions deadline now name).isSome ↔
      (Standing.of catalog request.aliases decisions name).nameClass = .emitted := by
  obtain ⟨-, parts, hparts, -⟩ := scope_eq_ok_iff.1 h
  rw [Standing.nameClass_eq_emitted_iff, Option.isSome_iff_exists]
  constructor
  · rintro ⟨q, hq⟩
    obtain ⟨partner, decision, -, hstanding, -⟩ := requestFor?_eq_some_iff.1 hq
    exact ⟨partner, decision, hstanding⟩
  · rintro ⟨partner, decision, hstanding⟩
    obtain ⟨part, -, hpart⟩ := exists_of_mem_left hparts hname
    rw [contribution, hstanding] at hpart
    obtain ⟨own, hown, -⟩ := bind_eq_ok_iff.1 hpart
    exact ⟨_, requestFor?_eq_some_iff.2 ⟨partner, decision, own, hstanding, hown, rfl⟩⟩

/-- The requests of a successful scoping are for the names that are to have one, in their order. -/
theorem partners_eq_filter (h : scope request catalog multibid decisions deadline now = .ok s) :
    s.requests.map (·.partner) = request.partnerNames.filter fun name =>
      (Standing.of catalog request.aliases decisions name).nameClass = .emitted := by
  rw [partners_of_scope h]
  refine List.filter_congr ?_
  intro name hname
  rw [Bool.eq_iff_iff, requestFor?_isSome_iff h hname, decide_eq_true_iff]

end Scope

end AdExchange
