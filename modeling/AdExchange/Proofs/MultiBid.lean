import AdExchange.MultiBid

/-!
# Which multibid declaration counts

Of several declarations that name a bidder the first one with a limit counts.  One without a limit
does not stand in the way of a later one, and a later one does not change what is set already, so
more declarations can only set more bidders and warn of more.

## Main definitions

* `MultiBidDeclaration.settingFor?` — the setting that one declaration makes for a bidder.
* `MultiBidDeclaration.Names`, `MultiBidDeclaration.Makes` — the same, said by what is declared.

## Main statements

* `MultiBid.get?_resolve` — the first declaration with a setting for a bidder counts.
* `MultiBid.warnings_resolve_append` — more declarations add warnings behind those that are there.
* `MultiBid.resolve_toDeclaration` — a setting is that of its own declaration.
* `MultiBid.resolve_first_counts` — all of it for a list of declarations.
-/

namespace AdExchange

/-! ## The setting of one declaration -/

/-- The setting that a declaration makes for a bidder; none without a limit.  Only a declaration for
a single bidder has a code for its further bids. -/
def MultiBidDeclaration.settingFor? (d : MultiBidDeclaration) (name : String) : Option MultiBid :=
  match d.bidder with
  | some bidder =>
    if bidder = name then d.maxBids.map (⟨name, ·, d.targetBidderCodePrefix⟩) else none
  | none => if name ∈ d.bidders.getD [] then d.maxBids.map (⟨name, ·, none⟩) else none

namespace MultiBidDeclaration

/-- The declaration is for a bidder: for this one alone, or, if it is not for a single bidder, for
several with this one among them. -/
def Names (d : MultiBidDeclaration) (name : String) : Prop :=
  d.bidder = some name ∨ d.bidder = none ∧ name ∈ d.bidders.getD []

/-- The declaration makes a setting: it is for its bidder and has its limit, and only if it is for a
single bidder does its code prefix count. -/
structure Makes (d : MultiBidDeclaration) (m : MultiBid) : Prop where
  names : d.Names m.bidder
  limit : d.maxBids = some m.maxBids
  codePrefix : m.targetBidderCodePrefix =
    if d.bidder.isSome then d.targetBidderCodePrefix else none

variable {d : MultiBidDeclaration} {name : String} {m : MultiBid}

theorem settingFor?_isSome_iff :
    (d.settingFor? name).isSome ↔ d.maxBids.isSome ∧ d.Names name := by
  rw [settingFor?, Names]
  cases d.bidder with
  | some bidder => by_cases h : bidder = name <;> simp [h]
  | none => by_cases h : name ∈ d.bidders.getD [] <;> simp [h]

theorem settingFor?_eq_some_iff :
    d.settingFor? name = some m ↔ m.bidder = name ∧ d.Makes m := by
  constructor
  · intro h
    obtain ⟨-, hnames⟩ := settingFor?_isSome_iff.1 (Option.isSome_of_eq_some h)
    rw [settingFor?] at h
    split at h
    · next hbidder =>
      obtain ⟨-, h⟩ := Option.ite_none_right_eq_some.1 h
      obtain ⟨n, hn, rfl⟩ := Option.map_eq_some_iff.1 h
      exact ⟨rfl, hnames, hn, by simp [hbidder]⟩
    · next hbidder =>
      obtain ⟨-, h⟩ := Option.ite_none_right_eq_some.1 h
      obtain ⟨n, hn, rfl⟩ := Option.map_eq_some_iff.1 h
      exact ⟨rfl, hnames, hn, by simp [hbidder]⟩
  · rintro ⟨rfl, hnames, hlimit, hprefix⟩
    obtain ⟨bidder, n, code⟩ := m
    dsimp only at hnames hlimit hprefix ⊢
    rw [settingFor?]
    rcases hnames with hbidder | ⟨hbidder, hlisted⟩
    · simp [hbidder, hlimit, hprefix]
    · simp [hbidder, hlisted, hlimit, hprefix]

theorem maxBids_of_settingFor? (h : d.settingFor? name = some m) : d.maxBids = some m.maxBids :=
  (settingFor?_eq_some_iff.1 h).2.limit

end MultiBidDeclaration

/-! ## The settings of a list of declarations -/

namespace MultiBid

namespace Resolution

def get? (r : Resolution) (name : String) : Option MultiBid := Dictionary.get? r.configs name

@[simp] theorem get?_warn (r : Resolution) (w : MultiBidWarning) (name : String) :
    (r.warn w).get? name = r.get? name := rfl

/-- A setting that is already there stays. -/
theorem get?_set (r : Resolution) (m : MultiBid) (name : String) :
    (r.set m).get? name = (r.get? name).or (if m.bidder = name then some m else none) := by
  rw [set, Dictionary.contains]
  cases hold : Dictionary.get? r.configs m.bidder with
  | some old =>
    by_cases hname : m.bidder = name
    · subst hname
      simp [get?, warn, hold]
    · simp [hname]
  | none =>
    by_cases hname : m.bidder = name
    · subst hname
      simp [get?, hold]
    · simp [get?, hname, Dictionary.get?_insert_of_ne _ _ (Ne.symm hname)]

theorem get?_foldl_set (r : Resolution) (bidders : List String) (n : UInt32) (name : String) :
    (bidders.foldl (fun r bidder => r.set ⟨bidder, n, none⟩) r).get? name =
      (r.get? name).or (if name ∈ bidders then some ⟨name, n, none⟩ else none) := by
  induction bidders generalizing r with
  | nil => simp
  | cons bidder rest ih =>
    rw [List.foldl_cons, ih, get?_set, Option.or_assoc]
    by_cases hname : bidder = name
    · simp [hname]
    · simp [hname, Ne.symm hname]

/-- A declaration makes its setting for each bidder that has none. -/
theorem get?_declare (r : Resolution) (d : MultiBidDeclaration) (name : String) :
    (r.declare d).get? name = (r.get? name).or (d.settingFor? name) := by
  rw [declare, MultiBidDeclaration.settingFor?]
  cases d.bidder with
  | some bidder =>
    have hwarned : (if (d.bidders.getD []).isEmpty then r
        else r.warn (.bothForms bidder (d.bidders.getD []))).get? name = r.get? name := by
      split <;> rfl
    dsimp only
    generalize (if (d.bidders.getD []).isEmpty then r
      else r.warn (.bothForms bidder (d.bidders.getD []))) = warned at hwarned ⊢
    cases d.maxBids with
    | none => simp [hwarned]
    | some n =>
      by_cases hname : bidder = name
      · simp [get?_set, hwarned, hname]
      · simp [get?_set, hwarned, hname]
  | none =>
    cases d.bidders.getD [] with
    | nil => simp
    | cons first rest =>
      cases d.maxBids with
      | none => cases d.targetBidderCodePrefix <;> simp
      | some n =>
        cases d.targetBidderCodePrefix <;> simp only [get?_foldl_set, get?_warn, Option.map_some]

end Resolution

/-- The first declaration with a setting for a bidder counts. -/
theorem get?_resolve (declarations : List MultiBidDeclaration) (name : String) :
    Dictionary.get? (resolve declarations).configs name =
      declarations.findSome? (·.settingFor? name) := by
  have hfold : ∀ r : Resolution, (declarations.foldl Resolution.declare r).get? name =
      (r.get? name).or (declarations.findSome? (·.settingFor? name)) := by
    induction declarations with
    | nil => simp
    | cons d rest ih =>
      intro r
      rw [List.foldl_cons, ih, Resolution.get?_declare, Option.or_assoc, List.findSome?_cons]
      cases d.settingFor? name <;> rfl
  exact hfold {}

/-! ### Warnings -/

namespace Resolution

theorem warnings_prefix_warn (r : Resolution) (w : MultiBidWarning) :
    r.warnings <+: (r.warn w).warnings := List.prefix_append _ _

theorem warnings_prefix_set (r : Resolution) (m : MultiBid) :
    r.warnings <+: (r.set m).warnings := by
  rw [set]
  split
  · exact r.warnings_prefix_warn _
  · exact List.prefix_rfl

theorem warnings_prefix_foldl {α : Type} {f : Resolution → α → Resolution}
    (hf : ∀ r a, r.warnings <+: (f r a).warnings) (r : Resolution) (l : List α) :
    r.warnings <+: (l.foldl f r).warnings := by
  induction l generalizing r with
  | nil => exact List.prefix_rfl
  | cons a rest ih => exact (hf r a).trans (ih (f r a))

/-- A declaration takes no warning back. -/
theorem warnings_prefix_declare (r : Resolution) (d : MultiBidDeclaration) :
    r.warnings <+: (r.declare d).warnings := by
  have hwarnIf : ∀ (c : Bool) (w : MultiBidWarning),
      r.warnings <+: (if c then r else r.warn w).warnings := by
    intro c w
    split
    · exact List.prefix_rfl
    · exact r.warnings_prefix_warn w
  rw [declare]
  cases d.bidder with
  | some bidder =>
    dsimp only
    cases d.maxBids with
    | none => exact (hwarnIf _ _).trans (warnings_prefix_warn _ _)
    | some n => exact (hwarnIf _ _).trans (warnings_prefix_set _ _)
  | none =>
    cases d.bidders.getD [] with
    | nil => exact r.warnings_prefix_warn _
    | cons first rest =>
      have hwarned : r.warnings <+: (match d.targetBidderCodePrefix with
          | some p => r.warn (.prefixIgnored p (first :: rest))
          | none => r).warnings := by
        split
        · exact r.warnings_prefix_warn _
        · exact List.prefix_rfl
      cases d.maxBids with
      | none => exact hwarned.trans (warnings_prefix_warn _ _)
      | some n =>
        refine hwarned.trans (warnings_prefix_foldl ?_ _ _)
        intro r bidder
        exact r.warnings_prefix_set _

end Resolution

/-- More declarations add warnings behind those that are there. -/
theorem warnings_resolve_append (declarations more : List MultiBidDeclaration) :
    (resolve declarations).warnings <+: (resolve (declarations ++ more)).warnings := by
  rw [resolve, resolve, List.foldl_append]
  exact Resolution.warnings_prefix_foldl Resolution.warnings_prefix_declare _ more

/-! ### The first declaration with a limit -/

variable {declarations : List MultiBidDeclaration} {name : String} {m : MultiBid}

theorem get?_resolve_isSome_iff :
    (Dictionary.get? (resolve declarations).configs name).isSome ↔
      ∃ d ∈ declarations, d.maxBids.isSome ∧ d.Names name := by
  rw [get?_resolve, List.findSome?_isSome_iff]
  simp only [MultiBidDeclaration.settingFor?_isSome_iff]

theorem get?_resolve_eq_some_iff :
    Dictionary.get? (resolve declarations).configs name = some m ↔
      m.bidder = name ∧ ∃ before d after, declarations = before ++ d :: after ∧ d.Makes m ∧
        ∀ earlier ∈ before, ¬ (earlier.maxBids.isSome ∧ earlier.Names name) := by
  simp only [get?_resolve, List.findSome?_eq_some_iff, MultiBidDeclaration.settingFor?_eq_some_iff,
    ← MultiBidDeclaration.settingFor?_isSome_iff, Option.not_isSome_iff_eq_none]
  constructor
  · rintro ⟨before, d, after, hsplit, ⟨hname, hmakes⟩, hbefore⟩
    exact ⟨hname, before, d, after, hsplit, hmakes, hbefore⟩
  · rintro ⟨hname, before, d, after, hsplit, hmakes, hbefore⟩
    exact ⟨before, d, after, hsplit, ⟨hname, hmakes⟩, hbefore⟩

/-- What is set stays, whatever else is declared. -/
theorem get?_resolve_append (more : List MultiBidDeclaration)
    (h : Dictionary.get? (resolve declarations).configs name = some m) :
    Dictionary.get? (resolve (declarations ++ more)).configs name = some m := by
  rw [get?_resolve] at h ⊢
  rw [List.findSome?_append, h, Option.some_or]

/-- A setting is that of its own declaration, about which there is nothing to warn of. -/
theorem resolve_toDeclaration (m : MultiBid) :
    resolve [m.toDeclaration] = ⟨[(m.bidder, m)], []⟩ := rfl

/-- A bidder has a setting exactly if a declaration with a limit names it, and the first one that
does is the one whose limit it has.  More declarations leave the setting and the warnings that are
there, and the declaration of a setting makes that setting and no other. -/
theorem resolve_first_counts (declarations : List MultiBidDeclaration) :
    (∀ name, (Dictionary.get? (resolve declarations).configs name).isSome ↔
      ∃ d ∈ declarations, d.maxBids.isSome ∧ d.Names name) ∧
    (∀ name m, Dictionary.get? (resolve declarations).configs name = some m ↔
      m.bidder = name ∧ ∃ before d after, declarations = before ++ d :: after ∧ d.Makes m ∧
        ∀ earlier ∈ before, ¬ (earlier.maxBids.isSome ∧ earlier.Names name)) ∧
    (∀ more,
      (∀ name m, Dictionary.get? (resolve declarations).configs name = some m →
        Dictionary.get? (resolve (declarations ++ more)).configs name = some m) ∧
      (resolve declarations).warnings <+: (resolve (declarations ++ more)).warnings) ∧
    ∀ name m, Dictionary.get? (resolve declarations).configs name = some m →
      resolve [m.toDeclaration] = ⟨[(name, m)], []⟩ := by
  refine ⟨fun _ => get?_resolve_isSome_iff, fun _ _ => get?_resolve_eq_some_iff, ?_, ?_⟩
  · intro more
    exact ⟨fun _ _ h => get?_resolve_append more h, warnings_resolve_append declarations more⟩
  · intro name m h
    obtain ⟨rfl, -⟩ := get?_resolve_eq_some_iff.1 h
    exact resolve_toDeclaration m

/-- A declaration for `b` without a limit, one for several bidders, and another one for `b`. -/
def repeatedFor : List MultiBidDeclaration :=
  [{ bidder := some "b", targetBidderCodePrefix := some "x" },
   { bidders := some ["b", "c", "b"], maxBids := some 3, targetBidderCodePrefix := some "y" },
   { bidder := some "b", maxBids := some 2, targetBidderCodePrefix := some "z" }]

/-- The second one counts, and still does if more is declared. -/
theorem resolve_first_counts_repeatedFor :
    Dictionary.get? (resolve repeatedFor).configs "b" = some ⟨"b", 3, none⟩ ∧
    Dictionary.get? (resolve (repeatedFor ++ repeatedFor)).configs "b" = some ⟨"b", 3, none⟩ ∧
    (resolve repeatedFor).warnings.length = 4 ∧
    (resolve repeatedFor).warnings <+: (resolve (repeatedFor ++ repeatedFor)).warnings ∧
    resolve [(⟨"b", 3, none⟩ : MultiBid).toDeclaration] = ⟨[("b", ⟨"b", 3, none⟩)], []⟩ := by
  have hset : Dictionary.get? (resolve repeatedFor).configs "b" = some ⟨"b", 3, none⟩ := by decide
  obtain ⟨-, -, hmore, hown⟩ := resolve_first_counts repeatedFor
  obtain ⟨hkept, hwarnings⟩ := hmore repeatedFor
  exact ⟨hset, hkept _ _ hset, by decide, hwarnings, hown _ _ hset⟩

end MultiBid

end AdExchange
