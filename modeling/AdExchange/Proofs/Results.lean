import AdExchange.Results
import Mathlib.Data.List.Forall2

/-!
# Computations that may fail

A chain of computations succeeds exactly if every link does.  Over a list a successful run gives
one value for each item, in the order of the items.

## Main statements

* `bind_eq_ok_iff`, `bind_eq_error_iff`, `bind_eq_some_iff` — one computation after another.
* `mapM_eq_ok_iff`, `mapM_eq_some_iff` — one computation for each item of a list.
* `mapM_eq_error_iff`, `mapM_eq_none_iff` — it fails exactly if one of them does.
* `exists_of_mapM_eq_error` — it fails with what one of them fails with.
* `perm_failures_successes` — each result of a list is a failure or a success.
* `forall₂_filterMap` — each value of a partial function belongs to an item.
* `forall₂_failures` — each failure belongs to an item that has no value.
* `sublistForall₂_successes` — each success is the value of an item, in the order of the items.
* `sublistForall₂_comp` — what is made from some of what is made from some items.
* `map_eq_of_forall₂` — functions that agree on paired items.
* `map_filterMap_of_eq` — what the values of a partial function are for.
-/

namespace AdExchange

variable {ε α β : Type}

@[simp] theorem ok_bind (a : α) (f : α → Except ε β) : (Except.ok a >>= f) = f a := rfl

@[simp] theorem error_bind (e : ε) (f : α → Except ε β) :
    (Except.error e >>= f) = Except.error e := rfl

theorem except_map_map {γ : Type} (x : Except ε α) (f : α → β) (g : β → γ) :
    (x.map f).map g = x.map fun a => g (f a) := by
  cases x <;> rfl

/-- Two computations that are the same but for what is made of their results both fail, and in the
same way, or neither does. -/
theorem except_map_eq_map_cases {γ : Type} {x : Except ε α} {y : Except ε β} {f : α → γ}
    {g : β → γ} (h : x.map f = y.map g) :
    (∃ e, x = .error e ∧ y = .error e) ∨ ∃ a b, x = .ok a ∧ y = .ok b ∧ f a = g b := by
  cases x with
  | error e =>
    cases y with
    | error e' => exact .inl ⟨e, rfl, congrArg Except.error (Except.error.inj h).symm⟩
    | ok b => cases h
  | ok a =>
    cases y with
    | error e => cases h
    | ok b => exact .inr ⟨a, b, rfl, rfl, Except.ok.inj h⟩

theorem bind_eq_ok_iff {x : Except ε α} {f : α → Except ε β} {b : β} :
    (x >>= f) = .ok b ↔ ∃ a, x = .ok a ∧ f a = .ok b := by
  cases x with
  | error e => simp
  | ok a => simp

theorem bind_eq_error_iff {x : Except ε α} {f : α → Except ε β} {e : ε} :
    (x >>= f) = .error e ↔ x = .error e ∨ ∃ a, x = .ok a ∧ f a = .error e := by
  cases x with
  | error e => simp
  | ok a => simp

theorem bind_eq_some_iff {x : Option α} {f : α → Option β} {b : β} :
    (x >>= f) = some b ↔ ∃ a, x = some a ∧ f a = some b :=
  Option.bind_eq_some_iff

theorem exists_of_mem_left {R : α → β → Prop} {l : List α} {l' : List β}
    (h : List.Forall₂ R l l') {a : α} (ha : a ∈ l) : ∃ b ∈ l', R a b := by
  induction h with
  | nil => cases ha
  | cons hab _ ih =>
    rcases List.mem_cons.1 ha with rfl | ha
    · exact ⟨_, List.mem_cons_self, hab⟩
    · obtain ⟨b, hb, hR⟩ := ih ha
      exact ⟨b, List.mem_cons_of_mem _ hb, hR⟩

theorem exists_of_mem_right {R : α → β → Prop} {l : List α} {l' : List β}
    (h : List.Forall₂ R l l') {b : β} (hb : b ∈ l') : ∃ a ∈ l, R a b := by
  have hflip : List.Forall₂ (flip R) l' l := h.flip
  exact exists_of_mem_left hflip hb

theorem mapM_eq_ok_iff {f : α → Except ε β} {l : List α} {bs : List β} :
    l.mapM f = .ok bs ↔ List.Forall₂ (fun a b => f a = .ok b) l bs := by
  induction l generalizing bs with
  | nil => simp [pure, Except.pure, eq_comm]
  | cons a l ih =>
    rw [List.mapM_cons, List.forall₂_cons_left_iff]
    simp only [bind_eq_ok_iff, ih]
    constructor
    · rintro ⟨b, hb, cs, hcs, h⟩
      cases h
      exact ⟨b, cs, hb, hcs, rfl⟩
    · rintro ⟨b, cs, hb, hcs, rfl⟩
      exact ⟨b, hb, cs, hcs, rfl⟩

theorem mapM_eq_some_iff {f : α → Option β} {l : List α} {bs : List β} :
    l.mapM f = some bs ↔ List.Forall₂ (fun a b => f a = some b) l bs := by
  induction l generalizing bs with
  | nil => simp [eq_comm]
  | cons a l ih =>
    rw [List.mapM_cons, List.forall₂_cons_left_iff]
    simp only [Option.bind_eq_bind, Option.bind_eq_some_iff, ih]
    constructor
    · rintro ⟨b, hb, cs, hcs, h⟩
      cases h
      exact ⟨b, cs, hb, hcs, rfl⟩
    · rintro ⟨b, cs, hb, hcs, rfl⟩
      exact ⟨b, hb, cs, hcs, rfl⟩

theorem mapM_eq_none_iff {f : α → Option β} {l : List α} :
    l.mapM f = none ↔ ∃ a ∈ l, f a = none := by
  induction l with
  | nil => simp
  | cons a l ih =>
    rw [List.mapM_cons]
    cases hfa : f a with
    | none => simp [hfa]
    | some b =>
      cases hl : l.mapM f with
      | none => simpa [hfa, hl] using ih.1 hl
      | some bs =>
        have hno : ¬ ∃ a ∈ l, f a = none := fun h => by simp [ih.2 h] at hl
        simpa [hfa, hl] using hno

/-- What a failed run fails with is what one of the items fails with. -/
theorem exists_of_mapM_eq_error {f : α → Except ε β} {l : List α} {e : ε}
    (h : l.mapM f = .error e) : ∃ a ∈ l, f a = .error e := by
  induction l with
  | nil => cases h
  | cons a l ih =>
    rw [List.mapM_cons, bind_eq_error_iff] at h
    rcases h with h | ⟨b, -, h⟩
    · exact ⟨a, List.mem_cons_self, h⟩
    · rcases bind_eq_error_iff.1 h with h | ⟨bs, -, h⟩
      · obtain ⟨c, hc, hfc⟩ := ih h
        exact ⟨c, List.mem_cons_of_mem _ hc, hfc⟩
      · cases h

theorem mapM_eq_error_iff {f : α → Except ε β} {l : List α} :
    (∃ e, l.mapM f = .error e) ↔ ∃ a ∈ l, ∃ e, f a = .error e := by
  constructor
  · rintro ⟨e, h⟩
    obtain ⟨a, ha, hfa⟩ := exists_of_mapM_eq_error h
    exact ⟨a, ha, e, hfa⟩
  · rintro ⟨a, ha, e, hfa⟩
    cases hl : l.mapM f with
    | error e' => exact ⟨e', rfl⟩
    | ok bs =>
      obtain ⟨b, -, hb⟩ := exists_of_mem_left (mapM_eq_ok_iff.1 hl) ha
      rw [hfa] at hb
      cases hb

/-- Each result is among the failures or among the successes: if the tags of both are those of the
items that the results come from, no item is lost. -/
theorem perm_failures_successes {γ : Type} {results : List (Except ε α)} {tags : List γ}
    {f : ε → γ} {g : α → γ}
    (h : List.Forall₂ (fun t result => (∀ e, result = .error e → f e = t) ∧
      ∀ a, result = .ok a → g a = t) tags results) :
    ((failures results).map f ++ (successes results).map g).Perm tags := by
  induction h with
  | nil => exact .refl _
  | @cons t result tags results ht _ ih =>
    cases result with
    | error e =>
      rw [← ht.1 e rfl]
      exact ih.cons _
    | ok a =>
      rw [← ht.2 a rfl]
      exact List.perm_middle.trans (ih.cons _)

theorem mem_successes {results : List (Except ε α)} {a : α} :
    a ∈ successes results ↔ .ok a ∈ results := by
  rw [successes, List.mem_filterMap]
  constructor
  · rintro ⟨result, hresult, h⟩
    cases result with
    | error e => cases h
    | ok b =>
      cases h
      exact hresult
  · intro h
    exact ⟨.ok a, h, rfl⟩

theorem mem_failures {results : List (Except ε α)} {e : ε} :
    e ∈ failures results ↔ .error e ∈ results := by
  rw [failures, List.mem_filterMap]
  constructor
  · rintro ⟨result, hresult, h⟩
    cases result with
    | error e' =>
      cases h
      exact hresult
    | ok a => cases h
  · intro h
    exact ⟨.error e, h, rfl⟩

theorem successes_map (f : α → Except ε β) (l : List α) :
    successes (l.map f) = l.filterMap fun a => (f a).toOption := by
  rw [successes, List.filterMap_map]
  rfl

/-- There is one value for each item that has one, in the order of the items. -/
theorem forall₂_filterMap (f : α → Option β) (l : List α) :
    List.Forall₂ (fun a b => f a = some b) (l.filter fun a => (f a).isSome) (l.filterMap f) := by
  induction l with
  | nil => exact .nil
  | cons a l ih =>
    cases hfa : f a with
    | none =>
      rw [List.filter_cons_of_neg (by simp [hfa]), List.filterMap_cons_none hfa]
      exact ih
    | some b =>
      rw [List.filter_cons_of_pos (by simp [hfa]), List.filterMap_cons_some hfa]
      exact .cons hfa ih

/-- There is one failure for each item that has no value, in the order of the items. -/
theorem forall₂_failures (f : α → Except ε β) (l : List α) :
    List.Forall₂ (fun a e => f a = .error e) (l.filter fun a => (f a).toOption.isNone)
      (failures (l.map f)) := by
  induction l with
  | nil => exact .nil
  | cons a l ih =>
    cases hfa : f a with
    | ok b =>
      rw [List.filter_cons_of_neg (by simp [hfa, Except.toOption]), List.map_cons, hfa,
        failures_ok_cons]
      exact ih
    | error e =>
      rw [List.filter_cons_of_pos (by simp [hfa, Except.toOption]), List.map_cons, hfa,
        failures_error_cons]
      exact .cons hfa ih

/-- Each success is the value of an item, in the order of the items. -/
theorem sublistForall₂_successes (f : α → Except ε β) (l : List α) :
    List.SublistForall₂ (fun b a => f a = .ok b) (successes (l.map f)) l := by
  induction l with
  | nil => exact .nil
  | cons a l ih =>
    cases hfa : f a with
    | ok b =>
      rw [List.map_cons, hfa, successes_ok_cons]
      exact .cons hfa ih
    | error e =>
      rw [List.map_cons, hfa, successes_error_cons]
      exact .cons_right ih

theorem forall₂_comp {γ : Type} {R : α → β → Prop} {S : β → γ → Prop} {T : α → γ → Prop}
    (hcomp : ∀ a b c, R a b → S b c → T a c) {l : List α} {l' : List β} {l'' : List γ}
    (h : List.Forall₂ R l l') (h' : List.Forall₂ S l' l'') : List.Forall₂ T l l'' := by
  induction h generalizing l'' with
  | nil =>
    cases h'
    exact .nil
  | cons hR _ ih =>
    cases h' with
    | cons hS htail => exact .cons (hcomp _ _ _ hR hS) (ih htail)

theorem sublistForall₂_imp {R S : α → β → Prop} (himp : ∀ a b, R a b → S a b) {l : List α}
    {l' : List β} (h : List.SublistForall₂ R l l') : List.SublistForall₂ S l l' := by
  obtain ⟨some, hsome, hsub⟩ := List.sublistForall₂_iff.1 h
  exact List.sublistForall₂_iff.2 ⟨some, hsome.imp himp, hsub⟩

theorem sublistForall₂_comp {γ : Type} {R : α → β → Prop} {S : β → γ → Prop} {T : α → γ → Prop}
    (hcomp : ∀ a b c, R a b → S b c → T a c) {l : List α} {l' : List β} {l'' : List γ}
    (h : List.SublistForall₂ R l l') (h' : List.SublistForall₂ S l' l'') :
    List.SublistForall₂ T l l'' := by
  induction h' generalizing l with
  | nil =>
    cases h
    exact .nil
  | cons hS _ ih =>
    cases h with
    | nil => exact .nil
    | cons hR htail => exact .cons (hcomp _ _ _ hR hS) (ih htail)
    | cons_right htail => exact .cons_right (ih htail)
  | cons_right _ ih => exact .cons_right (ih h)

/-- Functions that agree on paired items have the same values in the same order. -/
theorem map_eq_of_forall₂ {γ : Type} {R : α → β → Prop} {f : α → γ} {g : β → γ} {l : List α}
    {l' : List β} (h : List.Forall₂ R l l') (hfg : ∀ a b, R a b → g b = f a) :
    l'.map g = l.map f := by
  induction h with
  | nil => rfl
  | cons hab _ ih => rw [List.map_cons, List.map_cons, hfg _ _ hab, ih]

/-- What the values of a partial function are for, are the arguments where it has a value. -/
theorem map_filterMap_of_eq {γ : Type} {f : α → Option β} {g : β → γ} {h : α → γ}
    (hg : ∀ a b, f a = some b → g b = h a) (l : List α) :
    (l.filterMap f).map g = (l.filter fun a => (f a).isSome).map h := by
  induction l with
  | nil => rfl
  | cons a l ih =>
    cases ha : f a with
    | none => rw [List.filterMap_cons_none ha, ih, List.filter_cons_of_neg (by simp [ha])]
    | some b =>
      rw [List.filterMap_cons_some ha, List.map_cons, ih, hg a b ha,
        List.filter_cons_of_pos (by simp [ha]), List.map_cons]

/-- The values of a successful run are those of the single computations. -/
theorem filterMap_of_forall₂_ok {γ : Type} {f : α → Except ε β} {g : β → Option γ} {l : List α}
    {bs : List β} (h : List.Forall₂ (fun a b => f a = .ok b) l bs) :
    bs.filterMap g = l.filterMap fun a => (f a).toOption.bind g := by
  induction h with
  | nil => rfl
  | cons hb _ ih =>
    rw [List.filterMap_cons, List.filterMap_cons, hb, ih]
    rfl

end AdExchange
