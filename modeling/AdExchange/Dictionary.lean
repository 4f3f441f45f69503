/-!
# Dictionaries

A dictionary maps strings to values.  It is the list of its entries in ascending order of the
keys, which is the order of their UTF-8 octets, each key once; so two dictionaries with the same
entries are equal, and whatever is done in the order of a dictionary does not depend on the order
in which it was filled.

## Main definitions

* `Dictionary.get?`, `Dictionary.insert`, `Dictionary.erase` — the entry of a key.
* `Dictionary.modify` — another value for a key that is there.
* `Dictionary.ofList` — the dictionary of a list of entries; the last one of a key counts.
* `Dictionary.Ordered` — the keys ascend.

Each operation is described by what it does to `get?`, and the operations keep the order.  Ordered
dictionaries with the same entries are equal (`Dictionary.Ordered.ext`).
-/

namespace AdExchange

/-- A finite map from strings, as its entries in ascending order of the keys. -/
abbrev Dictionary (α : Type) := List (String × α)

namespace Dictionary

variable {α β : Type}

/-- The keys ascend, so none is there twice. -/
def Ordered (d : Dictionary α) : Prop := d.Pairwise (fun a b => a.1 < b.1)

instance (d : Dictionary α) : Decidable d.Ordered :=
  inferInstanceAs (Decidable (d.Pairwise fun a b => a.1 < b.1))

def get? (d : Dictionary α) (key : String) : Option α := List.lookup key d

def contains (d : Dictionary α) (key : String) : Bool := (d.get? key).isSome

/-- Gives a key a value, in place of the one that it has. -/
def insert : Dictionary α → String → α → Dictionary α
  | [], key, value => [(key, value)]
  | (k, v) :: rest, key, value =>
    if key < k then (key, value) :: (k, v) :: rest
    else if key = k then (key, value) :: rest
    else (k, v) :: insert rest key value

def erase (d : Dictionary α) (key : String) : Dictionary α := d.filter (·.1 != key)

/-- Changes the value of a key, if it has one. -/
def modify (d : Dictionary α) (key : String) (f : α → α) : Dictionary α :=
  d.map fun e => if e.1 = key then (e.1, f e.2) else e

/-- The dictionary of these entries; the last one of a key counts. -/
def ofList (entries : List (String × α)) : Dictionary α :=
  entries.foldl (fun d e => d.insert e.1 e.2) []

/-- The keys in ascending order. -/
def keys (d : Dictionary α) : List String := d.map (·.1)

def mapValues (f : α → β) (d : Dictionary α) : Dictionary β := d.map fun e => (e.1, f e.2)

/-! ### Entries -/

@[simp] theorem get?_nil (key : String) : get? ([] : Dictionary α) key = none := rfl

theorem get?_cons (k : String) (v : α) (rest : Dictionary α) (key : String) :
    get? ((k, v) :: rest) key = if key = k then some v else get? rest key := by
  unfold get?
  rw [List.lookup_cons]
  by_cases h : key = k
  · simp [h]
  · rw [if_neg h, beq_eq_false_iff_ne.2 h]

theorem get?_getD_nil (d : Option (Dictionary α)) (key : String) :
    get? (d.getD []) key = d.bind (·.get? key) := by
  cases d <;> rfl

theorem mem_of_get?_eq_some {d : Dictionary α} {key : String} {value : α}
    (h : d.get? key = some value) : (key, value) ∈ d := by
  induction d with
  | nil => simp at h
  | cons e rest ih =>
    obtain ⟨k, v⟩ := e
    rw [get?_cons] at h
    split at h
    · rename_i hk
      simp_all
    · exact List.mem_cons_of_mem _ (ih h)

theorem get?_insert (d : Dictionary α) (key : String) (value : α) (other : String) :
    (d.insert key value).get? other = if other = key then some value else d.get? other := by
  induction d with
  | nil => rw [insert, get?_cons]
  | cons e rest ih =>
    obtain ⟨k, v⟩ := e
    rw [insert]
    split
    · rw [get?_cons]
    · split
      · rename_i hk
        subst hk
        rw [get?_cons, get?_cons]
        split <;> rfl
      · rename_i hk
        rw [get?_cons, ih, get?_cons]
        by_cases h : other = k
        · rw [if_pos h, if_pos h, if_neg fun h' => hk (h'.symm.trans h)]
        · rw [if_neg h, if_neg h]

@[simp] theorem get?_insert_self (d : Dictionary α) (key : String) (value : α) :
    (d.insert key value).get? key = some value := by
  rw [get?_insert, if_pos rfl]

theorem get?_insert_of_ne (d : Dictionary α) {key other : String} (value : α)
    (h : other ≠ key) : (d.insert key value).get? other = d.get? other := by
  rw [get?_insert, if_neg h]

theorem get?_erase (d : Dictionary α) (key other : String) :
    (d.erase key).get? other = if other = key then none else d.get? other := by
  induction d with
  | nil => simp [erase]
  | cons e rest ih =>
    obtain ⟨k, v⟩ := e
    by_cases hk : k = key
    · subst hk
      rw [show erase ((k, v) :: rest) k = erase rest k by simp [erase], ih, get?_cons]
      split <;> rfl
    · rw [show erase ((k, v) :: rest) key = (k, v) :: erase rest key by simp [erase, hk], get?_cons,
        ih, get?_cons]
      by_cases h : other = k
      · rw [if_pos h, if_pos h, if_neg fun h' => hk (h.symm.trans h')]
      · rw [if_neg h, if_neg h]

@[simp] theorem get?_erase_self (d : Dictionary α) (key : String) :
    (d.erase key).get? key = none := by
  rw [get?_erase, if_pos rfl]

theorem get?_erase_of_ne (d : Dictionary α) {key other : String} (h : other ≠ key) :
    (d.erase key).get? other = d.get? other := by
  rw [get?_erase, if_neg h]

/-- What is taken out need not be given a value before. -/
theorem erase_insert (d : Dictionary α) (key : String) (value : α) :
    (d.insert key value).erase key = d.erase key := by
  induction d with
  | nil => simp [insert, erase]
  | cons e rest ih =>
    obtain ⟨k, v⟩ := e
    unfold erase at ih ⊢
    rw [insert]
    split
    · simp
    · split
      · next h => simp [h]
      · next h => simp [Ne.symm h, ih]

/-- A key that has no value need not be taken out. -/
theorem erase_of_get?_eq_none {d : Dictionary α} {key : String} (h : d.get? key = none) :
    d.erase key = d := by
  have hne : ∀ a b, (a, b) ∈ d → key ≠ a := by simpa [get?, List.lookup_eq_none_iff] using h
  rw [erase, List.filter_eq_self]
  rintro ⟨k, v⟩ he
  simpa using (hne k v he).symm

@[simp] theorem modify_nil (key : String) (f : α → α) :
    modify ([] : Dictionary α) key f = [] := rfl

theorem modify_cons (k : String) (v : α) (rest : Dictionary α) (key : String) (f : α → α) :
    modify ((k, v) :: rest) key f = (k, if k = key then f v else v) :: modify rest key f := by
  by_cases h : k = key <;> simp [modify, h]

theorem get?_modify (d : Dictionary α) (key : String) (f : α → α) (other : String) :
    (d.modify key f).get? other =
      if other = key then (d.get? other).map f else d.get? other := by
  induction d with
  | nil => simp
  | cons e rest ih =>
    obtain ⟨k, v⟩ := e
    rw [modify_cons, get?_cons, ih, get?_cons]
    by_cases hk : other = k
    · subst hk
      by_cases h : other = key <;> simp [h]
    · simp [hk]

@[simp] theorem get?_modify_self (d : Dictionary α) (key : String) (f : α → α) :
    (d.modify key f).get? key = (d.get? key).map f := by
  rw [get?_modify, if_pos rfl]

theorem get?_modify_of_ne (d : Dictionary α) {key other : String} (f : α → α)
    (h : other ≠ key) : (d.modify key f).get? other = d.get? other := by
  rw [get?_modify, if_neg h]

/-- Of two changes to one key the second one sees the first. -/
theorem modify_modify (d : Dictionary α) (key : String) (f g : α → α) :
    (d.modify key f).modify key g = d.modify key (g ∘ f) := by
  induction d with
  | nil => rfl
  | cons e rest ih =>
    obtain ⟨k, v⟩ := e
    simp only [modify_cons, ih]
    by_cases h : k = key <;> simp [h]

/-- Changes to two different keys do not touch each other. -/
theorem modify_comm (d : Dictionary α) {key other : String} (f g : α → α) (h : key ≠ other) :
    (d.modify key f).modify other g = (d.modify other g).modify key f := by
  induction d with
  | nil => rfl
  | cons e rest ih =>
    obtain ⟨k, v⟩ := e
    simp only [modify_cons, ih]
    by_cases hk : k = key
    · simp [hk, h]
    · simp [hk]

/-- What is taken out need not be changed before. -/
theorem erase_modify (d : Dictionary α) (key : String) (f : α → α) :
    (d.modify key f).erase key = d.erase key := by
  induction d with
  | nil => rfl
  | cons e rest ih =>
    obtain ⟨k, v⟩ := e
    rw [modify_cons]
    unfold erase at ih ⊢
    by_cases h : k = key <;> simp [h, ih]

/-- Entries chosen by their keys are the same before and after a change. -/
theorem filter_modify (d : Dictionary α) (key : String) (f : α → α) (p : String → Bool) :
    (d.modify key f).filter (p ·.1) = Dictionary.modify (d.filter (p ·.1)) key f := by
  induction d with
  | nil => rfl
  | cons e rest ih =>
    obtain ⟨k, v⟩ := e
    rw [modify_cons]
    cases h : p k <;> simp [h, ih, modify_cons]

@[simp] theorem erase_erase (d : Dictionary α) (key : String) :
    (d.erase key).erase key = d.erase key := by
  simp [erase, List.filter_filter]

theorem erase_modify_comm (d : Dictionary α) {key other : String} (f : α → α) :
    (d.modify key f).erase other = (d.erase other).modify key f :=
  filter_modify d key f (· != other)

/-- A key that is given a value and then another one has the other one. -/
theorem modify_insert (d : Dictionary α) (key other : String) (value : α) (f : α → α) :
    (d.insert other value).modify key f =
      (d.modify key f).insert other (if other = key then f value else value) := by
  induction d with
  | nil => simp [insert, modify_cons]
  | cons e rest ih =>
    obtain ⟨k, v⟩ := e
    rw [insert, modify_cons, insert]
    split
    · simp only [modify_cons]
    · split
      · simp only [modify_cons]
      · rw [modify_cons, ih]

theorem modify_ofList (entries : List (String × α)) (key : String) (f : α → α) :
    (ofList entries).modify key f =
      ofList (entries.map fun e => (e.1, if e.1 = key then f e.2 else e.2)) := by
  have h : ∀ d : Dictionary α, (entries.foldl (fun d e => d.insert e.1 e.2) d).modify key f =
      (entries.map fun e => (e.1, if e.1 = key then f e.2 else e.2)).foldl
        (fun d e => d.insert e.1 e.2) (d.modify key f) := by
    induction entries with
    | nil => exact fun _ => rfl
    | cons e rest ih =>
      intro d
      rw [List.foldl_cons, ih, modify_insert, List.map_cons, List.foldl_cons]
  exact h []

/-- The entry of a key that is among the chosen ones. -/
theorem get?_filter (d : Dictionary α) (p : String → Bool) (key : String) :
    get? (d.filter (p ·.1)) key = if p key then d.get? key else none := by
  induction d with
  | nil => simp
  | cons e rest ih =>
    obtain ⟨k, v⟩ := e
    rw [List.filter_cons, get?_cons]
    cases h : p k
    · by_cases hk : key = k <;> simp_all
    · rw [if_pos rfl, get?_cons, ih]
      by_cases hk : key = k <;> simp_all

@[simp] theorem get?_mapValues (f : α → β) (d : Dictionary α) (key : String) :
    (d.mapValues f).get? key = (d.get? key).map f := by
  induction d with
  | nil => rfl
  | cons e rest ih =>
    obtain ⟨k, v⟩ := e
    rw [show mapValues f ((k, v) :: rest) = (k, f v) :: mapValues f rest from rfl, get?_cons, ih,
      get?_cons]
    split <;> rfl

theorem mapValues_insert (f : α → β) (d : Dictionary α) (key : String) (value : α) :
    (d.insert key value).mapValues f = (d.mapValues f).insert key (f value) := by
  induction d with
  | nil => rfl
  | cons e rest ih =>
    obtain ⟨k, v⟩ := e
    rw [insert, show mapValues f ((k, v) :: rest) = (k, f v) :: mapValues f rest from rfl, insert]
    split
    · rfl
    · split
      · rfl
      · rw [← ih]
        rfl

theorem mapValues_ofList (f : α → β) (entries : List (String × α)) :
    (ofList entries).mapValues f = ofList (entries.map fun e => (e.1, f e.2)) := by
  have h : ∀ d : Dictionary α, (entries.foldl (fun d e => d.insert e.1 e.2) d).mapValues f =
      (entries.map fun e => (e.1, f e.2)).foldl (fun d e => d.insert e.1 e.2) (d.mapValues f) := by
    induction entries with
    | nil => exact fun _ => rfl
    | cons e rest ih =>
      intro d
      rw [List.foldl_cons, ih, mapValues_insert, List.map_cons, List.foldl_cons]
  exact h []

theorem get?_foldl_insert (entries : List (String × α)) (d : Dictionary α) (key : String) :
    (entries.foldl (fun d e => d.insert e.1 e.2) d).get? key =
      (entries.reverse.lookup key).or (d.get? key) := by
  induction entries generalizing d with
  | nil => rfl
  | cons e rest ih =>
    have one : List.lookup key [e] = if key = e.1 then some e.2 else none :=
      get?_cons e.1 e.2 [] key
    rw [List.foldl_cons, ih, get?_insert, List.reverse_cons, List.lookup_append, one,
      Option.or_assoc]
    split <;> rfl

/-- Of several entries of one key the last one counts. -/
theorem get?_ofList (entries : List (String × α)) (key : String) :
    (ofList entries).get? key = entries.reverse.lookup key := by
  rw [ofList, get?_foldl_insert, get?_nil, Option.or_none]

/-! ### Order -/

namespace Ordered

theorem nil : Ordered ([] : Dictionary α) := List.Pairwise.nil

theorem cons_iff {k : String} {v : α} {rest : Dictionary α} :
    Ordered ((k, v) :: rest) ↔ (∀ e ∈ rest, k < e.1) ∧ Ordered rest :=
  List.pairwise_cons

/-- A key below all keys has no entry. -/
theorem get?_eq_none {d : Dictionary α} {key : String} (h : ∀ e ∈ d, key < e.1) :
    d.get? key = none := by
  cases hg : d.get? key with
  | none => rfl
  | some v => exact absurd (h _ (mem_of_get?_eq_some hg)) (String.lt_irrefl key)

theorem mem_insert {d : Dictionary α} {key : String} {value : α} {e : String × α}
    (h : e ∈ d.insert key value) : e = (key, value) ∨ e ∈ d := by
  induction d with
  | nil => simpa [Dictionary.insert] using h
  | cons e' rest ih =>
    obtain ⟨k, v⟩ := e'
    rw [Dictionary.insert] at h
    split at h
    · exact List.mem_cons.1 h
    · split at h
      · exact (List.mem_cons.1 h).imp id (List.mem_cons_of_mem _)
      · rcases List.mem_cons.1 h with rfl | h
        · exact .inr List.mem_cons_self
        · exact (ih h).imp id (List.mem_cons_of_mem _)

theorem insert {d : Dictionary α} (h : d.Ordered) (key : String) (value : α) :
    (d.insert key value).Ordered := by
  induction d with
  | nil => exact List.pairwise_singleton _ _
  | cons e rest ih =>
    obtain ⟨k, v⟩ := e
    obtain ⟨hk, hrest⟩ := cons_iff.1 h
    rw [Dictionary.insert]
    split
    · rename_i hlt
      refine cons_iff.2 ⟨fun e he => ?_, h⟩
      rcases List.mem_cons.1 he with rfl | he
      · exact hlt
      · exact String.lt_trans hlt (hk e he)
    · split
      · rename_i heq
        subst heq
        exact cons_iff.2 ⟨hk, hrest⟩
      · rename_i hlt hne
        refine cons_iff.2 ⟨fun e he => ?_, ih hrest⟩
        rcases mem_insert he with rfl | he
        · by_cases hgt : k < key
          · exact hgt
          · exact absurd (String.le_antisymm (String.not_lt.1 hgt) (String.not_lt.1 hlt)) hne
        · exact hk e he

theorem erase {d : Dictionary α} (h : d.Ordered) (key : String) : (d.erase key).Ordered :=
  h.filter _

theorem modify {d : Dictionary α} (h : d.Ordered) (key : String) (f : α → α) :
    (d.modify key f).Ordered := by
  refine List.pairwise_map.2 (h.imp fun {a b} hab => ?_)
  split <;> split <;> exact hab

theorem mapValues {d : Dictionary α} (h : d.Ordered) (f : α → β) : (d.mapValues f).Ordered :=
  List.pairwise_map.2 h

theorem foldl_insert {d : Dictionary α} (h : d.Ordered) (entries : List (String × α)) :
    (entries.foldl (fun d e => d.insert e.1 e.2) d).Ordered := by
  induction entries generalizing d with
  | nil => exact h
  | cons e rest ih => exact ih (h.insert e.1 e.2)

theorem ofList (entries : List (String × α)) : (Dictionary.ofList entries).Ordered :=
  foldl_insert nil entries

/-- Ordered dictionaries are determined by their entries. -/
theorem ext {d e : Dictionary α} (hd : d.Ordered) (he : e.Ordered)
    (h : ∀ key, d.get? key = e.get? key) : d = e := by
  induction d generalizing e with
  | nil =>
    cases e with
    | nil => rfl
    | cons b rest =>
      obtain ⟨k, v⟩ := b
      have hk := h k
      rw [get?_nil, get?_cons, if_pos rfl] at hk
      cases hk
  | cons a rest ih =>
    obtain ⟨k, v⟩ := a
    obtain ⟨hk, hrest⟩ := cons_iff.1 hd
    cases e with
    | nil =>
      have hk := h k
      rw [get?_nil, get?_cons, if_pos rfl] at hk
      cases hk
    | cons b others =>
      obtain ⟨k', v'⟩ := b
      obtain ⟨hk', hothers⟩ := cons_iff.1 he
      have hkk : k = k' := by
        have h1 := h k
        have h2 := h k'
        rw [get?_cons, if_pos rfl, get?_cons] at h1
        rw [get?_cons, get?_cons, if_pos rfl] at h2
        split at h1
        · assumption
        · split at h2
          · rename_i hne heq
            exact heq.symm
          · exact absurd (hk _ (mem_of_get?_eq_some h2))
              (String.lt_asymm (hk' _ (mem_of_get?_eq_some h1.symm)))
      subst hkk
      have hv := h k
      rw [get?_cons, if_pos rfl, get?_cons, if_pos rfl, Option.some.injEq] at hv
      subst hv
      rw [ih hrest hothers fun key => ?_]
      by_cases hkey : key = k
      · subst hkey
        rw [get?_eq_none hk, get?_eq_none hk']
      · have := h key
        rwa [get?_cons, if_neg hkey, get?_cons, if_neg hkey] at this

/-- Giving a key another value is changing the value that it has. -/
theorem insert_eq_modify {d : Dictionary α} (h : d.Ordered) {key : String} {old : α}
    (hget : d.get? key = some old) (value : α) :
    d.insert key value = d.modify key fun _ => value := by
  refine (h.insert key value).ext (h.modify key _) fun other => ?_
  rw [get?_insert, get?_modify]
  by_cases ho : other = key
  · subst ho
    simp [hget]
  · simp [ho]

end Ordered

end Dictionary

end AdExchange
