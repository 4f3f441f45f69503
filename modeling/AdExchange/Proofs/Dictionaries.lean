import AdExchange.Json.Basic
import AdExchange.Proofs.Results
import Mathlib.Data.List.Nodup

/-!
# Dictionaries of distinct keys

Of several entries of one key a dictionary keeps the last one.  Where no key is there twice nothing
is lost: the dictionary has all the entries that it is made of, each once.
-/

namespace AdExchange

namespace Dictionary

variable {α : Type} {entries : List (String × α)} {key : String} {value : α}

theorem Ordered.nodup_keys {d : Dictionary α} (h : d.Ordered) : (d.map (·.1)).Nodup := by
  refine List.pairwise_map.2 (List.Pairwise.imp ?_ h)
  intro a b hlt heq
  exact String.lt_irrefl a.1 (heq ▸ hlt)

/-- Where no key is there twice, each entry is the one of its key. -/
theorem get?_eq_some_iff (h : (entries.map (·.1)).Nodup) :
    get? entries key = some value ↔ (key, value) ∈ entries := by
  refine ⟨mem_of_get?_eq_some, ?_⟩
  intro hmem
  induction entries with
  | nil => cases hmem
  | cons e rest ih =>
    obtain ⟨k, v⟩ := e
    obtain ⟨hk, hrest⟩ := List.nodup_cons.1 h
    rw [get?_cons]
    rcases List.mem_cons.1 hmem with heq | hin
    · cases heq
      rw [if_pos rfl]
    · have hne : key ≠ k := by
        intro heq
        have hin' : key ∈ rest.map (·.1) := List.mem_map_of_mem hin
        exact hk (heq ▸ hin')
      rw [if_neg hne]
      exact ih hrest hin

/-- A dictionary has the entries that it is made of. -/
theorem get?_ofList_of_nodup (h : (entries.map (·.1)).Nodup) :
    (ofList entries).get? key = get? entries key := by
  have hreverse : (entries.reverse.map (·.1)).Nodup := by
    rw [List.map_reverse]
    exact List.nodup_reverse.2 h
  ext value
  rw [get?_ofList, ← get?, get?_eq_some_iff hreverse, get?_eq_some_iff h, List.mem_reverse]

/-- A dictionary has the entries that it is made of, each once. -/
theorem perm_ofList (h : (entries.map (·.1)).Nodup) : (ofList entries).Perm entries := by
  have hkeys : ((ofList entries).map (·.1)).Nodup := (Ordered.ofList entries).nodup_keys
  rw [List.perm_ext_iff_of_nodup hkeys.of_map h.of_map]
  rintro ⟨key, value⟩
  rw [← get?_eq_some_iff hkeys, ← get?_eq_some_iff h, get?_ofList_of_nodup h]

/-- Entries in the order of their keys are a dictionary already. -/
theorem Ordered.ofList_eq {d : Dictionary α} (h : d.Ordered) : Dictionary.ofList d = d :=
  (Ordered.ofList d).ext h fun _ => get?_ofList_of_nodup h.nodup_keys

end Dictionary

namespace Json

variable {fields : List (String × Option Json)} {key : String} {value : Option Json}

/-- Those of some fields that are there. -/
theorem mem_present {v : Json} :
    (key, v) ∈ (fields.filterMap fun (k, v) => v.map (k, ·)) ↔ (key, some v) ∈ fields := by
  rw [List.mem_filterMap]
  constructor
  · rintro ⟨⟨k, w⟩, hmem, h⟩
    obtain ⟨w', rfl, h⟩ := Option.map_eq_some_iff.1 h
    cases h
    exact hmem
  · intro h
    exact ⟨(key, some v), h, rfl⟩

theorem keys_present_sublist (fields : List (String × Option Json)) :
    ((fields.filterMap fun (k, v) => v.map (k, ·)).map (·.1)).Sublist (fields.map (·.1)) := by
  have hkey : ∀ (f : String × Option Json) (e : String × Json), f.2.map (f.1, ·) = some e →
      e.1 = f.1 := by
    intro f e h
    obtain ⟨v, -, rfl⟩ := Option.map_eq_some_iff.1 h
    rfl
  rw [map_filterMap_of_eq hkey]
  exact List.filter_sublist.map _

/-- An object has the fields that it is made of. -/
theorem get?_ofFields (hkeys : (fields.map (·.1)).Nodup) (h : (key, value) ∈ fields) :
    (ofFields fields).get? key = value := by
  have hpresent := hkeys.sublist (keys_present_sublist fields)
  have hvalue : Dictionary.get? fields key = some value := (Dictionary.get?_eq_some_iff hkeys).2 h
  ext v
  change Dictionary.get? (Dictionary.ofList _) key = some v ↔ _
  rw [Dictionary.get?_ofList_of_nodup hpresent, Dictionary.get?_eq_some_iff hpresent, mem_present,
    ← Dictionary.get?_eq_some_iff hkeys, hvalue, Option.some.injEq]

end Json

end AdExchange
