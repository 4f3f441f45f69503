import AdExchange.Json.Printer
import Mathlib.Data.List.Forall2

/-!
# JSON text is on one line

A value may have any characters in its strings, but in its text the control characters are escaped.
Everything else in the text is a digit, a letter, a sign or punctuation.  So there is no control
character in it, and above all no line feed.
-/

namespace AdExchange

/-- There is no control character in a text. -/
def Printable (s : String) : Prop := ∀ c ∈ s.toList, 32 ≤ c.toNat

namespace Printable

-- The characters of the text are looked at, and not all characters there are.
instance (s : String) : Decidable (Printable s) :=
  List.decidableBAll (fun c : Char => 32 ≤ c.toNat) s.toList

variable {s t : String}

theorem append (hs : Printable s) (ht : Printable t) : Printable (s ++ t) := by
  intro c hc
  rw [String.toList_append] at hc
  rcases List.mem_append.1 hc with hc | hc
  · exact hs c hc
  · exact ht c hc

theorem ofList {cs : List Char} (h : ∀ c ∈ cs, 32 ≤ c.toNat) : Printable (String.ofList cs) := by
  rwa [Printable, String.toList_ofList]

theorem intercalate {texts : List String} (hs : Printable s) (htexts : ∀ t ∈ texts, Printable t) :
    Printable (s.intercalate texts) := by
  induction texts with
  | nil =>
    rw [String.intercalate_nil]
    decide
  | cons t rest ih =>
    rw [List.forall_mem_cons] at htexts
    by_cases hrest : rest = []
    · rw [hrest, String.intercalate_singleton]
      exact htexts.1
    · rw [String.intercalate_cons_of_ne_nil hrest]
      exact (htexts.1.append hs).append (ih htexts.2)

end Printable

/-! ## Numbers -/

theorem le_toNat_of_isDigit {c : Char} (h : c.isDigit) : 32 ≤ c.toNat := by
  rw [Char.isDigit, Bool.and_eq_true, decide_eq_true_eq, decide_eq_true_eq] at h
  have hlow : (48 : UInt32).toNat ≤ c.val.toNat := UInt32.le_iff_toNat_le.1 h.1
  exact Nat.le_trans (by decide) hlow

theorem le_toNat_of_mem_toDigits {n : Nat} : ∀ c ∈ Nat.toDigits 10 n, 32 ≤ c.toNat :=
  fun _ hc => le_toNat_of_isDigit (Nat.isDigit_of_mem_toDigits (by omega) (by omega) hc)

theorem printable_toString (n : Int) : Printable (toString n) := by
  have hdigits : ∀ n : Nat, Printable n.repr := by
    intro n c hc
    rw [Nat.toList_repr] at hc
    exact le_toNat_of_mem_toDigits c hc
  rw [Int.toString_eq_repr, Int.repr_eq_if]
  split
  · exact hdigits _
  · exact .append (by decide) (hdigits _)

namespace Binary64

theorem printable_zeros (n : Int) : Printable (zeros n) := by
  refine .ofList fun c hc => ?_
  rw [List.eq_of_mem_replicate hc]
  decide

theorem printable_placeDigits (digits : Nat) (k : Int) : Printable (placeDigits digits k) := by
  have hdigits := le_toNat_of_mem_toDigits (n := digits)
  simp only [placeDigits]
  split
  · exact (Printable.ofList hdigits).append (printable_zeros k)
  · split
    · refine .append (.append (.ofList ?_) (by decide)) (.ofList ?_)
      · exact fun c hc => hdigits c (List.mem_of_mem_take hc)
      · exact fun c hc => hdigits c (List.mem_of_mem_drop hc)
    · exact .append (.append (by decide) (printable_zeros _)) (.ofList hdigits)

theorem printable_exponentText (digits : Nat) (k : Int) : Printable (exponentText digits k) := by
  have hdigits := le_toNat_of_mem_toDigits (n := digits)
  simp only [exponentText]
  refine .append (.append ?_ (by decide)) (printable_toString _)
  split
  · decide
  · next d hd =>
    rw [hd] at hdigits
    exact .ofList hdigits
  · next d rest _ hd =>
    rw [hd, List.forall_mem_cons] at hdigits
    refine .ofList ?_
    rw [List.forall_mem_cons, List.forall_mem_cons]
    exact ⟨hdigits.1, by decide, hdigits.2⟩

/-- The text of a number. -/
theorem printable_jsonText (x : Binary64) : Printable x.jsonText := by
  have hsign : Printable x.signText := by
    rw [signText]
    split <;> decide
  simp only [jsonText]
  refine hsign.append ?_
  split
  · exact (printable_placeDigits _ _).append (by decide)
  · split
    · exact printable_placeDigits _ _
    · exact printable_exponentText _ _

end Binary64

/-! ## Values -/

namespace Json

theorem le_toNat_hexDigit {n : Nat} (h : n < 16) : 32 ≤ (hexDigit n).toNat := by
  have hall : ∀ n < 16, 32 ≤ (hexDigit n).toNat := by decide
  exact hall n h

theorem le_toNat_of_mem_escaped (c : Char) : ∀ d ∈ escaped c, 32 ≤ d.toNat := by
  rw [escaped]
  -- The characters that have an escape of their own come first.
  iterate 7
    split
    · simp
  split
  · next hcontrol =>
    have hhigh := le_toNat_hexDigit (n := c.toNat / 16) (by omega)
    have hlow := le_toNat_hexDigit (n := c.toNat % 16) (by omega)
    simp only [List.forall_mem_cons]
    exact ⟨by decide, by decide, by decide, by decide, hhigh, hlow, List.forall_mem_nil _⟩
  · next hcontrol =>
    intro d hd
    rw [List.mem_singleton.1 hd]
    omega

/-- The text of a string. -/
theorem printable_quoted (s : String) : Printable (quoted s) := by
  refine .append (.append (by decide) (.ofList ?_)) (by decide)
  intro c hc
  obtain ⟨d, -, hc⟩ := List.mem_flatMap.1 hc
  exact le_toNat_of_mem_escaped d c hc

mutual

/-- The text of a value. -/
theorem printable_text : ∀ v : Json, Printable v.text
  | .null => by decide
  | .bool true => by decide
  | .bool false => by decide
  | .number (.integer n) => printable_toString n
  | .number (.binary x) => x.printable_jsonText
  | .string s => printable_quoted s
  | .array items =>
    .append (.append (by decide) (.intercalate (by decide) (printable_itemTexts items)))
      (by decide)
  | .object fields =>
    .append (.append (by decide) (.intercalate (by decide) (printable_fieldTexts fields)))
      (by decide)

theorem printable_itemTexts : ∀ items : List Json, ∀ t ∈ itemTexts items, Printable t
  | [] => fun _ ht => nomatch ht
  | v :: rest => by
    rw [itemTexts, List.forall_mem_cons]
    exact ⟨printable_text v, printable_itemTexts rest⟩

theorem printable_fieldTexts : ∀ fields : List (String × Json), ∀ t ∈ fieldTexts fields, Printable t
  | [] => fun _ ht => nomatch ht
  | (k, v) :: rest => by
    rw [fieldTexts, List.forall_mem_cons]
    exact ⟨((printable_quoted k).append (by decide)).append (printable_text v),
      printable_fieldTexts rest⟩

end

end Json

end AdExchange
