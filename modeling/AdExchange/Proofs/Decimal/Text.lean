import AdExchange.Decimal.Text

/-!
# Decimals come back from their text

The text of a decimal has all its digits and all its places, so the digits and the scale come back
when it is read.  Only the sign of a zero does not.
-/

namespace AdExchange

open scoped CorePower

namespace Decimal

theorem isDigit_of_mem_paddedDigits {n places : Nat} {c : Char} (h : c ∈ paddedDigits n places) :
    c.isDigit := by
  rcases List.mem_append.1 h with h | h
  · rw [List.eq_of_mem_replicate h]
    rfl
  · exact Nat.isDigit_of_mem_toDigits (by omega) (by omega) h

/-- Zeros in front do not change a number. -/
theorem ofDigitChars_paddedDigits (n places : Nat) :
    Nat.ofDigitChars 10 (paddedDigits n places) 0 = n := by
  have hzeros : ∀ k : Nat, Nat.ofDigitChars 10 (List.replicate k '0') 0 = 0 := by
    intro k
    induction k with
    | zero => rfl
    | succ k ih =>
      rw [List.replicate_succ, Nat.ofDigitChars_cons]
      exact ih
  rw [paddedDigits, Nat.ofDigitChars_append, hzeros, Nat.ofDigitChars_ten_toDigits]

theorem length_paddedDigits (n places : Nat) : places < (paddedDigits n places).length := by
  rw [paddedDigits, List.length_append, List.length_replicate]
  omega

/-- Further digits do not make a number smaller. -/
theorem le_ofDigitChars (cs : List Char) (m : Nat) : m ≤ Nat.ofDigitChars 10 cs m := by
  induction cs generalizing m with
  | nil => exact Nat.le_refl m
  | cons c cs ih =>
    rw [Nat.ofDigitChars_cons]
    refine Nat.le_trans ?_ (ih _)
    omega

/-- Digits are read one after the other as long as there is room for them. -/
theorem run?_append_digits {s : Scan} {cs : List Char} (rest : List Char)
    (hcs : ∀ c ∈ cs, c.isDigit) (hm : Nat.ofDigitChars 10 cs s.mantissa < 2 ^ (96 : Nat))
    (hwhole : s.fraction = false → s.scale = 0)
    (hplaces : s.fraction = true → s.scale + cs.length ≤ 28) :
    s.run? (cs ++ rest) = Scan.run?
      { s with
        mantissa := Nat.ofDigitChars 10 cs s.mantissa
        scale := if s.fraction then s.scale + cs.length else 0
        digits := s.digits || !cs.isEmpty } rest := by
  induction cs generalizing s with
  | nil =>
    obtain ⟨m, scale, fraction, digits⟩ := s
    cases fraction with
    | true => simp [Nat.ofDigitChars]
    | false =>
      have hscale : scale = 0 := hwhole rfl
      simp [Nat.ofDigitChars, hscale]
  | cons c cs ih =>
    obtain ⟨hc, hcs⟩ := List.forall_mem_cons.1 hcs
    rw [Nat.ofDigitChars_cons] at hm
    have hdigit : digit? c = some (c.toNat - '0'.toNat) := if_pos hc
    have hroom : ¬(s.fraction = true ∧ 28 ≤ s.scale) := by
      rintro ⟨hfraction, hfull⟩
      have hlen := hplaces hfraction
      rw [List.length_cons] at hlen
      omega
    have hfits : s.mantissa * 10 + (c.toNat - '0'.toNat) < 2 ^ (96 : Nat) := by
      have hle := le_ofDigitChars cs (10 * s.mantissa + (c.toNat - '0'.toNat))
      omega
    rw [List.cons_append, Scan.run?, if_neg hroom, hdigit]
    dsimp only
    rw [if_pos hfits, ih hcs]
    · rw [Nat.ofDigitChars_cons, Nat.mul_comm 10]
      cases s.fraction with
      | true => simp [Nat.add_assoc, Nat.add_comm 1]
      | false => simp
    · dsimp only
      rwa [Nat.mul_comm s.mantissa 10]
    · intro hfraction
      exact if_neg (by simpa using hfraction)
    · intro hfraction
      have hlen := hplaces hfraction
      rw [List.length_cons] at hlen
      dsimp only
      rw [if_pos hfraction]
      omega

/-- A point is passed once. -/
theorem run?_point {s : Scan} (hs : s.fraction = false) (rest : List Char) :
    s.run? ('.' :: rest) = Scan.run? { s with fraction := true } rest := by
  have hpoint : digit? '.' = none := rfl
  rw [Scan.run?, if_neg (by simp [hs]), hpoint]
  dsimp only
  rw [if_pos (by simp [hs])]

/-- The digits before the point, the point and the digits behind it. -/
theorem run?_point_between {whole places : List Char} {m : Nat} (hwhole : whole ≠ [])
    (hdigits : ∀ c ∈ whole ++ places, c.isDigit)
    (hvalue : Nat.ofDigitChars 10 (whole ++ places) 0 = m) (hm : m < 2 ^ (96 : Nat))
    (hplaces : places.length ≤ 28) :
    Scan.run? {} (whole ++ if places.isEmpty then [] else '.' :: places) =
      some (m, places.length) := by
  rw [Nat.ofDigitChars_append] at hvalue
  obtain ⟨hwholeDigits, hplacesDigits⟩ := List.forall_mem_append.1 hdigits
  have hfits : Nat.ofDigitChars 10 whole 0 < 2 ^ (96 : Nat) := by
    have hle := le_ofDigitChars places (Nat.ofDigitChars 10 whole 0)
    omega
  have hempty : whole.isEmpty = false := by simpa using hwhole
  rw [run?_append_digits _ hwholeDigits hfits (fun _ => rfl) (fun h => by cases h)]
  simp only [hempty, Bool.false_eq_true, if_false, Bool.not_false, Bool.or_true]
  by_cases hnone : places = []
  · subst hnone
    rw [List.isEmpty_nil, if_pos rfl, Scan.run?, if_pos rfl]
    rw [← hvalue]
    rfl
  · have hsome : places.isEmpty = false := by simpa using hnone
    rw [hsome, if_neg (by simp), run?_point rfl, ← List.append_nil places,
      run?_append_digits [] hplacesDigits (by rw [hvalue]; exact hm) (fun h => by cases h)
        (fun _ => by simpa using hplaces)]
    simp only [if_true, List.append_nil, Nat.zero_add, Bool.true_or, hvalue]
    rfl

/-- The text of a decimal behind its sign. -/
def digitsText (d : Decimal) : List Char :=
  d.wholeAndPlaces.1 ++ if d.wholeAndPlaces.2.isEmpty then [] else '.' :: d.wholeAndPlaces.2

theorem toList_toText (d : Decimal) : d.toText.toList = d.signText.toList ++ d.digitsText := by
  simp only [toText, joined, digitsText, String.toList_append, String.toList_ofList,
    List.append_assoc]
  by_cases h : d.wholeAndPlaces.2.isEmpty
  · simp [h]
  · simp [h]

theorem whole_ne_nil (d : Decimal) : d.wholeAndPlaces.1 ≠ [] := by
  have hlength := length_paddedDigits d.mantissa d.scale
  intro hnil
  rw [wholeAndPlaces, List.take_eq_nil_iff] at hnil
  rcases hnil with h | h
  · omega
  · rw [h, List.length_nil] at hlength
    omega

/-- How many digits stand before the point. -/
theorem lt_length_whole_iff {d : Decimal} {k : Nat} (hk : 0 < k) :
    k < d.wholeAndPlaces.1.length ↔ 10 ^ (k + d.scale) ≤ d.mantissa := by
  have hdigits : (Nat.toDigits 10 d.mantissa).length ≤ k + d.scale ↔
      d.mantissa < 10 ^ (k + d.scale) := Nat.length_toDigits_le_iff (by decide) (by omega)
  have hwhole : d.wholeAndPlaces.1.length =
      max (Nat.toDigits 10 d.mantissa).length (d.scale + 1) - d.scale := by
    rw [wholeAndPlaces, List.length_take, paddedDigits, List.length_append, List.length_replicate]
    omega
  rw [hwhole]
  omega

/-- The digits of a decimal read as its mantissa, and its places as its scale. -/
theorem run?_digitsText (d : Decimal) : Scan.run? {} d.digitsText = some (d.mantissa, d.scale) := by
  have hlength := length_paddedDigits d.mantissa d.scale
  have hjoined : d.wholeAndPlaces.1 ++ d.wholeAndPlaces.2 = paddedDigits d.mantissa d.scale :=
    List.take_append_drop _ _
  have hplaces : d.wholeAndPlaces.2.length = d.scale := by
    rw [wholeAndPlaces, List.length_drop]
    omega
  have hdigits : ∀ c ∈ d.wholeAndPlaces.1 ++ d.wholeAndPlaces.2, c.isDigit := by
    rw [hjoined]
    exact fun c hc => isDigit_of_mem_paddedDigits hc
  have hvalue : Nat.ofDigitChars 10 (d.wholeAndPlaces.1 ++ d.wholeAndPlaces.2) 0 = d.mantissa := by
    rw [hjoined]
    exact ofDigitChars_paddedDigits _ _
  have hscale : d.wholeAndPlaces.2.length ≤ 28 := by
    rw [hplaces]
    exact d.scale_le
  have hread := run?_point_between d.whole_ne_nil hdigits hvalue d.mantissa_lt hscale
  rwa [hplaces] at hread

theorem exists_digit_digitsText (d : Decimal) :
    ∃ c rest, d.digitsText = c :: rest ∧ c.isDigit := by
  obtain ⟨c, rest, hwhole⟩ := List.exists_cons_of_ne_nil d.whole_ne_nil
  refine ⟨c, rest ++ if d.wholeAndPlaces.2.isEmpty then [] else '.' :: d.wholeAndPlaces.2, ?_, ?_⟩
  · rw [digitsText, hwhole, List.cons_append]
  · have hmem : c ∈ d.wholeAndPlaces.1 := by simp [hwhole]
    exact isDigit_of_mem_paddedDigits (List.mem_of_mem_take hmem)

/-- The text of a decimal reads as the decimal, but for the sign of a zero. -/
theorem parse?_toText (d : Decimal) : parse? d.toText = some d.withoutZeroSign := by
  have hparts : ofParts? d.negative d.mantissa d.scale = some d.withoutZeroSign :=
    dif_pos ⟨d.mantissa_lt, d.scale_le⟩
  have hplain : parsePlain? (d.signText.toList ++ d.digitsText) = some d.withoutZeroSign := by
    cases hsign : d.negative with
    | true =>
      have htext : d.signText.toList ++ d.digitsText = '-' :: d.digitsText := by
        simp [signText, hsign]
      rw [hsign] at hparts
      rw [htext, parsePlain?]
      simp only [run?_digitsText, Option.bind_eq_bind, Option.bind_some, hparts]
    | false =>
      obtain ⟨c, rest, hdigits, hc⟩ := d.exists_digit_digitsText
      have htext : d.signText.toList ++ d.digitsText = c :: rest := by
        simp [signText, hsign, hdigits]
      have hminus : c ≠ '-' := by
        rintro rfl
        cases hc
      have hplus : c ≠ '+' := by
        rintro rfl
        cases hc
      have hrun := d.run?_digitsText
      rw [hdigits] at hrun
      rw [hsign] at hparts
      rw [htext, parsePlain?]
      · simp only [hrun, Option.bind_eq_bind, Option.bind_some, hparts]
      -- The text starts with a digit, so there is no sign.
      · intro _ h
        exact hminus (List.cons.inj h).1
      · intro _ h
        exact hplus (List.cons.inj h).1
  rw [parse?, toList_toText, hplain]
  rfl

end Decimal

end AdExchange
