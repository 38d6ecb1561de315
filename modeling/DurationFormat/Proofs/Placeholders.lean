import DurationFormat.Proofs.Granularity
import DurationFormat.Proofs.Words

/-!
# What a placeholder shows

A placeholder shows its unit's count exactly if the breakdown reaches up to that unit, in the same
text whether the breakdown came with padded counts or not. The text is digits that any reader
takes for the count, and its length says that nothing is cut off and no more zeros are put in front
than the width asks for.
-/

namespace DurationFormat

namespace Numeral

/-- Digits only, which are read as `n` under any limit that `n` keeps, as many as `n` has but not
fewer than `places`. -/
structure Writes (places n : Nat) (text : String) : Prop where
  isDigit : ∀ x ∈ text.toList, x.isDigit = true
  readNat_eq : ∀ limit, n ≤ limit → readNat limit text.toList = .ok n
  length_eq : text.length = max places (Nat.log 10 n + 1)

theorem writes_padded (places n : Nat) : Writes places n (padded places n) where
  isDigit := fun _ => isDigit_of_mem_padded
  readNat_eq := by
    intro limit hn
    have hne : (padded places n).toList ≠ [] := by
      rw [toList_padded, List.leftpad]
      exact List.append_ne_nil_of_right_ne_nil _ Nat.toDigits_ne_nil
    have hdenotes := Denotes.unsigned hne fun _ => isDigit_of_mem_padded
    rw [ofDigitChars_padded] at hdenotes
    exact readNat_eq_ok_iff.mpr ⟨hdenotes, hn⟩
  length_eq := by rw [length_padded, length_plain]

/-- A numeral without padding does not begin with a zero unless it is one. -/
theorem head?_plain_eq_zero_iff {n : Nat} :
    (plain n).toList.head? = some '0' ↔ plain n = "0" := by
  constructor
  · intro h
    rw [toList_plain] at h
    rw [eq_zero_of_head?_toDigits h]
    rfl
  · intro h
    rw [h]
    rfl

end Numeral

theorem Granularity.granularity_le_iff {g : Granularity} {u : TimeUnit} :
    u.granularity ≤ g ↔ u.seconds ≤ g.coarsest.seconds := by
  rw [← TimeUnit.granularity_le_iff, granularity_coarsest]

namespace Placeholder

theorem shown?_eq_none_iff {g : Granularity} {p : Placeholder} {millis : Int64}
    {withStrings : Bool} : p.shown? (.ofMillis millis g withStrings) = none ↔
      g.coarsest.seconds < p.unit.seconds := by
  rw [← Nat.not_le, ← Granularity.granularity_le_iff]
  constructor
  · intro hnone h
    rw [shown?_ofMillis h] at hnone
    cases hnone
  · exact fun h => shown?_ofMillis_eq_none (Nat.lt_of_not_le h) millis withStrings

theorem shown?_true_eq_false (millis : Int64) (g : Granularity) (p : Placeholder) :
    p.shown? (.ofMillis millis g true) = p.shown? (.ofMillis millis g false) := by
  by_cases h : p.unit.granularity ≤ g
  · rw [shown?_ofMillis h, shown?_ofMillis h]
  · have hlt := Nat.lt_of_not_le h
    rw [shown?_ofMillis_eq_none hlt, shown?_ofMillis_eq_none hlt]

theorem spelled_eq (p : Placeholder) (n : Nat) : p.spelled n =
    if p.width = .double ∧ n < 10 then "0" ++ Numeral.plain n else Numeral.plain n := by
  rw [spelled, Numeral.toString_eq_plain]

/-- Whether padded counts were asked for does not matter. A unit above the granularity shows
nothing, and any other its count: in single width without a zero in front, and in double width with
one in front of a single digit, which is also how a number is padded to two digits. -/
theorem shown_exactly (millis : Int64) (g : Granularity) (p : Placeholder) :
    p.shown? (.ofMillis millis g true) = p.shown? (.ofMillis millis g false) ∧
    (∀ withStrings, p.shown? (.ofMillis millis g withStrings) = none ↔
      g.coarsest.seconds < p.unit.seconds) ∧
    (∀ withStrings, p.unit.seconds ≤ g.coarsest.seconds → ∃ n text single,
      (Breakdown.ofMillis millis g withStrings).get? p.unit = some n ∧
      p.shown? (.ofMillis millis g withStrings) = some text ∧
      (Placeholder.mk p.unit .single).shown? (.ofMillis millis g withStrings) = some single ∧
      Numeral.Writes p.width.places n text ∧
      (single.toList.head? = some '0' ↔ single = "0") ∧
      text = if p.width = .double ∧ n < 10 then "0" ++ single else single) ∧
    ∀ n, Numeral.Writes 2 n (Numeral.twoDigits n) ∧
      Numeral.twoDigits n = if n < 10 then "0" ++ Numeral.plain n else Numeral.plain n := by
  refine ⟨shown?_true_eq_false millis g p, fun _ => shown?_eq_none_iff, ?_, fun n => ?_⟩
  · intro withStrings hle
    have h : p.unit.granularity ≤ g := Granularity.granularity_le_iff.mpr hle
    have hsingle : (Placeholder.mk p.unit .single).unit.granularity ≤ g := h
    have hwrites := Numeral.writes_padded p.width.places
      (g.coarsest.share p.unit (wholeSeconds millis))
    rw [← spelled_eq_padded] at hwrites
    refine ⟨_, _, _, Breakdown.get?_ofMillis h millis withStrings,
      shown?_ofMillis h millis withStrings, ?_, hwrites, Numeral.head?_plain_eq_zero_iff,
      p.spelled_eq _⟩
    rw [shown?_ofMillis hsingle, spelled_eq_padded, Width.places, Numeral.padded_one]
  · refine ⟨Numeral.writes_padded 2 n, ?_⟩
    rw [Numeral.twoDigits_eq, Numeral.toString_eq_plain]

/-- Five minutes past one, from a breakdown without padded counts. -/
theorem shown_exactly_minutes :
    TimeUnit.minute.seconds ≤ Granularity.hours.coarsest.seconds ∧
    (Breakdown.ofMillis 3905000 .hours false).get? .minute = some 5 ∧
    (Placeholder.mk .minute .double).shown? (.ofMillis 3905000 .hours false) = some "05" ∧
    (Placeholder.mk .minute .single).shown? (.ofMillis 3905000 .hours false) = some "5" ∧
    Numeral.Writes 2 5 "05" := by
  have hle : TimeUnit.minute.seconds ≤ Granularity.hours.coarsest.seconds := by decide
  have hfive : (Breakdown.ofMillis 3905000 .hours false).get? .minute = some 5 := by
    decide +kernel
  have hone : (Placeholder.mk .minute .single).shown? (.ofMillis 3905000 .hours false) =
      some "5" := by decide +kernel
  obtain ⟨-, -, hshown, -⟩ := shown_exactly 3905000 .hours ⟨.minute, .double⟩
  obtain ⟨n, text, single, hn, htext, hsingle, hwrites, -, heq⟩ := hshown false hle
  obtain rfl : n = 5 := Option.some.inj (hn.symm.trans hfive)
  obtain rfl : single = "5" := Option.some.inj (hsingle.symm.trans hone)
  obtain rfl : text = "05" := heq
  exact ⟨hle, hfive, htext, hone, hwrites⟩

end Placeholder

end DurationFormat
