import DurationFormat.Proofs.Rendering
import Mathlib.Data.Nat.Log

/-!
# The digits of a count

What a count in decimal looks like, padded to some places or not. It holds digits only, the count
can be read back from it, and a greater count is never shorter. With two places asked for, the
numbers below a hundred are exactly those of length two.
-/

namespace DurationFormat

namespace Numeral

theorem isDigit_of_mem_padded {width n : Nat} {x : Char} (hx : x ∈ (padded width n).toList) :
    x.isDigit = true := by
  rw [toList_padded, List.leftpad] at hx
  rcases List.mem_append.mp hx with hz | hd
  · rw [List.eq_of_mem_replicate hz]
    rfl
  · exact Nat.isDigit_of_mem_toDigits (by omega) (by omega) hd

/-- Zeros in front do not change the value of digits. -/
theorem ofDigitChars_padded (width n : Nat) :
    Nat.ofDigitChars 10 (padded width n).toList 0 = n := by
  rw [toList_padded, List.leftpad, Nat.ofDigitChars_append, Nat.ofDigitChars_replicate_zero,
    Nat.mul_zero, Nat.ofDigitChars_ten_toDigits]

theorem padded_one (n : Nat) : padded 1 n = plain n := by
  have hpos : 0 < (Nat.toDigits 10 n).length := Nat.length_toDigits_pos
  have hz : 1 - (Nat.toDigits 10 n).length = 0 := by omega
  rw [padded, List.leftpad, hz, List.replicate_zero, List.nil_append, plain]

theorem toString_eq_plain (n : Nat) : toString n = plain n := Nat.toString_eq_ofList_toDigits

theorem length_plain (n : Nat) : (plain n).length = Nat.log 10 n + 1 := by
  have hpos : 0 < (Nat.toDigits 10 n).length := Nat.length_toDigits_pos
  rw [plain, String.length_ofList]
  apply Nat.le_antisymm
  · rw [Nat.length_toDigits_le_iff (by omega) (by omega)]
    exact Nat.lt_pow_succ_log_self (by omega) n
  · by_cases hn : n = 0
    · rw [hn, Nat.log_zero_right]
      exact Nat.length_toDigits_pos
    · have hlt := (Nat.length_toDigits_le_iff (by omega) hpos).mp (Nat.le_refl _)
      exact Nat.log_lt_of_lt_pow hn hlt

/-- Zero is the only number with a zero in front. -/
theorem eq_zero_of_head?_toDigits {n : Nat} (h : (Nat.toDigits 10 n).head? = some '0') : n = 0 := by
  induction n using Nat.strongRecOn with
  | ind n ih =>
    by_cases hn : n < 10
    · rw [Nat.toDigits_of_lt_base hn] at h
      have hc := congrArg Char.toNat (Option.some.inj h)
      rw [Nat.toNat_digitChar_of_lt_ten hn] at hc
      exact Nat.add_left_cancel hc
    · rw [Nat.toDigits_of_base_le (by omega) (by omega),
        List.head?_append_of_ne_nil _ Nat.toDigits_ne_nil] at h
      have hd := ih (n / 10) (by omega) h
      omega

end Numeral

/-- How many digits are shown at least. -/
def Width.places : Width → Nat
  | .single => 1
  | .double => 2

namespace Placeholder

theorem spelled_eq_padded (p : Placeholder) (n : Nat) :
    p.spelled n = Numeral.padded p.width.places n := by
  cases hw : p.width with
  | single =>
    rw [Width.places, Numeral.padded_one, ← Numeral.toString_eq_plain, spelled, hw]
    rfl
  | double =>
    rw [Width.places, ← Numeral.twoDigits, Numeral.twoDigits_eq, spelled, hw]
    simp only [true_and]

theorem spelled_ne_empty (p : Placeholder) (n : Nat) : p.spelled n ≠ "" := by
  intro h
  have hl := congrArg String.toList h
  rw [toList_spelled] at hl
  exact Nat.toDigits_ne_nil (List.append_eq_nil_iff.mp hl).2

theorem isDigit_of_mem_spelled {p : Placeholder} {n : Nat} {x : Char}
    (hx : x ∈ (p.spelled n).toList) : x.isDigit = true := by
  rw [spelled_eq_padded] at hx
  exact Numeral.isDigit_of_mem_padded hx

theorem ofDigitChars_spelled (p : Placeholder) (n : Nat) :
    Nat.ofDigitChars 10 (p.spelled n).toList 0 = n := by
  rw [spelled_eq_padded, Numeral.ofDigitChars_padded]

theorem spelled_inj (p : Placeholder) {m n : Nat} : p.spelled m = p.spelled n ↔ m = n := by
  refine ⟨fun h => ?_, fun h => h ▸ rfl⟩
  calc
    m = Nat.ofDigitChars 10 (p.spelled m).toList 0 := (p.ofDigitChars_spelled m).symm
    _ = Nat.ofDigitChars 10 (p.spelled n).toList 0 := by rw [h]
    _ = n := p.ofDigitChars_spelled n

theorem length_spelled (p : Placeholder) (n : Nat) :
    (p.spelled n).toList.length = max p.width.places (Nat.toDigits 10 n).length := by
  rw [spelled_eq_padded, String.length_toList, Numeral.length_padded, Numeral.plain,
    String.length_ofList]

theorem length_spelled_le_two_iff (p : Placeholder) (n : Nat) :
    (p.spelled n).toList.length ≤ 2 ↔ n < 100 := by
  have hd : (Nat.toDigits 10 n).length ≤ 2 ↔ n < 10 ^ 2 :=
    Nat.length_toDigits_le_iff (by omega) (by omega)
  have hplaces : p.width.places ≤ 2 := by cases p.width <;> decide
  rw [length_spelled]
  omega

theorem length_spelled_double {p : Placeholder} (hp : p.width = .double) {n : Nat}
    (hn : n < 100) : (p.spelled n).toList.length = 2 := by
  have hle := (p.length_spelled_le_two_iff n).mpr hn
  have hge := p.length_spelled n
  rw [hp, Width.places] at hge
  omega

theorem length_spelled_mono (p : Placeholder) {m n : Nat} (h : m ≤ n) :
    (p.spelled m).toList.length ≤ (p.spelled n).toList.length := by
  have hpos : 0 < (Nat.toDigits 10 n).length := Nat.length_toDigits_pos
  have hn : n < 10 ^ (Nat.toDigits 10 n).length :=
    (Nat.length_toDigits_le_iff (by omega) hpos).mp (Nat.le_refl _)
  have hd : (Nat.toDigits 10 m).length ≤ (Nat.toDigits 10 n).length :=
    (Nat.length_toDigits_le_iff (by omega) hpos).mpr (Nat.lt_of_le_of_lt h hn)
  rw [length_spelled, length_spelled]
  omega

end Placeholder

end DurationFormat
