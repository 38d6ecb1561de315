import DurationFormat.Proofs.Separation

/-!
# Counts and whole units

How many whole units a time holds, and the counts of that unit and of every coarser one, are the
same knowledge. A count below the coarsest unit is the remainder of one such number by the length
of the next coarser unit in it, and the quotient is the number for that coarser unit.
-/

namespace DurationFormat

namespace TimeUnit

/-- Each unit after the next coarser one. -/
theorem coarser_induction {motive : TimeUnit → Prop}
    (step : ∀ v, (∀ w, v.coarser? = some w → motive w) → motive v) (v : TimeUnit) : motive v := by
  have hday : motive .day := step .day fun w hw => by cases hw
  have hhour : motive .hour := step .hour fun w hw => by cases hw; exact hday
  have hminute : motive .minute := step .minute fun w hw => by cases hw; exact hhour
  have hsecond : motive .second := step .second fun w hw => by cases hw; exact hminute
  cases v <;> assumption

theorem exists_coarser? {v c : TimeUnit} (h : v.granularity < c.granularity) :
    ∃ w, v.coarser? = some w ∧ w.granularity ≤ c.granularity := by
  revert h
  cases v <;> cases c <;> decide

theorem granularity_lt_of_coarser? {v w : TimeUnit} (h : v.coarser? = some w) :
    v.granularity < w.granularity := by
  cases v <;> cases h <;> decide

theorem seconds_dvd {u v : TimeUnit} (h : u.granularity ≤ v.granularity) :
    u.seconds ∣ v.seconds := by
  revert h
  cases u <;> cases v <;> decide

/-- How many of a unit make up the next coarser one. -/
theorem seconds_div_le {v w : TimeUnit} (h : v.coarser? = some w) :
    0 < w.seconds / v.seconds ∧ w.seconds / v.seconds ≤ 60 := by
  cases v <;> cases h <;> decide

theorem div_seconds_of_le {u v : TimeUnit} (h : u.granularity ≤ v.granularity) (s : Nat) :
    s / v.seconds = s / u.seconds / (v.seconds / u.seconds) := by
  rw [Nat.div_div_eq_div_mul, Nat.mul_div_cancel' (seconds_dvd h)]

theorem remainder_div {v w : TimeUnit} (hw : v.coarser? = some w) (s : Nat) :
    v.remainder s / v.seconds = s / v.seconds % (w.seconds / v.seconds) := by
  have hvw : w.seconds = v.seconds * (w.seconds / v.seconds) :=
    (Nat.mul_div_cancel' (seconds_dvd_of_coarser? hw)).symm
  rw [remainder, hw]
  calc
    s % w.seconds / v.seconds = s % (v.seconds * (w.seconds / v.seconds)) / v.seconds := by
      rw [← hvw]
    _ = s / v.seconds % (w.seconds / v.seconds) := Nat.mod_mul_right_div_self ..

theorem share_of_coarser? {c v w : TimeUnit} (hvc : v ≠ c) (hw : v.coarser? = some w) (s : Nat) :
    c.share v s = s / v.seconds % (w.seconds / v.seconds) := by
  rw [share, if_neg hvc, remainder_div hw]

theorem share_lt {c u : TimeUnit} (h : u.granularity < c.granularity) (s : Nat) :
    c.share u s < 60 := by
  obtain ⟨w, hw, -⟩ := exists_coarser? h
  have hne : u ≠ c := fun he => Nat.lt_irrefl _ (he ▸ h)
  obtain ⟨hpos, hle⟩ := seconds_div_le hw
  rw [share_of_coarser? hne hw]
  exact Nat.lt_of_lt_of_le (Nat.mod_lt _ hpos) hle

section Two
variable {c u : TimeUnit} {s s' : Nat}

theorem share_eq_of_div_eq {v : TimeUnit} (huv : u.granularity ≤ v.granularity)
    (h : s / u.seconds = s' / u.seconds) : c.share v s = c.share v s' := by
  have hv : s / v.seconds = s' / v.seconds := by
    rw [div_seconds_of_le huv, div_seconds_of_le huv, h]
  by_cases hvc : v = c
  · rw [hvc] at hv ⊢
    rw [share_self, share_self, hv]
  · cases hw : v.coarser? with
    | none => rw [share, share, if_neg hvc, if_neg hvc, remainder, remainder, hw, hv]
    | some w => rw [share_of_coarser? hvc hw, share_of_coarser? hvc hw, hv]

theorem div_eq_of_share_eq (huc : u.granularity ≤ c.granularity)
    (h : ∀ v : TimeUnit, u.granularity ≤ v.granularity → v.granularity ≤ c.granularity →
      c.share v s = c.share v s') : s / u.seconds = s' / u.seconds := by
  induction u using coarser_induction with
  | step u ih =>
    have hu := h u (Nat.le_refl _) huc
    by_cases he : u = c
    · simpa [he] using hu
    · have hlt : u.granularity < c.granularity :=
        Nat.lt_of_not_le fun hcu => he (eq_of_granularity_le huc hcu)
      obtain ⟨w, hw, hwc⟩ := exists_coarser? hlt
      have huw := Nat.le_of_lt (granularity_lt_of_coarser? hw)
      have hq := ih w hw hwc fun v hwv => h v (Nat.le_trans huw hwv)
      -- quotient and remainder by the next coarser unit agree
      rw [share_of_coarser? he hw, share_of_coarser? he hw] at hu
      rw [div_seconds_of_le huw, div_seconds_of_le huw] at hq
      rw [← Nat.div_add_mod (s / u.seconds) (w.seconds / u.seconds), hq, hu, Nat.div_add_mod]

/-- The counts from the coarsest unit down to `u` tell how many whole `u` there are, no less and
no more. -/
theorem div_eq_iff_share_eq (huc : u.granularity ≤ c.granularity) :
    s / u.seconds = s' / u.seconds ↔ ∀ v : TimeUnit, u.granularity ≤ v.granularity →
      v.granularity ≤ c.granularity → c.share v s = c.share v s' :=
  ⟨fun h _ huv _ => share_eq_of_div_eq huv h, div_eq_of_share_eq huc⟩

end Two

end TimeUnit

end DurationFormat
