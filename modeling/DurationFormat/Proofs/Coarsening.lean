import DurationFormat.Proofs.MixedRadix

/-!
# One duration at two granularities

A coarser granularity adds units in front, and they take their time from the unit that was the
coarsest before. The units below that one do not notice: what they count is left over from the
next coarser unit in either case. As both breakdowns add up to the same whole seconds, the unit in
between held exactly what it now shares with the units in front.
-/

namespace DurationFormat

namespace TimeUnit

theorem share_eq_of_ne {c d u : TimeUnit} (hc : u ≠ c) (hd : u ≠ d) (s : Nat) :
    c.share u s = d.share u s := by
  rw [share, share, if_neg hc, if_neg hd]

end TimeUnit

namespace Granularity

section Coarser
variable {g k : Granularity} (h : g ≤ k)
include h

theorem ne_coarsest_of_le {u : TimeUnit} (hu : u.granularity ≤ g) (hne : u ≠ g.coarsest) :
    u ≠ k.coarsest := by
  rintro rfl
  have hkg : k ≤ g := by rwa [granularity_coarsest] at hu
  have heq : k = g := partCount_inj.mp (Nat.le_antisymm hkg h)
  exact hne (congrArg coarsest heq)

theorem share_coarsest_eq {u : TimeUnit} (hu : u.granularity ≤ g) (hne : u ≠ g.coarsest)
    (s : Nat) : g.coarsest.share u s = k.coarsest.share u s :=
  TimeUnit.share_eq_of_ne hne (ne_coarsest_of_le h hu hne) s

theorem units_eq_append :
    k.units = (k.units.filter fun w => g.coarsest.seconds ≤ w.seconds) ++ g.units.tail := by
  revert h
  cases g <;> cases k <;> decide

/-- The time that the coarsest unit holds is what it and the units in front hold together. -/
theorem share_mul_coarsest (s : Nat) :
    g.coarsest.share g.coarsest s * g.coarsest.seconds =
      ((k.units.filter fun w => g.coarsest.seconds ≤ w.seconds).map
        fun w => k.coarsest.share w s * w.seconds).sum := by
  obtain ⟨finer, hg, -, hn⟩ := g.exists_units_eq_cons
  have hk : k.units = (k.units.filter fun w => g.coarsest.seconds ≤ w.seconds) ++ finer := by
    have hk := units_eq_append h
    rwa [hg, List.tail_cons] at hk
  have hfiner : (finer.map fun u => g.coarsest.share u s * u.seconds) =
      finer.map fun u => k.coarsest.share u s * u.seconds := by
    refine List.map_congr_left fun u hu => ?_
    have hle : u.granularity ≤ g := mem_units.mp (hg ▸ List.mem_cons_of_mem _ hu)
    rw [share_coarsest_eq h hle fun he => hn (he ▸ hu)]
  have hsum := (g.sum_share s).trans (k.sum_share s).symm
  rw [hg, List.map_cons, List.sum_cons, hk, List.map_append, List.sum_append, hfiner] at hsum
  exact Nat.add_right_cancel hsum

end Coarser

end Granularity

namespace Breakdown

theorem get?_ofMillis_eq_none_iff {millis : Int64} {g : Granularity} {withStrings : Bool}
    {u : TimeUnit} : (ofMillis millis g withStrings).get? u = none ↔ g.includes u = false := by
  by_cases hu : u.granularity ≤ g
  · simp [get?_ofMillis hu, Granularity.includes_iff.mpr hu]
  · simp [get?, part?_ofMillis, hu, Granularity.includes]

/-- Two breakdowns of a duration have the same counts below the coarsest unit of the finer
granularity, and the count of that unit is worth what the other breakdown counts in it and in the
units above it. A breakdown lacks the counts of the units that its granularity does not include,
and no others. -/
theorem ofMillis_coarsening (millis : Int64) {g k : Granularity} (h : g ≤ k)
    (withStrings withStrings' : Bool) :
    let b := ofMillis millis g withStrings
    let b' := ofMillis millis k withStrings'
    (∀ u ∈ g.units, u ≠ g.coarsest → ∃ n, b.get? u = some n ∧ b'.get? u = some n) ∧
    (withStrings = true → withStrings' = true → ∀ u ∈ g.units, u ≠ g.coarsest →
      ∃ text, b.padded? u = some text ∧ b'.padded? u = some text) ∧
    (∃ n, b.get? g.coarsest = some n ∧
      n * g.coarsest.seconds =
        ((k.units.filter fun w => g.coarsest.seconds ≤ w.seconds).map
          fun w => (b'.get? w).getD 0 * w.seconds).sum) ∧
    ∀ u, (b.get? u = none ↔ g.includes u = false) ∧ (b'.get? u = none ↔ k.includes u = false) := by
  refine ⟨fun u hu hne => ?_, ?_, ?_, fun u =>
    ⟨get?_ofMillis_eq_none_iff, get?_ofMillis_eq_none_iff⟩⟩
  · have hug := Granularity.mem_units.mp hu
    refine ⟨_, get?_ofMillis hug millis withStrings, ?_⟩
    rw [get?_ofMillis (Nat.le_trans hug h), Granularity.share_coarsest_eq h hug hne]
  · rintro rfl rfl u hu hne
    have hug := Granularity.mem_units.mp hu
    refine ⟨_, padded?_ofMillis hug millis, ?_⟩
    rw [padded?_ofMillis (Nat.le_trans hug h), Granularity.share_coarsest_eq h hug hne]
  · have hg : g.coarsest.granularity ≤ g := by
      rw [Granularity.granularity_coarsest]
      exact Nat.le_refl _
    refine ⟨_, get?_ofMillis hg millis withStrings, ?_⟩
    rw [Granularity.share_mul_coarsest h]
    refine congrArg List.sum (List.map_congr_left fun w hw => ?_)
    have hwk := Granularity.mem_units.mp (List.mem_filter.mp hw).1
    rw [get?_ofMillis hwk, Option.getD_some]

/-- Fifty hours and a minute are two days, two hours and a minute. -/
theorem ofMillis_coarsening_days :
    let b := ofMillis 180060000 .hours true
    let b' := ofMillis 180060000 .days true
    Granularity.hours ≤ .days ∧
    (∃ n, b.get? .minute = some n ∧ b'.get? .minute = some n) ∧
    (∃ text, b.padded? .minute = some text ∧ b'.padded? .minute = some text) ∧
    b.get? .hour = some 50 ∧
    50 * TimeUnit.hour.seconds =
      ((Granularity.days.units.filter fun w => TimeUnit.hour.seconds ≤ w.seconds).map
        fun w => (b'.get? w).getD 0 * w.seconds).sum := by
  intro b b'
  have hle : Granularity.hours ≤ .days := by decide
  have hmem : TimeUnit.minute ∈ Granularity.hours.units := by decide
  have hne : TimeUnit.minute ≠ Granularity.hours.coarsest := by decide
  have hfifty : b.get? .hour = some 50 := by decide +kernel
  obtain ⟨hget, hpadded, ⟨n, hn, hsum⟩, -⟩ := ofMillis_coarsening 180060000 hle true true
  obtain rfl : n = 50 := Option.some.inj (hn.symm.trans hfifty)
  exact ⟨hle, hget _ hmem hne, hpadded rfl rfl _ hmem hne, hfifty, hsum⟩

end Breakdown

end DurationFormat
