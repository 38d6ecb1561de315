import DurationFormat.Template.Render
import Mathlib.Data.List.Chain

/-!
# Counts in closed form

A breakdown divides step by step, and what a unit leaves over is divided among the finer ones.
Since each unit's length divides that of the next coarser one, the steps before that one do not
matter: a count below the coarsest unit is what one remainder and one quotient of the whole
seconds give. So the only thing a count depends on beside its unit is which unit is the coarsest.
-/

namespace DurationFormat

theorem wholeSeconds_le (millis : Int64) : wholeSeconds millis ≤ 9223372036854775 := by
  have hmax : millis.toInt ≤ 9223372036854775807 := Int.le_of_lt_add_one millis.toInt_lt
  have hdiv : millis.toInt.tdiv 1000 ≤ 9223372036854775 := Int.tdiv_le_tdiv (by decide) hmax
  exact Int.toNat_le.mpr hdiv

theorem wholeSeconds_ofNat {n : Nat} (h : n ≤ 9223372036854775807) :
    wholeSeconds (.ofNat n) = n / 1000 := by
  have hn : (Int64.ofNat n).toInt = n := Int64.toInt_ofNat_of_lt (Nat.lt_succ_of_le h)
  rw [wholeSeconds, hn, Int.tdiv_eq_ediv_of_nonneg (by omega)]
  omega

namespace TimeUnit

def coarser? : TimeUnit → Option TimeUnit
  | .day => none
  | .hour => some .day
  | .minute => some .hour
  | .second => some .minute

/-- What the next coarser unit leaves over. -/
def remainder (u : TimeUnit) (s : Nat) : Nat :=
  match u.coarser? with
  | some v => s % v.seconds
  | none => s

/-- The count of a unit when `coarsest` takes all it can and finer units take what is left over. -/
def share (coarsest u : TimeUnit) (s : Nat) : Nat :=
  (if u = coarsest then s else u.remainder s) / u.seconds

@[simp] theorem share_self (c : TimeUnit) (s : Nat) : c.share c s = s / c.seconds := by
  rw [share, if_pos rfl]

theorem seconds_dvd_of_coarser? {u v : TimeUnit} (h : u.coarser? = some v) :
    u.seconds ∣ v.seconds := by
  cases u <;> cases h <;> decide

end TimeUnit

theorem shares_of_isChain {v : TimeUnit} {us : List TimeUnit}
    (h : (v :: us).IsChain fun v u => u.coarser? = some v) (s : Nat) :
    shares us (s % v.seconds) = us.map fun u => (u, u.remainder s / u.seconds) := by
  induction us generalizing v with
  | nil => rfl
  | cons u us ih =>
    obtain ⟨hu, hus⟩ := List.isChain_cons_cons.mp h
    have hr : u.remainder s = s % v.seconds := by rw [TimeUnit.remainder, hu]
    rw [shares_cons, Nat.mod_mod_of_dvd s (TimeUnit.seconds_dvd_of_coarser? hu), ih hus,
      List.map_cons, hr]

namespace Granularity

theorem exists_units_eq_cons (g : Granularity) : ∃ us, g.units = g.coarsest :: us ∧
    (g.coarsest :: us).IsChain (fun v u => u.coarser? = some v) ∧ g.coarsest ∉ us := by
  refine ⟨g.units.tail, ?_⟩
  cases g <;> decide

theorem shares_units (g : Granularity) (s : Nat) :
    shares g.units s = g.units.map fun u => (u, g.coarsest.share u s) := by
  obtain ⟨us, hg, hc, hn⟩ := g.exists_units_eq_cons
  rw [hg, shares_cons, shares_of_isChain hc, List.map_cons]
  congr 1
  · simp [TimeUnit.share]
  · apply List.map_congr_left
    intro u hu
    have hne : u ≠ g.coarsest := fun he => hn (he ▸ hu)
    rw [TimeUnit.share, if_neg hne]

theorem find?_units (g : Granularity) (u : TimeUnit) :
    g.units.find? (· = u) = if u.granularity ≤ g then some u else none := by
  cases g <;> cases u <;> rfl

end Granularity

namespace Breakdown

section Parts
variable (millis : Int64) (g : Granularity) (withStrings : Bool)

theorem mem_parts {p : Part} (h : p ∈ (ofMillis millis g withStrings).parts) :
    p.padded = if withStrings then some (Numeral.twoDigits p.count) else none := by
  obtain ⟨share, -, rfl⟩ := List.mem_map.mp h
  rfl

theorem map_unit_parts : (ofMillis millis g withStrings).parts.map (·.unit) = g.units := by
  rw [ofMillis, List.map_map]
  exact map_fst_shares g.units (wholeSeconds millis)

end Parts

theorem part?_ofMillis (millis : Int64) (g : Granularity) (withStrings : Bool) (u : TimeUnit) :
    (ofMillis millis g withStrings).part? u =
      if u.granularity ≤ g then
        some ⟨u, g.coarsest.share u (wholeSeconds millis),
          if withStrings then
            some (Numeral.twoDigits (g.coarsest.share u (wholeSeconds millis)))
          else none⟩
      else none := by
  rw [part?, ofMillis, Granularity.shares_units, List.map_map, List.find?_map]
  change (g.units.find? (· = u)).map _ = _
  rw [g.find?_units]
  by_cases h : u.granularity ≤ g
  · rw [if_pos h, if_pos h]
    rfl
  · rw [if_neg h, if_neg h]
    rfl

theorem get?_ofMillis {g : Granularity} {u : TimeUnit} (h : u.granularity ≤ g) (millis : Int64)
    (withStrings : Bool) :
    (ofMillis millis g withStrings).get? u = some (g.coarsest.share u (wholeSeconds millis)) := by
  rw [get?, part?_ofMillis, if_pos h]
  rfl

theorem padded?_ofMillis {g : Granularity} {u : TimeUnit} (h : u.granularity ≤ g)
    (millis : Int64) :
    (ofMillis millis g true).padded? u =
      some (Numeral.twoDigits (g.coarsest.share u (wholeSeconds millis))) := by
  rw [padded?, part?_ofMillis, if_pos h]
  rfl

end Breakdown

end DurationFormat
