import DurationFormat.Proofs.Counts
import Mathlib.Algebra.GroupWithZero.Nat

/-!
# Mixed-radix counts

A breakdown writes its whole seconds as a number whose places are the units of a granularity. The
places add up to the seconds, and below the first one no place reaches the unit before it. Since
each unit's length divides that of the next coarser one, there is one such way to write a number.
No total of a breakdown is cut off, however long the duration.
-/

namespace DurationFormat

/-- The seconds that counts of units stand for. -/
def secondsIn (counts : List (TimeUnit × Nat)) : Nat := (counts.map fun a => a.2 * a.1.seconds).sum

/-- After the first count none is worth as much as the unit before it. -/
def Carried (counts : List (TimeUnit × Nat)) : Prop :=
  counts.IsChain fun a b => b.2 * b.1.seconds < a.1.seconds

@[simp] theorem secondsIn_nil : secondsIn [] = 0 := rfl

@[simp] theorem secondsIn_cons (a : TimeUnit × Nat) (counts : List (TimeUnit × Nat)) :
    secondsIn (a :: counts) = a.2 * a.1.seconds + secondsIn counts := by
  simp [secondsIn]

@[simp] theorem secondsIn_append (counts counts' : List (TimeUnit × Nat)) :
    secondsIn (counts ++ counts') = secondsIn counts + secondsIn counts' := by
  simp [secondsIn]

theorem carried_shares (us : List TimeUnit) (s : Nat) : Carried (shares us s) := by
  induction us generalizing s with
  | nil => exact .nil
  | cons u us ih =>
    rw [shares_cons]
    refine List.isChain_cons.mpr ⟨fun b hb => ?_, ih (s % u.seconds)⟩
    cases us with
    | nil => cases hb
    | cons v us =>
      rw [shares_cons, List.head?_cons, Option.mem_some_iff] at hb
      subst hb
      calc
        s % u.seconds / v.seconds * v.seconds ≤ s % u.seconds := Nat.div_mul_le_self _ _
        _ < u.seconds := Nat.mod_lt _ u.seconds_pos

/-- Nothing is left over where the last unit is a second. -/
theorem secondsIn_shares {us : List TimeUnit} (h : us.getLast? = some .second) (s : Nat) :
    secondsIn (shares us s) = s := by
  induction us generalizing s with
  | nil => cases h
  | cons u us ih =>
    rw [shares_cons, secondsIn_cons]
    cases us with
    | nil =>
      obtain rfl : u = .second := by simpa using h
      simp [TimeUnit.seconds]
    | cons v us =>
      rw [ih (by simpa using h)]
      exact Nat.div_add_mod' s u.seconds

section Carried
variable {a : TimeUnit × Nat} {counts : List (TimeUnit × Nat)}

theorem Carried.tail (h : Carried (a :: counts)) : Carried counts := (List.isChain_cons.mp h).2

/-- All that follows a unit is worth less than one of it. -/
theorem Carried.secondsIn_lt (h : Carried (a :: counts))
    (hd : (a.1 :: counts.map Prod.fst).IsChain fun v u => u.seconds ∣ v.seconds) :
    secondsIn counts < a.1.seconds := by
  induction counts generalizing a with
  | nil => exact a.1.seconds_pos
  | cons b counts ih =>
    rw [List.map_cons, List.isChain_cons_cons] at hd
    have hrest := ih h.tail hd.2
    have hb : b.2 * b.1.seconds < a.1.seconds := (List.isChain_cons_cons.mp h).1
    obtain ⟨k, hk⟩ := hd.1
    rw [hk, Nat.mul_comm] at hb
    -- the count before `b` leaves room for one more of the unit of `b`
    have hroom : b.2 + 1 ≤ k := Nat.lt_of_mul_lt_mul_left hb
    calc
      secondsIn (b :: counts) < b.2 * b.1.seconds + b.1.seconds := by
        rw [secondsIn_cons]
        omega
      _ = b.1.seconds * (b.2 + 1) := by rw [Nat.mul_add, Nat.mul_one, Nat.mul_comm]
      _ ≤ b.1.seconds * k := Nat.mul_le_mul_left _ hroom
      _ = a.1.seconds := hk.symm

/-- Counts that are carried are found again by division. -/
theorem Carried.shares_eq (h : Carried counts)
    (hd : (counts.map Prod.fst).IsChain fun v u => u.seconds ∣ v.seconds) :
    shares (counts.map Prod.fst) (secondsIn counts) = counts := by
  induction counts with
  | nil => rfl
  | cons a counts ih =>
    have hsum : secondsIn counts + a.1.seconds * a.2 = secondsIn (a :: counts) := by
      rw [secondsIn_cons, Nat.add_comm, Nat.mul_comm]
    obtain ⟨hq, hr⟩ := (Nat.div_mod_unique a.1.seconds_pos).mpr ⟨hsum, h.secondsIn_lt hd⟩
    rw [List.map_cons, shares_cons, hq, hr, ih h.tail hd.of_cons]

end Carried

namespace Granularity

theorem isChain_units (g : Granularity) : g.units.IsChain fun v u => u.seconds ∣ v.seconds := by
  cases g <;> decide

theorem getLast?_units (g : Granularity) : g.units.getLast? = some .second := by
  cases g <;> rfl

theorem pairwise_units (g : Granularity) :
    g.units.Pairwise fun v u => u.seconds < v.seconds := by
  cases g <;> decide

theorem secondsIn_shares_units (g : Granularity) (s : Nat) : secondsIn (shares g.units s) = s :=
  secondsIn_shares g.getLast?_units s

theorem sum_share (g : Granularity) (s : Nat) :
    (g.units.map fun u => g.coarsest.share u s * u.seconds).sum = s := by
  have h := g.secondsIn_shares_units s
  rwa [shares_units, secondsIn, List.map_map] at h

/-- The shares of a number are the one way to write it in the units of a granularity. -/
theorem eq_shares_iff {g : Granularity} {s : Nat} {counts : List (TimeUnit × Nat)} :
    counts = shares g.units s ↔
      counts.map Prod.fst = g.units ∧ Carried counts ∧ secondsIn counts = s := by
  constructor
  · rintro rfl
    exact ⟨map_fst_shares g.units s, carried_shares g.units s, g.secondsIn_shares_units s⟩
  · rintro ⟨hu, hc, rfl⟩
    rw [← hu]
    exact (hc.shares_eq (hu ▸ g.isChain_units)).symm

end Granularity

namespace Breakdown

def counts (b : Breakdown) : List (TimeUnit × Nat) := b.parts.map fun p => (p.unit, p.count)

@[simp] theorem counts_ofMillis (millis : Int64) (g : Granularity) (withStrings : Bool) :
    (ofMillis millis g withStrings).counts = shares g.units (wholeSeconds millis) := by
  rw [counts, ofMillis, List.map_map]
  exact List.map_id _

theorem foldl_saturate (ps : List Part) (sum : Nat) :
    ps.foldl (fun sum p => saturate (sum + saturate (p.count * p.unit.seconds))) (saturate sum) =
      saturate (sum + secondsIn (ps.map fun p => (p.unit, p.count))) := by
  induction ps generalizing sum with
  | nil => rfl
  | cons p ps ih =>
    have hstep : saturate (saturate sum + saturate (p.count * p.unit.seconds)) =
        saturate (sum + p.count * p.unit.seconds) := by
      simp only [saturate]
      omega
    rw [List.foldl_cons, hstep, ih, List.map_cons, secondsIn_cons, Nat.add_assoc]

/-- Cutting off at each step is the same as cutting off at the end. -/
theorem totalSeconds_eq (b : Breakdown) : b.totalSeconds = saturate (secondsIn b.counts) := by
  have h := foldl_saturate b.parts 0
  rwa [Nat.zero_add] at h

theorem totalSeconds_ofMillis (millis : Int64) (g : Granularity) (withStrings : Bool) :
    (ofMillis millis g withStrings).totalSeconds = wholeSeconds millis := by
  have h := wholeSeconds_le millis
  rw [totalSeconds_eq, counts_ofMillis, g.secondsIn_shares_units, saturate, maxTotal]
  omega

/-- Along the parts of a breakdown no product and no sum passes the greatest total. -/
theorem totalSeconds_add_le {millis : Int64} {g : Granularity} {withStrings : Bool}
    {before after : List Part} {p : Part}
    (h : (ofMillis millis g withStrings).parts = before ++ p :: after) :
    totalSeconds ⟨g, before⟩ + p.count * p.unit.seconds ≤ maxTotal := by
  have hc := congrArg (List.map fun p => (p.unit, p.count)) h
  rw [List.map_append, List.map_cons, ← counts, counts_ofMillis] at hc
  have hs := g.secondsIn_shares_units (wholeSeconds millis)
  rw [hc, secondsIn_append, secondsIn_cons] at hs
  have hle := wholeSeconds_le millis
  calc
    totalSeconds ⟨g, before⟩ + p.count * p.unit.seconds ≤
        secondsIn (before.map fun p => (p.unit, p.count)) + p.count * p.unit.seconds := by
      rw [totalSeconds_eq]
      exact Nat.add_le_add_right (Nat.min_le_left _ _) _
    _ ≤ wholeSeconds millis := by
      rw [← hs, ← Nat.add_assoc]
      exact Nat.le_add_right _ _
    _ ≤ maxTotal := Nat.le_trans hle (by decide)

/-- The parts of a breakdown are the units of its granularity, coarsest first; below the first no
part is worth a whole one of the unit before it; and together they are the whole seconds. Nothing
else is such a list of counts. The total is reached without being cut off on the way, and either
every part is padded or none is. -/
theorem ofMillis_mixedRadix (millis : Int64) (g : Granularity) (withStrings : Bool) :
    let b := ofMillis millis g withStrings
    let s := (millis.toInt.tdiv 1000).toNat
    (b.parts.map (·.unit) = g.units ∧ (∀ u, u ∈ g.units ↔ u.granularity ≤ g) ∧
      g.units.Pairwise fun v u => u.seconds < v.seconds) ∧
    (b.parts.IsChain fun p q => q.count * q.unit.seconds < p.unit.seconds) ∧
    (b.parts.map fun p => p.count * p.unit.seconds).sum = s ∧
    b.totalSeconds = s ∧
    (∀ before p after, b.parts = before ++ p :: after →
      p.count * p.unit.seconds ≤ maxTotal ∧
      totalSeconds ⟨g, before⟩ + p.count * p.unit.seconds ≤ maxTotal) ∧
    (∀ counts : List (TimeUnit × Nat), counts = b.counts ↔
      counts.map Prod.fst = g.units ∧
      (counts.IsChain fun a b => b.2 * b.1.seconds < a.1.seconds) ∧
      (counts.map fun a => a.2 * a.1.seconds).sum = s) ∧
    ∀ p ∈ b.parts, p.padded.isSome = withStrings := by
  intro b s
  have hcounts : b.counts = shares g.units s := counts_ofMillis millis g withStrings
  obtain ⟨-, hcarried, hsum⟩ := Granularity.eq_shares_iff.mp hcounts
  refine ⟨⟨map_unit_parts millis g withStrings, fun u => Granularity.mem_units,
    g.pairwise_units⟩, ?_, ?_, totalSeconds_ofMillis millis g withStrings, ?_, ?_, ?_⟩
  · rwa [Carried, counts, List.isChain_map] at hcarried
  · rwa [secondsIn, counts, List.map_map] at hsum
  · intro before p after h
    have hle : totalSeconds ⟨g, before⟩ + p.count * p.unit.seconds ≤ maxTotal :=
      totalSeconds_add_le h
    exact ⟨Nat.le_trans (Nat.le_add_left _ _) hle, hle⟩
  · intro counts
    rw [hcounts]
    exact Granularity.eq_shares_iff
  · intro p hp
    rw [mem_parts millis g withStrings hp]
    cases withStrings <;> rfl

/-- The longest duration there is, in all units. -/
theorem ofMillis_mixedRadix_longest :
    let b := ofMillis Int64.maxValue .days true
    let day : Part := ⟨.day, 106751991167, some "106751991167"⟩
    let hour : Part := ⟨.hour, 7, some "07"⟩
    let rest : List Part := [⟨.minute, 12, some "12"⟩, ⟨.second, 55, some "55"⟩]
    b.parts = [day] ++ hour :: rest ∧ b.totalSeconds = 9223372036854775 ∧
      (hour.count * hour.unit.seconds ≤ maxTotal ∧
        totalSeconds ⟨.days, [day]⟩ + hour.count * hour.unit.seconds ≤ maxTotal) ∧
      hour ∈ b.parts ∧ hour.padded.isSome = true := by
  intro b day hour rest
  have hparts : b.parts = [day] ++ hour :: rest := by decide +kernel
  have hmem : hour ∈ b.parts := hparts ▸ by simp
  obtain ⟨-, -, -, htotal, hbounded, -, hpadded⟩ :=
    ofMillis_mixedRadix Int64.maxValue .days true
  exact ⟨hparts, htotal, hbounded _ _ _ hparts, hmem, hpadded hour hmem⟩

end Breakdown

end DurationFormat
