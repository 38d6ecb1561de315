import DurationFormat.Proofs.Counts
import DurationFormat.Proofs.Reader

/-!
# Rendering in closed form

What a duration reads as, computed from its whole seconds with one remainder and one quotient for
each placeholder. A template enters into the reading of a placeholder only by the coarsest unit
among all placeholders, wherever that unit stands.
-/

namespace DurationFormat

namespace Placeholder

/-- A count in decimal; with width `double` a zero is put before a single digit. -/
def spelled (p : Placeholder) (n : Nat) : String :=
  if p.width = .double ∧ n < 10 then "0" ++ toString n else toString n

end Placeholder

/-- What a segment reads as after `s` seconds, `c` being the coarsest unit of a placeholder. -/
def Segment.spelled (c : TimeUnit) (s : Nat) : Segment → String
  | .literal text => text
  | .placeholder p => p.spelled (c.share p.unit s)

namespace Template

def coarsest? (t : Template) : Option TimeUnit :=
  TimeUnit.all.find? fun u => t.placeholders.any (·.unit = u)

def spelled (t : Template) (s : Nat) : String :=
  match t.coarsest? with
  | none => String.join (t.segments.map Segment.literalText)
  | some c => String.join (t.segments.map (Segment.spelled c s))

end Template

theorem Numeral.twoDigits_eq (n : Nat) :
    twoDigits n = if n < 10 then "0" ++ toString n else toString n := by
  apply String.toList_inj.mp
  rw [twoDigits, toList_padded, List.leftpad]
  split
  · rename_i h
    have hd : Nat.toDigits 10 n = [n.digitChar] := Nat.toDigits_of_lt_base h
    simp [hd]
  · rename_i h
    have hl : ¬ (Nat.toDigits 10 n).length ≤ 1 := by
      rw [Nat.length_toDigits_le_iff (by omega) (by omega)]
      omega
    have hz : 2 - (Nat.toDigits 10 n).length = 0 := by omega
    rw [hz, List.replicate_zero, List.nil_append, Nat.toString_eq_repr, Nat.toList_repr]

/-- A count that was not padded with the rest is padded when it is shown. -/
theorem Placeholder.shown?_ofMillis {g : Granularity} {p : Placeholder}
    (h : p.unit.granularity ≤ g) (millis : Int64) (withStrings : Bool) :
    p.shown? (.ofMillis millis g withStrings) =
      some (p.spelled (g.coarsest.share p.unit (wholeSeconds millis))) := by
  have hget := Breakdown.get?_ofMillis h millis withStrings
  obtain ⟨u, w⟩ := p
  cases w with
  | single =>
    rw [shown?, hget]
    rfl
  | double =>
    cases withStrings with
    | true =>
      have hpadded := Breakdown.padded?_ofMillis h millis
      simp only [shown?, hpadded, Numeral.twoDigits_eq, spelled, true_and]
    | false =>
      have hnone : (Breakdown.ofMillis millis g false).padded? u = none := by
        rw [Breakdown.padded?, Breakdown.part?_ofMillis, if_pos h]
        rfl
      simp only [shown?, hnone, hget, Option.map_some, Numeral.twoDigits_eq, spelled, true_and]

namespace TimeUnit

theorem pairwise_all : all.Pairwise fun u v => v.granularity ≤ u.granularity := by decide

theorem granularity_le_iff {u v : TimeUnit} :
    u.granularity ≤ v.granularity ↔ u.seconds ≤ v.seconds := by
  cases u <;> cases v <;> decide

theorem eq_of_granularity_le {u v : TimeUnit} (huv : u.granularity ≤ v.granularity)
    (hvu : v.granularity ≤ u.granularity) : u = v := by
  have h : u.granularity = v.granularity :=
    Granularity.partCount_inj.mp (Nat.le_antisymm huv hvu)
  rw [← Granularity.coarsest_granularity u, h, Granularity.coarsest_granularity]

end TimeUnit

namespace Template

theorem coarsest?_eq_none_iff {t : Template} : t.coarsest? = none ↔ t.placeholders = [] := by
  rw [coarsest?, List.find?_eq_none]
  constructor
  · intro h
    apply List.eq_nil_iff_forall_not_mem.mpr
    intro p hp
    exact h p.unit (TimeUnit.mem_all p.unit) (List.any_eq_true.mpr ⟨p, hp, decide_eq_true rfl⟩)
  · intro h u _
    simp [h]

theorem coarsest?_eq_some {t : Template} {c : TimeUnit} (h : t.coarsest? = some c) :
    (∃ p ∈ t.placeholders, p.unit = c) ∧
      ∀ p ∈ t.placeholders, p.unit.granularity ≤ c.granularity := by
  obtain ⟨hc, before, after, hall, hbefore⟩ := List.find?_eq_some_iff_append.mp h
  refine ⟨by simpa using hc, ?_⟩
  intro p hp
  have hsorted := TimeUnit.pairwise_all
  have hmem := TimeUnit.mem_all p.unit
  rw [hall] at hsorted hmem
  rcases List.mem_append.mp hmem with hb | ha
  · -- a placeholder of a unit before `c` would have been found first
    have hno := hbefore p.unit hb
    have hyes : t.placeholders.any (·.unit = p.unit) = true :=
      List.any_eq_true.mpr ⟨p, hp, decide_eq_true rfl⟩
    simp [hyes] at hno
  · rcases List.mem_cons.mp ha with he | ha
    · exact he ▸ Nat.le_refl _
    · have hca := (List.pairwise_append.mp hsorted).2.1
      exact (List.pairwise_cons.mp hca).1 p.unit ha

theorem exists_coarsest?_of_mem {t : Template} {p : Placeholder} (hp : p ∈ t.placeholders) :
    ∃ c, t.coarsest? = some c ∧ p.unit.granularity ≤ c.granularity := by
  cases hc : t.coarsest? with
  | none =>
    rw [coarsest?_eq_none_iff.mp hc] at hp
    cases hp
  | some c => exact ⟨c, rfl, (coarsest?_eq_some hc).2 p hp⟩

theorem coarsest?_eq_some_iff {t : Template} {c : TimeUnit} :
    t.coarsest? = some c ↔ (∃ p ∈ t.placeholders, p.unit = c) ∧
      ∀ p ∈ t.placeholders, p.unit.seconds ≤ c.seconds := by
  constructor
  · intro h
    obtain ⟨hc, hmax⟩ := coarsest?_eq_some h
    exact ⟨hc, fun p hp => TimeUnit.granularity_le_iff.mp (hmax p hp)⟩
  · rintro ⟨⟨p, hp, rfl⟩, hmax⟩
    obtain ⟨d, hd, hpd⟩ := exists_coarsest?_of_mem hp
    obtain ⟨q, hq, rfl⟩ := (coarsest?_eq_some hd).1
    have hqp := TimeUnit.granularity_le_iff.mpr (hmax q hq)
    rw [hd, TimeUnit.eq_of_granularity_le hqp hpd]

theorem WellFormed.granularity_eq_coarsest? {t : Template} (h : t.WellFormed) :
    t.granularity = t.coarsest?.map TimeUnit.granularity := by
  rw [h.granularity_eq, Segment.granularity?]
  change (t.placeholders.map fun p => p.unit.granularity).max? = _
  cases hc : t.coarsest? with
  | none => rw [coarsest?_eq_none_iff.mp hc, List.map_nil, List.max?_nil, Option.map_none]
  | some c =>
    obtain ⟨⟨p, hp, hpc⟩, hmax⟩ := coarsest?_eq_some hc
    apply List.max?_eq_some_iff.mpr
    refine ⟨List.mem_map.mpr ⟨p, hp, by rw [hpc]⟩, ?_⟩
    intro g hg
    obtain ⟨q, hq, rfl⟩ := List.mem_map.mp hg
    exact hmax q hq

theorem mem_placeholders {t : Template} {p : Placeholder} :
    p ∈ t.placeholders ↔ .placeholder p ∈ t.segments := by
  rw [placeholders, List.mem_filterMap]
  constructor
  · rintro ⟨s, hs, hp⟩
    cases s with
    | literal text => cases hp
    | placeholder q =>
      cases hp
      exact hs
  · exact fun h => ⟨_, h, rfl⟩

theorem render_eq_spelled {t : Template} (h : t.WellFormed) (millis : Int64) :
    t.render millis = t.spelled (wholeSeconds millis) := by
  rw [render, spelled, h.granularity_eq_coarsest?]
  cases hc : t.coarsest? with
  | none => rfl
  | some c =>
    simp only [Option.map_some]
    congr 1
    apply List.map_congr_left
    intro s hs
    cases s with
    | literal text => rfl
    | placeholder p =>
      have hp := (coarsest?_eq_some hc).2 p (mem_placeholders.mpr hs)
      rw [Segment.render, Placeholder.shown?_ofMillis hp, Granularity.coarsest_granularity]
      rfl

end Template

theorem Placeholder.toList_spelled (p : Placeholder) (n : Nat) :
    (p.spelled n).toList =
      (if p.width = .double ∧ n < 10 then ['0'] else []) ++ Nat.toDigits 10 n := by
  rw [spelled]
  split <;> simp

namespace Atom

/-- What an atom reads as after `s` seconds, `c` being the coarsest unit of a placeholder. -/
def spelled (c : TimeUnit) (s : Nat) : Atom → List Char
  | .char x => [x]
  | .placeholder p => (p.spelled (c.share p.unit s)).toList

def Within (c : TimeUnit) (a : Atom) : Prop :=
  ∀ p, a = .placeholder p → p.unit.granularity ≤ c.granularity

theorem spelled_ne_nil (c : TimeUnit) (s : Nat) (a : Atom) : a.spelled c s ≠ [] := by
  cases a with
  | char x => exact List.cons_ne_nil _ _
  | placeholder p => simp [spelled, Placeholder.toList_spelled]

end Atom

theorem Segment.toList_spelled (c : TimeUnit) (s : Nat) (segment : Segment) :
    (segment.spelled c s).toList = segment.atoms.flatMap (Atom.spelled c s) := by
  cases segment with
  | literal text => simp [Segment.spelled, atoms, List.flatMap_map, Atom.spelled]
  | placeholder p => simp [Segment.spelled, atoms, Atom.spelled]

namespace Template

/-- The coarsest unit is `c`, or there are no placeholders and any unit may be taken for it. -/
def CountsIn (t : Template) (c : TimeUnit) : Prop := ∀ d, t.coarsest? = some d → d = c

theorem exists_countsIn (t : Template) : ∃ c, t.CountsIn c := by
  refine ⟨t.coarsest?.getD .second, ?_⟩
  intro d hd
  rw [hd, Option.getD_some]

theorem CountsIn.spelled_eq {t : Template} {c : TimeUnit} (h : t.CountsIn c) (s : Nat) :
    t.spelled s = String.join (t.segments.map (Segment.spelled c s)) := by
  rw [spelled]
  cases hc : t.coarsest? with
  | none =>
    simp only
    congr 1
    apply List.map_congr_left
    intro segment hsegment
    cases segment with
    | literal text => rfl
    | placeholder p =>
      have hp := mem_placeholders.mpr hsegment
      rw [coarsest?_eq_none_iff.mp hc] at hp
      cases hp
  | some d => rw [h d hc]

theorem CountsIn.toList_render_segments {t : Template} {c : TimeUnit} (h : t.CountsIn c)
    (ht : t.WellFormed) (millis : Int64) :
    (t.render millis).toList =
      t.segments.flatMap fun s => (s.spelled c (wholeSeconds millis)).toList := by
  rw [render_eq_spelled ht, h.spelled_eq, String.toList_join, List.flatMap_map]

theorem CountsIn.toList_render {t : Template} {c : TimeUnit} (h : t.CountsIn c)
    (ht : t.WellFormed) (millis : Int64) :
    (t.render millis).toList = t.atoms.flatMap (Atom.spelled c (wholeSeconds millis)) := by
  rw [h.toList_render_segments ht, atoms, List.flatMap_assoc]
  simp only [Segment.toList_spelled]

theorem mem_atoms_placeholder {t : Template} {p : Placeholder} :
    .placeholder p ∈ t.atoms ↔ p ∈ t.placeholders := by
  rw [mem_placeholders, atoms, List.mem_flatMap]
  constructor
  · rintro ⟨s, hs, hp⟩
    cases s with
    | literal text => simp [Segment.atoms] at hp
    | placeholder q =>
      obtain rfl : p = q := by simpa [Segment.atoms] using hp
      exact hs
  · exact fun h => ⟨_, h, List.mem_singleton_self _⟩

theorem CountsIn.within {t : Template} {c : TimeUnit} (h : t.CountsIn c) {a : Atom}
    (ha : a ∈ t.atoms) : a.Within c := by
  intro p hp
  subst a
  obtain ⟨d, hd, hpd⟩ := exists_coarsest?_of_mem (mem_atoms_placeholder.mp ha)
  exact h d hd ▸ hpd

end Template

example : format 3725000 "m[m] h" = "2m 1" := by decide +kernel

end DurationFormat
