import DurationFormat.Proofs.Rendering
import Mathlib.Algebra.Order.BigOperators.Group.List
import Mathlib.Algebra.Order.Group.Nat

/-!
# What tells templates apart

Two format strings compile to the same template if and only if every duration reads the same by
both. Two templates that count the same coarsest unit differ in a first atom, and a duration is
found whose readings have different characters there. If one counts a coarser unit than the other,
the digit `5` tells them apart: from no time to five of that unit it appears once more for each
placeholder of the unit, while a finer unit counts the same time in a number without that digit.
-/

namespace DurationFormat

theorem exists_wholeSeconds {s : Nat} (h : s ≤ 9223372036854775) :
    ∃ millis : Int64, wholeSeconds millis = s := by
  refine ⟨.ofNat (1000 * s), ?_⟩
  rw [wholeSeconds_ofNat (by omega), Nat.mul_div_cancel_left s (by omega)]

namespace TimeUnit

theorem seconds_le_day (u : TimeUnit) : u.seconds ≤ 86400 := by cases u <;> decide

@[simp] theorem share_zero (c u : TimeUnit) : c.share u 0 = 0 := by
  cases c <;> cases u <;> rfl

/-- Fewer than 24 of a unit are counted as they are. -/
theorem share_mul {c u : TimeUnit} (hu : u.granularity ≤ c.granularity) {n : Nat} (hn : n < 24) :
    c.share u (n * u.seconds) = n := by
  rw [granularity_le_iff] at hu
  cases c <;> cases u <;>
    simp only [share, remainder, coarser?, seconds, reduceCtorEq, if_true, if_false] at * <;> omega

theorem share_mul_add {c u v : TimeUnit} (hu : u.granularity ≤ c.granularity)
    (hv : v.granularity ≤ c.granularity) (huv : u ≠ v) {n k : Nat} (hn : n < 24) (hk : k < 24) :
    c.share u (n * u.seconds + k * v.seconds) = n := by
  rw [granularity_le_iff] at hu hv
  cases c <;> cases u <;> cases v <;>
    simp only [share, remainder, coarser?, seconds, ne_eq, not_true_eq_false, reduceCtorEq,
      if_true, if_false] at * <;> omega

/-- A multiple of a coarser unit is all counted in the coarsest unit. -/
theorem share_mul_coarser {c k u : TimeUnit} (hck : c.granularity < k.granularity)
    (hu : u.granularity ≤ c.granularity) (n : Nat) :
    c.share u (n * k.seconds) = if u = c then n * (k.seconds / c.seconds) else 0 := by
  have hkc : ¬ k.seconds ≤ c.seconds := fun h => Nat.not_le_of_lt hck (granularity_le_iff.mpr h)
  rw [granularity_le_iff] at hu
  cases c <;> cases k <;> cases u <;>
    simp only [share, remainder, coarser?, seconds, reduceCtorEq, if_true, if_false] at * <;> omega

theorem seconds_div_mem {c k : TimeUnit} (h : c.granularity < k.granularity) :
    k.seconds / c.seconds ∈ [24, 60, 1440, 3600, 86400] := by
  revert h
  cases c <;> cases k <;> decide

end TimeUnit

namespace Placeholder

theorem head?_spelled_zero (p : Placeholder) : (p.spelled 0).toList.head? = some '0' := by
  rw [toList_spelled]
  split <;> rfl

theorem head?_spelled_ten (p : Placeholder) : (p.spelled 10).toList.head? = some '1' := by
  have hn : ¬ (p.width = .double ∧ 10 < 10) := fun h => absurd h.2 (by omega)
  rw [toList_spelled, if_neg hn]
  rfl

theorem head?_spelled_twenty (p : Placeholder) : (p.spelled 20).toList.head? = some '2' := by
  have hn : ¬ (p.width = .double ∧ 20 < 10) := fun h => absurd h.2 (by omega)
  rw [toList_spelled, if_neg hn]
  rfl

theorem count_five_spelled (p : Placeholder) (n : Nat) :
    (p.spelled n).toList.count '5' = (Nat.toDigits 10 n).count '5' := by
  rw [toList_spelled, List.count_append]
  split <;> simp

theorem count_five_zero (p : Placeholder) : (p.spelled 0).toList.count '5' = 0 := by
  rw [count_five_spelled]
  decide

theorem count_five_five (p : Placeholder) : (p.spelled 5).toList.count '5' = 1 := by
  rw [count_five_spelled]
  decide

/-- Five of a coarser unit are counted in a number without the digit `5`. -/
theorem count_five_share {c k : TimeUnit} {p : Placeholder}
    (hck : c.granularity < k.granularity) (hp : p.unit.granularity ≤ c.granularity) :
    (p.spelled (c.share p.unit (5 * k.seconds))).toList.count '5' = 0 := by
  have hr : ∀ r ∈ [24, 60, 1440, 3600, 86400], (Nat.toDigits 10 (5 * r)).count '5' = 0 := by
    decide
  rw [TimeUnit.share_mul_coarser hck hp]
  split
  · rw [count_five_spelled]
    exact hr _ (TimeUnit.seconds_div_mem hck)
  · exact p.count_five_zero

end Placeholder

namespace Atom

/-- Some duration whose readings of the two atoms begin with different characters. -/
def Separated (c : TimeUnit) (a b : Atom) : Prop :=
  ∃ (millis : Int64) (x y : Char), x ≠ y ∧
    (a.spelled c (wholeSeconds millis)).head? = some x ∧
    (b.spelled c (wholeSeconds millis)).head? = some y

theorem Separated.symm {c : TimeUnit} {a b : Atom} (h : Separated c a b) : Separated c b a := by
  obtain ⟨millis, x, y, hxy, hx, hy⟩ := h
  exact ⟨millis, y, x, hxy.symm, hy, hx⟩

theorem separated_char_placeholder {c : TimeUnit} (x : Char) {p : Placeholder}
    (hp : p.unit.granularity ≤ c.granularity) : Separated c (.char x) (.placeholder p) := by
  by_cases hx : x = '0'
  · have hu := p.unit.seconds_le_day
    obtain ⟨millis, hm⟩ := exists_wholeSeconds (s := 10 * p.unit.seconds) (by omega)
    refine ⟨millis, x, '1', by simp [hx], rfl, ?_⟩
    rw [hm, spelled, TimeUnit.share_mul hp (by omega), p.head?_spelled_ten]
  · obtain ⟨millis, hm⟩ := exists_wholeSeconds (s := 0) (by omega)
    refine ⟨millis, x, '0', hx, rfl, ?_⟩
    rw [hm, spelled, TimeUnit.share_zero, p.head?_spelled_zero]

theorem separated_widths {c u : TimeUnit} (hu : u.granularity ≤ c.granularity) :
    Separated c (.placeholder ⟨u, .single⟩) (.placeholder ⟨u, .double⟩) := by
  have hs := u.seconds_le_day
  obtain ⟨millis, hm⟩ := exists_wholeSeconds (s := 1 * u.seconds) (by omega)
  refine ⟨millis, '1', '0', by decide, ?_, ?_⟩
  · rw [hm, spelled, TimeUnit.share_mul hu (by omega), Placeholder.toList_spelled]
    rfl
  · rw [hm, spelled, TimeUnit.share_mul hu (by omega), Placeholder.toList_spelled]
    rfl

theorem separated_units {c : TimeUnit} {p q : Placeholder}
    (hp : p.unit.granularity ≤ c.granularity) (hq : q.unit.granularity ≤ c.granularity)
    (hpq : p.unit ≠ q.unit) : Separated c (.placeholder p) (.placeholder q) := by
  have hps := p.unit.seconds_le_day
  have hqs := q.unit.seconds_le_day
  obtain ⟨millis, hm⟩ :=
    exists_wholeSeconds (s := 10 * p.unit.seconds + 20 * q.unit.seconds) (by omega)
  refine ⟨millis, '1', '2', by decide, ?_, ?_⟩
  · rw [hm, spelled, TimeUnit.share_mul_add hp hq hpq (by omega) (by omega),
      p.head?_spelled_ten]
  · rw [hm, Nat.add_comm, spelled,
      TimeUnit.share_mul_add hq hp hpq.symm (by omega) (by omega), q.head?_spelled_twenty]

theorem separated_placeholder {c : TimeUnit} {p q : Placeholder}
    (hp : p.unit.granularity ≤ c.granularity) (hq : q.unit.granularity ≤ c.granularity)
    (hpq : p ≠ q) : Separated c (.placeholder p) (.placeholder q) := by
  by_cases hu : p.unit = q.unit
  · obtain ⟨u, w⟩ := p
    obtain ⟨v, z⟩ := q
    obtain rfl : u = v := hu
    cases w with
    | single =>
      cases z with
      | single => exact absurd rfl hpq
      | double => exact separated_widths hp
    | double =>
      cases z with
      | single => exact (separated_widths hp).symm
      | double => exact absurd rfl hpq
  · exact separated_units hp hq hu

theorem separated_of_ne {c : TimeUnit} {a b : Atom} (ha : a.Within c) (hb : b.Within c)
    (hab : a ≠ b) : Separated c a b := by
  cases a with
  | char x =>
    cases b with
    | char y => exact ⟨0, x, y, fun h => hab (by rw [h]), rfl, rfl⟩
    | placeholder q => exact separated_char_placeholder x (hb q rfl)
  | placeholder p =>
    cases b with
    | char y => exact (separated_char_placeholder y (ha p rfl)).symm
    | placeholder q =>
      exact separated_placeholder (ha p rfl) (hb q rfl) fun h => hab (by rw [h])

theorem exists_flatMap_spelled_ne {c : TimeUnit} {as bs : List Atom}
    (ha : ∀ a ∈ as, a.Within c) (hb : ∀ b ∈ bs, b.Within c) (hne : as ≠ bs) :
    ∃ millis : Int64, as.flatMap (spelled c (wholeSeconds millis)) ≠
      bs.flatMap (spelled c (wholeSeconds millis)) := by
  induction as generalizing bs with
  | nil =>
    cases bs with
    | nil => exact absurd rfl hne
    | cons b bs => exact ⟨0, fun h => by simp [spelled_ne_nil] at h⟩
  | cons a as ih =>
    cases bs with
    | nil => exact ⟨0, fun h => by simp [spelled_ne_nil] at h⟩
    | cons b bs =>
      obtain ⟨haa, has⟩ := List.forall_mem_cons.mp ha
      obtain ⟨hbb, hbs⟩ := List.forall_mem_cons.mp hb
      by_cases hab : a = b
      · subst b
        obtain ⟨millis, hm⟩ := ih has hbs fun h => hne (by rw [h])
        refine ⟨millis, fun h => hm ?_⟩
        rw [List.flatMap_cons, List.flatMap_cons] at h
        exact List.append_cancel_left h
      · -- the first difference is the first character of what is left
        obtain ⟨millis, x, y, hxy, hx, hy⟩ := separated_of_ne haa hbb hab
        refine ⟨millis, fun h => hxy ?_⟩
        have hh := congrArg List.head? h
        simpa [List.head?_append, hx, hy] using hh

theorem count_five_flatMap_lt {k : TimeUnit} {as : List Atom}
    (hex : ∃ p, .placeholder p ∈ as ∧ p.unit = k) :
    (as.flatMap (spelled k 0)).count '5' < (as.flatMap (spelled k (5 * k.seconds))).count '5' := by
  rw [List.count_flatMap, List.count_flatMap]
  apply List.sum_lt_sum
  · intro a _
    cases a with
    | char x => exact Nat.le_refl _
    | placeholder p =>
      have hz : ((Atom.placeholder p).spelled k 0).count '5' = 0 := by
        rw [spelled, TimeUnit.share_zero, p.count_five_zero]
      simp only [Function.comp_apply, hz]
      exact Nat.zero_le _
  · obtain ⟨p, hp, hk⟩ := hex
    refine ⟨.placeholder p, hp, ?_⟩
    have hs : k.share p.unit (5 * k.seconds) = 5 := by
      subst k
      exact TimeUnit.share_mul (Nat.le_refl _) (by omega)
    simp only [Function.comp_apply, spelled, hs, TimeUnit.share_zero, p.count_five_zero,
      p.count_five_five]
    omega

theorem count_five_flatMap_eq {c k : TimeUnit} {as : List Atom}
    (h : ∀ p, .placeholder p ∈ as →
      p.unit.granularity ≤ c.granularity ∧ c.granularity < k.granularity) :
    (as.flatMap (spelled c (5 * k.seconds))).count '5' = (as.flatMap (spelled c 0)).count '5' := by
  rw [List.count_flatMap, List.count_flatMap]
  congr 1
  apply List.map_congr_left
  intro a ha
  cases a with
  | char x => rfl
  | placeholder p =>
    obtain ⟨hp, hck⟩ := h p ha
    simp only [Function.comp_apply, spelled, TimeUnit.share_zero, p.count_five_zero,
      Placeholder.count_five_share hck hp]

end Atom

namespace Template

section Equal
variable {t u : Template} (ht : t.WellFormed) (hu : u.WellFormed)
variable (h : ∀ millis, t.render millis = u.render millis)
include ht hu h

theorem exists_coarsest?_of_render_eq {k : TimeUnit} (hk : u.coarsest? = some k) :
    ∃ c, t.coarsest? = some c ∧ k.granularity ≤ c.granularity := by
  by_contra hno
  obtain ⟨c, hc⟩ := t.exists_countsIn
  have hku : u.CountsIn k := fun d hd => Option.some.inj (hd.symm.trans hk)
  have hfine : ∀ p, .placeholder p ∈ t.atoms →
      p.unit.granularity ≤ c.granularity ∧ c.granularity < k.granularity := by
    intro p hp
    obtain ⟨d, hd, hpd⟩ := exists_coarsest?_of_mem (mem_atoms_placeholder.mp hp)
    obtain rfl := hc d hd
    exact ⟨hpd, Nat.lt_of_not_le fun hkd => hno ⟨_, hd, hkd⟩⟩
  have heq : ∀ s ≤ 9223372036854775,
      t.atoms.flatMap (Atom.spelled c s) = u.atoms.flatMap (Atom.spelled k s) := by
    intro s hs
    obtain ⟨millis, rfl⟩ := exists_wholeSeconds hs
    rw [← hc.toList_render ht, h, hku.toList_render hu]
  -- five units `k` put the digit `5` into `u` once more than no time, but not into `t`
  have hks := k.seconds_le_day
  have hex : ∃ p, .placeholder p ∈ u.atoms ∧ p.unit = k := by
    obtain ⟨p, hp, hpk⟩ := (coarsest?_eq_some hk).1
    exact ⟨p, mem_atoms_placeholder.mpr hp, hpk⟩
  have hlt := Atom.count_five_flatMap_lt hex
  rw [← heq 0 (by omega), ← heq (5 * k.seconds) (by omega),
    Atom.count_five_flatMap_eq hfine] at hlt
  exact Nat.lt_irrefl _ hlt

theorem coarsest?_eq_of_render_eq : t.coarsest? = u.coarsest? := by
  have hs : ∀ millis, u.render millis = t.render millis := fun millis => (h millis).symm
  cases hk : u.coarsest? with
  | none =>
    cases hd : t.coarsest? with
    | none => rfl
    | some d =>
      obtain ⟨e, he, -⟩ := exists_coarsest?_of_render_eq hu ht hs hd
      rw [hk] at he
      cases he
  | some k =>
    obtain ⟨c, hc, hkc⟩ := exists_coarsest?_of_render_eq ht hu h hk
    obtain ⟨e, he, hce⟩ := exists_coarsest?_of_render_eq hu ht hs hc
    obtain rfl : k = e := Option.some.inj (hk.symm.trans he)
    rw [hc, TimeUnit.eq_of_granularity_le hce hkc]

theorem eq_of_render_eq : t = u := by
  have hcu := coarsest?_eq_of_render_eq ht hu h
  obtain ⟨c, hc⟩ := u.exists_countsIn
  have hct : t.CountsIn c := fun d hd => hc d (hcu ▸ hd)
  apply ht.ext_atoms hu
  by_contra hne
  obtain ⟨millis, hm⟩ :=
    Atom.exists_flatMap_spelled_ne (fun _ => hct.within) (fun _ => hc.within) hne
  apply hm
  rw [← hct.toList_render ht, h, hc.toList_render hu]

end Equal

end Template

theorem ofString_eq_iff_format_eq (a b : String) :
    Template.ofString a = Template.ofString b ↔
      ∀ millis : Int64, format millis a = format millis b := by
  constructor
  · intro h millis
    rw [format, h, format]
  · intro h
    exact Template.eq_of_render_eq (Template.wellFormed_ofString a)
      (Template.wellFormed_ofString b) h

end DurationFormat
