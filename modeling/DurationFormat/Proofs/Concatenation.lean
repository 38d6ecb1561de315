import DurationFormat.Proofs.Granularity
import DurationFormat.Proofs.Seams
import DurationFormat.Proofs.Separation

/-!
# Rendering joined format strings

A template made of two stands for both texts at every duration exactly if a placeholder of one
does not change what the other counts in. If one of the two has to count in a coarser unit `k`
than it does alone, five of `k` tell: what was a number of three digits or more is zero.
-/

namespace DurationFormat

namespace TimeUnit

theorem share_mul_of_coarser {c k u : TimeUnit} (hck : c.granularity < k.granularity)
    (hu : u.granularity ≤ c.granularity) {n : Nat} (hn : n < 24) :
    k.share u (n * k.seconds) = 0 := by
  have huk : u.granularity ≤ k.granularity := Nat.le_trans hu (Nat.le_of_lt hck)
  have hne : u ≠ k := fun h => absurd (h ▸ hu) (Nat.not_le_of_lt hck)
  simpa using share_mul_add huk (Nat.le_refl _) hne (by omega : 0 < 24) hn

end TimeUnit

namespace Atom

/-- Fewer digits are needed for five of `k` when they are counted in `k`. -/
theorem length_flatMap_spelled_lt {c k : TimeUnit} {as : List Atom}
    (hck : c.granularity < k.granularity) (hall : ∀ a ∈ as, a.Within c)
    (hex : ∃ p, .placeholder p ∈ as ∧ p.unit = c) :
    (as.flatMap (spelled k (5 * k.seconds))).length <
      (as.flatMap (spelled c (5 * k.seconds))).length := by
  rw [List.length_flatMap, List.length_flatMap]
  apply List.sum_lt_sum
  · intro a ha
    cases a with
    | char x => exact Nat.le_refl _
    | placeholder p =>
      rw [spelled, spelled, TimeUnit.share_mul_of_coarser hck (hall _ ha p rfl) (by omega)]
      exact p.length_spelled_mono (Nat.zero_le _)
  · obtain ⟨p, hp, hpc⟩ := hex
    have hu := hall _ hp p rfl
    have hr : ∀ r ∈ [24, 60, 1440, 3600, 86400], ¬ 5 * r < 100 := by decide
    have hlong := hr _ (TimeUnit.seconds_div_mem hck)
    refine ⟨.placeholder p, hp, ?_⟩
    rw [spelled, spelled, TimeUnit.share_mul_of_coarser hck hu (by omega),
      TimeUnit.share_mul_coarser hck hu, if_pos hpc]
    rw [← p.length_spelled_le_two_iff] at hlong
    have hshort := (p.length_spelled_le_two_iff 0).mpr (by decide)
    omega

end Atom

namespace Template

/-- Counting in a coarser unit shows. -/
theorem WellFormed.exists_render_ne {t : Template} (ht : t.WellFormed) {g k : Granularity}
    (hg : t.granularity = some g) (hgk : g < k) :
    ∃ millis : Int64, t.atoms.flatMap (Atom.spelled k.coarsest (wholeSeconds millis)) ≠
      (t.render millis).toList := by
  have hc := ht.countsIn_coarsest hg
  have hck : g.coarsest.granularity < k.coarsest.granularity := by simpa using hgk
  have hex : ∃ p, .placeholder p ∈ t.atoms ∧ p.unit = g.coarsest := by
    obtain ⟨⟨p, hp, hpg⟩, -⟩ := ht.granularity_eq_some_iff.mp hg
    exact ⟨p, mem_atoms_placeholder.mpr hp, by rw [← hpg, Granularity.coarsest_granularity]⟩
  have hks := k.coarsest.seconds_le_day
  obtain ⟨millis, hm⟩ := exists_wholeSeconds (s := 5 * k.coarsest.seconds) (by omega)
  refine ⟨millis, fun heq => ?_⟩
  have hlt := Atom.length_flatMap_spelled_lt hck (fun _ => hc.within) hex
  rw [← hm, heq, hc.toList_render ht] at hlt
  exact Nat.lt_irrefl _ hlt

section Joined
variable {t a b : Template} (ht : t.WellFormed) (ha : a.WellFormed) (hb : b.WellFormed)
variable (h : t.atoms = a.atoms ++ b.atoms)
include ht ha hb h

theorem render_eq_append (hg : a.granularity = none ∨ b.granularity = none ∨
      a.granularity = b.granularity) (millis : Int64) :
    t.render millis = a.render millis ++ b.render millis := by
  have hmax := ht.granularity_of_atoms_append ha hb h
  obtain ⟨c, hc⟩ := t.exists_countsIn
  have htc := ht.countsIn_iff.mp hc
  -- the unit that the joined template counts in serves for both parts
  have hac : a.CountsIn c := ha.countsIn_iff.mpr fun g hag => htc g <| by
    rcases hg with hn | hn | he
    · rw [hn] at hag
      cases hag
    · rw [hmax, hn, Option.max_none_right, hag]
    · rw [hmax, ← he, hag, Option.max_some_some, Std.max_self]
  have hbc : b.CountsIn c := hb.countsIn_iff.mpr fun g hbg => htc g <| by
    rcases hg with hn | hn | he
    · rw [hmax, hn, Option.max_none_left, hbg]
    · rw [hn] at hbg
      cases hbg
    · rw [hmax, he, hbg, Option.max_some_some, Std.max_self]
  apply String.toList_inj.mp
  rw [String.toList_append, hc.toList_render ht, hac.toList_render ha, hbc.toList_render hb, h,
    List.flatMap_append]

theorem exists_render_ne_append {g k : Granularity} (hg : a.granularity = some g)
    (hk : b.granularity = some k) (hgk : g ≠ k) :
    ∃ millis, t.render millis ≠ a.render millis ++ b.render millis := by
  have hmax : t.granularity = some (max g k) := by
    rw [ht.granularity_of_atoms_append ha hb h, hg, hk, Option.max_some_some]
  have hparts : g.partCount ≠ k.partCount := fun he => hgk (Granularity.partCount_inj.mp he)
  rcases Nat.lt_or_gt_of_ne hparts with hlt | hlt
  · have htk : t.granularity = some k := by rw [hmax, Granularity.max_eq_right (Nat.le_of_lt hlt)]
    obtain ⟨millis, hne⟩ := ha.exists_render_ne hg hlt
    refine ⟨millis, fun heq => hne ?_⟩
    have hlist := congrArg String.toList heq
    rw [String.toList_append, (ht.countsIn_coarsest htk).toList_render ht,
      (hb.countsIn_coarsest hk).toList_render hb, h, List.flatMap_append] at hlist
    exact List.append_cancel_right hlist
  · have htg : t.granularity = some g := by rw [hmax, Granularity.max_eq_left (Nat.le_of_lt hlt)]
    obtain ⟨millis, hne⟩ := hb.exists_render_ne hk hlt
    refine ⟨millis, fun heq => hne ?_⟩
    have hlist := congrArg String.toList heq
    rw [String.toList_append, (ht.countsIn_coarsest htg).toList_render ht,
      (ha.countsIn_coarsest hg).toList_render ha, h, List.flatMap_append] at hlist
    exact List.append_cancel_left hlist

theorem render_append_iff : (∀ millis, t.render millis = a.render millis ++ b.render millis) ↔
    a.placeholders = [] ∨ b.placeholders = [] ∨ a.granularity = b.granularity := by
  rw [← ha.granularity_eq_none_iff, ← hb.granularity_eq_none_iff]
  refine ⟨fun heq => ?_, render_eq_append ht ha hb h⟩
  cases hg : a.granularity with
  | none => exact .inl rfl
  | some g =>
    cases hk : b.granularity with
    | none => exact .inr (.inl rfl)
    | some k =>
      by_cases hgk : g = k
      · exact .inr (.inr (by rw [hgk]))
      · obtain ⟨millis, hne⟩ := exists_render_ne_append ht ha hb h hg hk hgk
        exact absurd (heq millis) hne

end Joined

end Template

/-- A format string can be closed without a change of its template. Another one behind it and an
empty region adds its atoms, and the coarser of the two granularities is that of both together; so
the two readings stand side by side exactly if neither changes what the other counts in. -/
theorem format_closed_append (p q : String) :
    Template.ofString (Template.closed p) = Template.ofString p ∧
    (Template.ofString (Template.closed p ++ "[]" ++ q)).atoms =
      (Template.ofString p).atoms ++ (Template.ofString q).atoms ∧
    (Template.ofString (Template.closed p ++ "[]" ++ q)).granularity =
      max (Template.ofString p).granularity (Template.ofString q).granularity ∧
    ((∀ millis : Int64, format millis (Template.closed p ++ "[]" ++ q) =
        format millis p ++ format millis q) ↔
      (Template.ofString p).placeholders = [] ∨ (Template.ofString q).placeholders = [] ∨
        (Template.ofString p).granularity = (Template.ofString q).granularity) := by
  have hp := Template.wellFormed_ofString p
  have hq := Template.wellFormed_ofString q
  have hpq := Template.wellFormed_ofString (Template.closed p ++ "[]" ++ q)
  have hatoms := Template.atoms_ofString_closed_append p q
  refine ⟨Template.ofString_closed p, hatoms, ?_, ?_⟩
  · exact hpq.granularity_of_atoms_append hp hq hatoms
  · exact Template.render_append_iff hpq hp hq hatoms

/-- Behind hours an hour and a half has 30 minutes, and alone it has 90. -/
example : format 5400000 (Template.closed "h[:" ++ "[]" ++ "m") = "1:30" ∧
    format 5400000 "m" = "90" := by
  decide +kernel

end DurationFormat
