import DurationFormat.Proofs.Spelling

/-!
# Granularity of a template

A compiled template has the least granularity that its placeholders can do with. At it each
placeholder shows a count; at any smaller one a placeholder of the coarsest unit shows nothing. So
nothing is left out when a template is rendered, and no time is moved up further than need be.
-/

namespace DurationFormat

namespace Segment

theorem normal_iff {segments : List Segment} :
    Normal segments ↔ (∀ text, .literal text ∈ segments → text ≠ "") ∧
      segments.IsChain fun s t => ¬ (s.isLiteral = true ∧ t.isLiteral = true) := by
  induction segments with
  | nil => simp [Normal]
  | cons s rest ih =>
    rw [List.isChain_cons]
    cases s with
    | placeholder p => simp [Normal, ih, isLiteral]
    | literal text =>
      simp only [Normal, ih, List.mem_cons, isLiteral, true_and, Bool.not_eq_true, literal.injEq]
      constructor
      · rintro ⟨ht, hh, hr, hc⟩
        refine ⟨?_, hh, hc⟩
        rintro other (rfl | ho)
        · exact ht
        · exact hr other ho
      · rintro ⟨ht, hh, hc⟩
        exact ⟨ht text (.inl rfl), hh, fun other ho => ht other (.inr ho), hc⟩

end Segment

namespace Placeholder

theorem shown?_ofMillis_eq_none {g : Granularity} {p : Placeholder} (h : g < p.unit.granularity)
    (millis : Int64) (withStrings : Bool) : p.shown? (.ofMillis millis g withStrings) = none := by
  have hn : ¬ p.unit.granularity ≤ g := Nat.not_le_of_lt h
  have hp : (Breakdown.ofMillis millis g withStrings).part? p.unit = none := by
    rw [Breakdown.part?_ofMillis, if_neg hn]
  unfold shown?
  split <;> simp [Breakdown.get?, Breakdown.padded?, hp]

theorem exists_shown?_ofMillis {g : Granularity} {p : Placeholder} (h : p.unit.granularity ≤ g)
    (millis : Int64) : ∃ text, p.shown? (.ofMillis millis g true) = some text ∧
      text ≠ "" ∧ ∀ x ∈ text.toList, x.isDigit = true :=
  ⟨_, shown?_ofMillis h millis true, p.spelled_ne_empty _, fun _ => isDigit_of_mem_spelled⟩

end Placeholder

namespace Granularity

theorem max_eq_right {g k : Granularity} (h : g ≤ k) : max g k = k := if_pos h

theorem max_eq_left {g k : Granularity} (h : k ≤ g) : max g k = g := by
  revert h
  cases g <;> cases k <;> decide

theorem max?_append (gs ks : List Granularity) :
    (gs ++ ks).max? = max gs.max? ks.max? := by
  cases gs with
  | nil => exact Option.max_none_left.symm
  | cons g gs =>
    cases ks with
    | nil => rw [List.append_nil, List.max?_nil, Option.max_none_right]
    | cons k ks =>
      rw [List.cons_append, List.max?_cons', List.max?_cons', List.max?_cons', List.foldl_append,
        List.foldl_cons, List.foldl_assoc, Option.max_some_some]

end Granularity

def Atom.placeholder? : Atom → Option Placeholder
  | .char _ => none
  | .placeholder p => some p

namespace Template

section WellFormed
variable {t : Template} (h : t.WellFormed)
include h

theorem WellFormed.granularity_eq_max? :
    t.granularity = (t.placeholders.map fun p => p.unit.granularity).max? :=
  h.granularity_eq

theorem WellFormed.granularity_eq_none_iff : t.granularity = none ↔ t.placeholders = [] := by
  rw [h.granularity_eq_max?, List.max?_eq_none_iff, List.map_eq_nil_iff]

theorem WellFormed.granularity_eq_some_iff {g : Granularity} :
    t.granularity = some g ↔ (∃ p ∈ t.placeholders, p.unit.granularity = g) ∧
      ∀ p ∈ t.placeholders, p.unit.granularity ≤ g := by
  rw [h.granularity_eq_max?, List.max?_eq_some_iff, List.mem_map, List.forall_mem_map]

theorem WellFormed.countsIn_iff {c : TimeUnit} :
    t.CountsIn c ↔ ∀ g, t.granularity = some g → g = c.granularity := by
  rw [h.granularity_eq_coarsest?]
  constructor
  · intro hc g hg
    obtain ⟨d, hd, rfl⟩ := Option.map_eq_some_iff.mp hg
    rw [hc d hd]
  · intro hg d hd
    have hdc : d.granularity = c.granularity := hg _ (by rw [hd, Option.map_some])
    rw [← Granularity.coarsest_granularity d, hdc, Granularity.coarsest_granularity]

theorem WellFormed.countsIn_coarsest {g : Granularity} (hg : t.granularity = some g) :
    t.CountsIn g.coarsest := by
  rw [h.countsIn_iff, hg, Granularity.granularity_coarsest]
  exact fun _ hg' => (Option.some.inj hg').symm

end WellFormed

theorem placeholders_eq_filterMap_atoms (t : Template) :
    t.placeholders = t.atoms.filterMap Atom.placeholder? := by
  rw [placeholders, atoms, List.filterMap_flatMap, List.filterMap_eq_flatMap_toList]
  congr 1
  funext s
  cases s with
  | literal text => simp [Segment.placeholder?, Segment.atoms, Atom.placeholder?]
  | placeholder p => rfl

theorem WellFormed.granularity_of_placeholders_append {t a b : Template} (ht : t.WellFormed)
    (ha : a.WellFormed) (hb : b.WellFormed) (h : t.placeholders = a.placeholders ++ b.placeholders) :
    t.granularity = max a.granularity b.granularity := by
  rw [ht.granularity_eq_max?, ha.granularity_eq_max?, hb.granularity_eq_max?,
    ← Granularity.max?_append, ← List.map_append, h]

theorem placeholders_of_atoms_append {t a b : Template} {cs : List Char}
    (h : t.atoms = a.atoms ++ (cs.map .char ++ b.atoms)) :
    t.placeholders = a.placeholders ++ b.placeholders := by
  have hcs : (cs.map Atom.char).filterMap Atom.placeholder? = [] := by
    simp [List.filterMap_map, Function.comp_def, Atom.placeholder?]
  simp only [placeholders_eq_filterMap_atoms, h, List.filterMap_append, hcs, List.nil_append]

theorem WellFormed.granularity_of_atoms_append {t a b : Template} (ht : t.WellFormed)
    (ha : a.WellFormed) (hb : b.WellFormed) (h : t.atoms = a.atoms ++ b.atoms) :
    t.granularity = max a.granularity b.granularity := by
  have hnone : t.atoms = a.atoms ++ (([] : List Char).map .char ++ b.atoms) := h
  exact ht.granularity_of_placeholders_append ha hb (placeholders_of_atoms_append hnone)

/-- No literal of a compiled template is empty or follows another literal, and its granularity is
the greatest that a placeholder needs. At that granularity every placeholder shows digits, and at
a smaller one some placeholder shows nothing. -/
theorem ofString_least_granularity (format : String) :
    ((∀ text, .literal text ∈ (ofString format).segments → text ≠ "") ∧
      (ofString format).segments.IsChain
        fun s t => ¬ (s.isLiteral = true ∧ t.isLiteral = true)) ∧
    ((ofString format).granularity = none ↔ (ofString format).placeholders = []) ∧
    ∀ g, (ofString format).granularity = some g →
      ((∃ p ∈ (ofString format).placeholders, p.unit.granularity = g) ∧
        ∀ p ∈ (ofString format).placeholders, p.unit.granularity ≤ g) ∧
      (∀ millis, (ofString format).render millis =
          String.join ((ofString format).segments.map
            (Segment.render (.ofMillis millis g true))) ∧
        ∀ p ∈ (ofString format).placeholders,
          ∃ text, p.shown? (.ofMillis millis g true) = some text ∧
            text ≠ "" ∧ ∀ x ∈ text.toList, x.isDigit = true) ∧
      ∀ k < g, ∀ millis, ∃ p ∈ (ofString format).placeholders,
        p.shown? (.ofMillis millis k true) = none := by
  have hf := wellFormed_ofString format
  refine ⟨Segment.normal_iff.mp hf.normal, hf.granularity_eq_none_iff, fun g hg => ?_⟩
  obtain ⟨⟨p, hp, hpg⟩, hmax⟩ := hf.granularity_eq_some_iff.mp hg
  refine ⟨⟨⟨p, hp, hpg⟩, hmax⟩, fun millis => ⟨?_, fun q hq => ?_⟩, fun k hk millis => ?_⟩
  · rw [render, hg]
  · exact Placeholder.exists_shown?_ofMillis (hmax q hq) millis
  · exact ⟨p, hp, Placeholder.shown?_ofMillis_eq_none (hpg ▸ hk) millis true⟩

/-- The coarser placeholder comes last and sets the granularity. -/
theorem ofString_least_granularity_hours :
    (ofString "mm[m]h").granularity = some .hours ∧ Granularity.minutes < .hours ∧
      (∃ text, (Placeholder.mk .minute .double).shown? (.ofMillis 3725000 .hours true) =
        some text ∧ text ≠ "" ∧ ∀ x ∈ text.toList, x.isDigit = true) ∧
      ∃ p ∈ (ofString "mm[m]h").placeholders,
        p.shown? (.ofMillis 3725000 .minutes true) = none := by
  have hg : (ofString "mm[m]h").granularity = some .hours := by decide +kernel
  have hp : ⟨.minute, .double⟩ ∈ (ofString "mm[m]h").placeholders := by decide +kernel
  have hlt : Granularity.minutes < .hours := by decide
  obtain ⟨-, hshown, hnone⟩ := (ofString_least_granularity "mm[m]h").2.2 .hours hg
  exact ⟨hg, hlt, (hshown 3725000).2 _ hp, hnone .minutes hlt 3725000⟩

end Template

end DurationFormat
