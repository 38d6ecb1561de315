import DurationFormat.Proofs.Remainders
import DurationFormat.Proofs.Granularity
import DurationFormat.Proofs.Words

/-!
# Reading counts back from a text

When two readings of a template agree, so do the counts of each placeholder, provided that the
digits of a placeholder can be told from what follows them. Either something else than a digit
follows, or only the coarsest unit is of unknown length. In the second case a greater count of
that unit makes no piece of the text shorter, so equal texts have pieces of equal length.
-/

namespace DurationFormat

section Lists
variable {α β : Type}

/-- Texts that agree as a whole agree piece by piece if the pieces do so in length. -/
theorem flatMap_inj_of_length {f g : α → List β} {as : List α}
    (hl : ∀ a ∈ as, (f a).length = (g a).length) (h : as.flatMap f = as.flatMap g) :
    ∀ a ∈ as, f a = g a := by
  induction as with
  | nil => simp
  | cons a as ih =>
    obtain ⟨ha, has⟩ := List.forall_mem_cons.mp hl
    rw [List.flatMap_cons, List.flatMap_cons] at h
    obtain ⟨hhead, htail⟩ := List.append_inj h ha
    exact List.forall_mem_cons.mpr ⟨hhead, ih has htail⟩

theorem length_flatMap_le {f g : α → List β} {as : List α}
    (hl : ∀ a ∈ as, (f a).length ≤ (g a).length) :
    (as.flatMap f).length ≤ (as.flatMap g).length := by
  rw [List.length_flatMap, List.length_flatMap]
  exact List.sum_le_sum hl

/-- Where no piece is longer than its counterpart, one that is shorter shows in the whole. -/
theorem length_eq_of_length_flatMap_eq {f g : α → List β} {as : List α}
    (hl : ∀ a ∈ as, (f a).length ≤ (g a).length)
    (h : (as.flatMap f).length = (as.flatMap g).length) :
    ∀ a ∈ as, (f a).length = (g a).length := by
  intro a ha
  by_contra hne
  have hlt : (as.flatMap f).length < (as.flatMap g).length := by
    rw [List.length_flatMap, List.length_flatMap]
    exact List.sum_lt_sum _ _ hl ⟨a, ha, Nat.lt_of_le_of_ne (hl a ha) hne⟩
  exact Nat.ne_of_lt hlt h

theorem flatMap_inj_of_length_le {f g : α → List β} {as : List α}
    (hl : ∀ a ∈ as, (f a).length ≤ (g a).length) (h : as.flatMap f = as.flatMap g) :
    ∀ a ∈ as, f a = g a :=
  flatMap_inj_of_length (length_eq_of_length_flatMap_eq hl (congrArg List.length h)) h

end Lists

namespace Segment

/-- What may stand behind a placeholder whose digits are to be found again. -/
def EndsDigits (s : Segment) : Prop :=
  ∃ text x, s = .literal text ∧ text.toList.head? = some x ∧ x.isDigit = false

section Readings
variable {c : TimeUnit} {s s' : Nat} {segments : List Segment}

theorem isDigit_head?_eq_false {rest : List Segment} (h : ∀ t ∈ rest.head?, t.EndsDigits)
    (s : Nat) : ∀ x ∈ (rest.flatMap fun t => (t.spelled c s).toList).head?, x.isDigit = false := by
  cases rest with
  | nil => simp
  | cons t rest =>
    obtain ⟨text, x, rfl, hx, hd⟩ := h t rfl
    simpa [spelled, List.head?_append, hx] using hd

theorem spelled_eq_of_endsDigits
    (hd : segments.IsChain fun t next => t.isLiteral = false → next.EndsDigits)
    (h : (segments.flatMap fun t => (t.spelled c s).toList) =
      segments.flatMap fun t => (t.spelled c s').toList) :
    ∀ t ∈ segments, t.spelled c s = t.spelled c s' := by
  induction segments with
  | nil => simp
  | cons t rest ih =>
    obtain ⟨hnext, hrest⟩ := List.isChain_cons.mp hd
    rw [List.flatMap_cons, List.flatMap_cons] at h
    cases t with
    | literal text =>
      have htail := List.append_cancel_left h
      exact List.forall_mem_cons.mpr ⟨rfl, ih hrest htail⟩
    | placeholder p =>
      -- the digits are the longest run of digits at the head
      have hends : ∀ next ∈ rest.head?, next.EndsDigits := fun next hn => hnext next hn rfl
      obtain ⟨hhead, htail⟩ := append_inj_of_takeWhile
        (fun _ => Placeholder.isDigit_of_mem_spelled) (fun _ => Placeholder.isDigit_of_mem_spelled)
        (isDigit_head?_eq_false hends s) (isDigit_head?_eq_false hends s') h
      exact List.forall_mem_cons.mpr ⟨String.toList_inj.mp hhead, ih hrest htail⟩

section Double
variable (hu : ∀ p, .placeholder p ∈ segments → p.unit.granularity ≤ c.granularity)
variable (hw : ∀ p, .placeholder p ∈ segments → p.unit ≠ c → p.width = .double)
include hu hw

theorem length_spelled_le (hs : s / c.seconds ≤ s' / c.seconds) :
    ∀ t ∈ segments, (t.spelled c s).toList.length ≤ (t.spelled c s').toList.length := by
  intro t ht
  cases t with
  | literal text => exact Nat.le_refl _
  | placeholder p =>
    rw [spelled, spelled]
    by_cases hp : p.unit = c
    · rw [hp, TimeUnit.share_self, TimeUnit.share_self]
      exact p.length_spelled_mono hs
    · -- below the coarsest unit a count has one or two digits and is padded to two
      have hlt : p.unit.granularity < c.granularity :=
        Nat.lt_of_not_le fun hcp => hp (TimeUnit.eq_of_granularity_le (hu p ht) hcp)
      have hsmall (s : Nat) : c.share p.unit s < 100 :=
        Nat.lt_trans (TimeUnit.share_lt hlt s) (by decide)
      rw [p.length_spelled_double (hw p ht hp) (hsmall s),
        p.length_spelled_double (hw p ht hp) (hsmall s')]

theorem spelled_eq_of_double (h : (segments.flatMap fun t => (t.spelled c s).toList) =
      segments.flatMap fun t => (t.spelled c s').toList) :
    ∀ t ∈ segments, t.spelled c s = t.spelled c s' := by
  intro t ht
  apply String.toList_inj.mp
  rcases Nat.le_total (s / c.seconds) (s' / c.seconds) with hs | hs
  · exact flatMap_inj_of_length_le (length_spelled_le hu hw hs) h t ht
  · exact (flatMap_inj_of_length_le (length_spelled_le hu hw hs) h.symm t ht).symm

end Double

end Readings

end Segment

namespace Template

/-- The placeholders count all units from `c` down to `u` and no others. -/
def Spans (t : Template) (c u : TimeUnit) : Prop :=
  ∀ v : TimeUnit, (∃ p ∈ t.placeholders, p.unit = v) ↔
    u.seconds ≤ v.seconds ∧ v.seconds ≤ c.seconds

/-- The digits of each placeholder can be told from what stands around them: no digit follows, or
all but those of the unit `c` are two. -/
def Legible (t : Template) (c : TimeUnit) : Prop :=
  (t.segments.IsChain fun s next => s.isLiteral = false → next.EndsDigits) ∨
    ∀ p ∈ t.placeholders, p.unit ≠ c → p.width = .double

theorem Spans.countsIn {t : Template} {c u : TimeUnit} (h : t.Spans c u)
    (huc : u.seconds ≤ c.seconds) : t.CountsIn c := by
  have hmem : ∃ p ∈ t.placeholders, p.unit = c := (h c).mpr ⟨huc, Nat.le_refl _⟩
  have hc : t.coarsest? = some c :=
    coarsest?_eq_some_iff.mpr ⟨hmem, fun p hp => ((h p.unit).mp ⟨p, hp, rfl⟩).2⟩
  exact fun d hd => Option.some.inj (hd.symm.trans hc)

theorem Spans.seconds_le {t : Template} {c u : TimeUnit} (h : t.Spans c u)
    (hne : t.placeholders ≠ []) : u.seconds ≤ c.seconds := by
  obtain ⟨p, hp⟩ := List.exists_mem_of_ne_nil _ hne
  obtain ⟨hup, hpc⟩ := (h p.unit).mp ⟨p, hp, rfl⟩
  exact Nat.le_trans hup hpc

/-- The pieces of a text tell how many whole units of the finest there are, no less and no more. -/
theorem Spans.spelled_eq_iff {t : Template} {c u : TimeUnit} (h : t.Spans c u)
    (huc : u.seconds ≤ c.seconds) {m n : Nat} :
    (∀ s ∈ t.segments, s.spelled c m = s.spelled c n) ↔ m / u.seconds = n / u.seconds := by
  rw [TimeUnit.div_eq_iff_share_eq (TimeUnit.granularity_le_iff.mpr huc)]
  constructor
  · intro hpieces v huv hvc
    obtain ⟨p, hp, rfl⟩ := (h v).mpr
      ⟨TimeUnit.granularity_le_iff.mp huv, TimeUnit.granularity_le_iff.mp hvc⟩
    exact p.spelled_inj.mp (hpieces _ (mem_placeholders.mp hp))
  · intro hshares s hs
    cases s with
    | literal text => rfl
    | placeholder p =>
      obtain ⟨hup, hpc⟩ := (h p.unit).mp ⟨p, mem_placeholders.mpr hs, rfl⟩
      have hcount := hshares p.unit (TimeUnit.granularity_le_iff.mpr hup)
        (TimeUnit.granularity_le_iff.mpr hpc)
      exact p.spelled_inj.mpr hcount

/-- A legible text gives back its pieces. -/
theorem CountsIn.render_eq_iff {t : Template} {c : TimeUnit} (h : t.CountsIn c)
    (ht : t.WellFormed) (hl : t.Legible c) {m n : Int64} :
    t.render m = t.render n ↔
      ∀ s ∈ t.segments, s.spelled c (wholeSeconds m) = s.spelled c (wholeSeconds n) := by
  rw [← String.toList_inj, h.toList_render_segments ht, h.toList_render_segments ht]
  constructor
  · intro hlist
    rcases hl with hends | hdouble
    · exact Segment.spelled_eq_of_endsDigits hends hlist
    · apply Segment.spelled_eq_of_double _ _ hlist
      · exact fun p hp => h.within (mem_atoms_placeholder.mpr (mem_placeholders.mpr hp)) p rfl
      · exact fun p hp => hdouble p (mem_placeholders.mpr hp)
  · intro hpieces
    exact List.flatMap_congr fun s hs => by rw [hpieces s hs]

theorem Spans.render_eq_iff {t : Template} {c u : TimeUnit} (h : t.Spans c u)
    (ht : t.WellFormed) (hne : t.placeholders ≠ []) (hl : t.Legible c) (m n : Int64) :
    t.render m = t.render n ↔ wholeSeconds m / u.seconds = wholeSeconds n / u.seconds := by
  have huc := h.seconds_le hne
  rw [(h.countsIn huc).render_eq_iff ht hl, h.spelled_eq_iff huc]

theorem format_defaultFormat_eq_iff (m n : Int64) :
    DurationFormat.format m defaultFormat = DurationFormat.format n defaultFormat ↔
      wholeSeconds m = wholeSeconds n := by
  have hp : (ofString defaultFormat).placeholders =
      [⟨.hour, .double⟩, ⟨.minute, .double⟩, ⟨.second, .double⟩] := by decide +kernel
  have hs : (ofString defaultFormat).Spans .hour .second := by
    intro v
    rw [hp]
    cases v <;> decide
  have hl : (ofString defaultFormat).Legible .hour := .inr (by rw [hp]; decide)
  have h := hs.render_eq_iff (wellFormed_ofString defaultFormat) (by simp [hp]) hl m n
  rwa [TimeUnit.seconds, Nat.div_one, Nat.div_one] at h

/-- Where no unit between the coarsest and the finest is left out and the digits can be told apart,
two durations read the same if and only if they hold equally many whole units of the finest. Hours,
minutes and seconds in two digits tell every whole second apart. -/
theorem ofString_render_eq_iff :
    (∀ (format : String) (c u : TimeUnit), (ofString format).placeholders ≠ [] →
      (ofString format).Spans c u → (ofString format).Legible c → ∀ m n : Int64,
        ((ofString format).render m = (ofString format).render n ↔
          (m.toInt.tdiv 1000).toNat / u.seconds = (n.toInt.tdiv 1000).toNat / u.seconds)) ∧
    ∀ m n : Int64, DurationFormat.format m "hh:mm:ss" = DurationFormat.format n "hh:mm:ss" ↔
      (m.toInt.tdiv 1000).toNat = (n.toInt.tdiv 1000).toNat := by
  refine ⟨?_, format_defaultFormat_eq_iff⟩
  intro format c u hne hs hl m n
  exact hs.render_eq_iff (wellFormed_ofString format) hne hl m n

/-- The hours are one digit or more and touch the minutes; seconds do not show. The last second of
a minute reads as its others do, and the next one does not. -/
theorem ofString_render_eq_iff_minutes :
    (ofString "h[h]hmm").placeholders ≠ [] ∧ (ofString "h[h]hmm").Spans .hour .minute ∧
      (ofString "h[h]hmm").Legible .hour ∧
      ((3725000 : Int64).toInt.tdiv 1000).toNat / TimeUnit.minute.seconds = 62 ∧
      ((3779999 : Int64).toInt.tdiv 1000).toNat / TimeUnit.minute.seconds = 62 ∧
      ((3780000 : Int64).toInt.tdiv 1000).toNat / TimeUnit.minute.seconds = 63 ∧
      (ofString "h[h]hmm").render 3725000 = "1h102" ∧
      (ofString "h[h]hmm").render 3725000 = (ofString "h[h]hmm").render 3779999 ∧
      (ofString "h[h]hmm").render 3725000 ≠ (ofString "h[h]hmm").render 3780000 := by
  have hp : (ofString "h[h]hmm").placeholders =
      [⟨.hour, .single⟩, ⟨.hour, .single⟩, ⟨.minute, .double⟩] := by decide +kernel
  have hne : (ofString "h[h]hmm").placeholders ≠ [] := by simp [hp]
  have hs : (ofString "h[h]hmm").Spans .hour .minute := by
    intro v
    rw [hp]
    cases v <;> decide
  have hl : (ofString "h[h]hmm").Legible .hour := .inr (by rw [hp]; decide)
  have hearly : ((3725000 : Int64).toInt.tdiv 1000).toNat / TimeUnit.minute.seconds = 62 := by
    decide +kernel
  have hlate : ((3779999 : Int64).toInt.tdiv 1000).toNat / TimeUnit.minute.seconds = 62 := by
    decide +kernel
  have hnext : ((3780000 : Int64).toInt.tdiv 1000).toNat / TimeUnit.minute.seconds = 63 := by
    decide +kernel
  have hread : (ofString "h[h]hmm").render 3725000 = "1h102" := by decide +kernel
  have hiff := ofString_render_eq_iff.1 "h[h]hmm" .hour .minute hne hs hl 3725000
  refine ⟨hne, hs, hl, hearly, hlate, hnext, hread, ?_, ?_⟩
  · rw [hiff, hearly, hlate]
  · rw [Ne, hiff, hearly, hnext]
    decide

end Template

end DurationFormat
