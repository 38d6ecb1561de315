import DurationFormat.Proofs.ReadingBack

/-!
# Texts that sort by time

A template that counts each unit once, from the coarsest down and all in two digits or more, shows
times in an order that their texts have too. Only the coarsest count can need more than two digits,
so a longer text has more of that unit. Texts of one length differ first in some count, since
everything in front of it agrees, and digits of one length compare as the number they stand for.
-/

namespace DurationFormat

section Lists
variable {α : Type} [LT α]

theorem append_lt_append_iff [Std.Irrefl fun a b : α => a < b] {xs ys as bs : List α}
    (h : xs.length = ys.length) : xs ++ as < ys ++ bs ↔ xs < ys ∨ xs = ys ∧ as < bs := by
  induction xs generalizing ys with
  | nil =>
    obtain rfl := List.eq_nil_of_length_eq_zero h.symm
    simp
  | cons x xs ih =>
    cases ys with
    | nil => cases h
    | cons y ys =>
      have hl : xs.length = ys.length := Nat.succ.inj h
      rw [List.cons_append, List.cons_append, List.cons_lt_cons_iff, List.cons_lt_cons_iff, ih hl,
        List.cons.injEq]
      tauto

end Lists

namespace Numeral

variable {ds es : List Char}

/-- Digits do not make up for a smaller number in front of them. -/
theorem ofDigitChars_lt_of_lt (hd : ∀ c ∈ ds, c.isDigit = true) (he : ∀ c ∈ es, c.isDigit = true)
    (hl : ds.length = es.length) {a b : Nat} (hab : a < b) :
    Nat.ofDigitChars 10 ds a < Nat.ofDigitChars 10 es b := by
  induction ds generalizing es a b with
  | nil =>
    obtain rfl := List.eq_nil_of_length_eq_zero hl.symm
    exact hab
  | cons d ds ih =>
    cases es with
    | nil => cases hl
    | cons e es =>
      obtain ⟨hd, hds⟩ := List.forall_mem_cons.mp hd
      obtain ⟨-, hes⟩ := List.forall_mem_cons.mp he
      have hnine := (Text.isDigit_iff.mp hd).2
      have hzero : '0'.toNat = 48 := rfl
      rw [Nat.ofDigitChars_cons, Nat.ofDigitChars_cons]
      exact ih hds hes (Nat.succ.inj hl) (by omega)

/-- Digits of one length, read behind a number `a` or none, compare as what they stand for. -/
theorem lt_iff_ofDigitChars_lt (hd : ∀ c ∈ ds, c.isDigit = true)
    (he : ∀ c ∈ es, c.isDigit = true) (hl : ds.length = es.length) (a : Nat) :
    ds < es ↔ Nat.ofDigitChars 10 ds a < Nat.ofDigitChars 10 es a := by
  induction ds generalizing es a with
  | nil =>
    obtain rfl := List.eq_nil_of_length_eq_zero hl.symm
    simp
  | cons d ds ih =>
    cases es with
    | nil => cases hl
    | cons e es =>
      obtain ⟨hd, hds⟩ := List.forall_mem_cons.mp hd
      obtain ⟨he, hes⟩ := List.forall_mem_cons.mp he
      have hlen : ds.length = es.length := Nat.succ.inj hl
      have hdzero : 48 ≤ d.toNat := (Text.isDigit_iff.mp hd).1
      have hezero : 48 ≤ e.toNat := (Text.isDigit_iff.mp he).1
      have hzero : '0'.toNat = 48 := rfl
      have hlt : d < e ↔ d.toNat < e.toNat := Iff.rfl
      rw [List.cons_lt_cons_iff, hlt, Nat.ofDigitChars_cons, Nat.ofDigitChars_cons]
      rcases Nat.lt_trichotomy d.toNat e.toNat with h | h | h
      · exact iff_of_true (.inl h) (ofDigitChars_lt_of_lt hds hes hlen (by omega))
      · obtain rfl := Char.toNat_inj.mp h
        simpa using ih hds hes hlen _
      · have hgt := ofDigitChars_lt_of_lt hes hds hlen.symm
          (by omega : 10 * a + (e.toNat - '0'.toNat) < 10 * a + (d.toNat - '0'.toNat))
        refine iff_of_false ?_ (Nat.lt_asymm hgt)
        rintro (hde | ⟨rfl, -⟩)
        · exact Nat.lt_asymm h hde
        · exact Nat.lt_irrefl _ h

end Numeral

theorem Placeholder.spelled_lt_iff (p : Placeholder) {m n : Nat}
    (hl : (p.spelled m).toList.length = (p.spelled n).toList.length) :
    (p.spelled m).toList < (p.spelled n).toList ↔ m < n := by
  have hd := Numeral.lt_iff_ofDigitChars_lt (fun _ => isDigit_of_mem_spelled)
    (fun _ => isDigit_of_mem_spelled) hl 0
  rwa [p.ofDigitChars_spelled, p.ofDigitChars_spelled] at hd

/-- Texts whose pieces agree in length compare as the counts in them, the first one first. -/
theorem Segment.flatMap_spelled_lt_iff {c : TimeUnit} {s s' : Nat} {segments : List Segment}
    (hl : ∀ t ∈ segments, (t.spelled c s).toList.length = (t.spelled c s').toList.length) :
    (segments.flatMap fun t => (t.spelled c s).toList) <
        (segments.flatMap fun t => (t.spelled c s').toList) ↔
      ((segments.filterMap placeholder?).map fun p => c.share p.unit s) <
        (segments.filterMap placeholder?).map fun p => c.share p.unit s' := by
  induction segments with
  | nil => simp
  | cons t rest ih =>
    obtain ⟨ht, hrest⟩ := List.forall_mem_cons.mp hl
    rw [List.flatMap_cons, List.flatMap_cons, append_lt_append_iff ht, ih hrest]
    cases t with
    | literal text =>
      have ht : (Segment.literal text).placeholder? = none := rfl
      rw [List.filterMap_cons_none ht]
      simp [spelled]
    | placeholder p =>
      have hp : (Segment.placeholder p).placeholder? = some p := rfl
      rw [List.filterMap_cons_some hp, List.map_cons, List.map_cons, List.cons_lt_cons_iff,
        spelled, spelled, p.spelled_lt_iff ht, String.toList_inj, p.spelled_inj]

theorem lt_iff_div_mod (a b k : Nat) : a < b ↔ a / k < b / k ∨ a / k = b / k ∧ a % k < b % k := by
  have ha := Nat.div_add_mod a k
  have hb := Nat.div_add_mod b k
  constructor
  · intro h
    rcases Nat.lt_or_eq_of_le (Nat.div_le_div_right (c := k) (Nat.le_of_lt h)) with hq | hq
    · exact .inl hq
    · rw [hq] at ha
      exact .inr ⟨hq, by omega⟩
  · rintro (hq | ⟨hq, hr⟩)
    · exact Nat.lt_of_not_le fun h => Nat.not_lt_of_le (Nat.div_le_div_right h) hq
    · rw [hq] at ha
      omega

theorem eq_iff_div_mod (a b k : Nat) : a = b ↔ a / k = b / k ∧ a % k = b % k := by
  refine ⟨fun h => h ▸ ⟨rfl, rfl⟩, fun ⟨hq, hr⟩ => ?_⟩
  rw [← Nat.div_add_mod a k, hq, hr, Nat.div_add_mod]

namespace TimeUnit

/-- From one unit down to the next and so on, whole units compare as their counts do, the coarsest
first. -/
theorem shares_lt_iff {v u : TimeUnit} {us : List TimeUnit}
    (h : (v :: us).IsChain fun v w => w.coarser? = some v) (hu : (v :: us).getLast? = some u)
    (s s' : Nat) :
    (s / v.seconds :: us.map fun w => w.remainder s / w.seconds) <
        (s' / v.seconds :: us.map fun w => w.remainder s' / w.seconds) ↔
      s / u.seconds < s' / u.seconds := by
  induction us generalizing v with
  | nil =>
    obtain rfl : v = u := Option.some.inj hu
    simp [List.cons_lt_cons_iff]
  | cons w us ih =>
    obtain ⟨hw, hus⟩ := List.isChain_cons_cons.mp h
    rw [List.getLast?_cons_cons] at hu
    have hwv := Nat.le_of_lt (granularity_lt_of_coarser? hw)
    -- quotient and remainder by the coarser unit say what the number of finer ones does
    rw [← ih hus hu, List.map_cons, List.map_cons, List.cons_lt_cons_iff, List.cons_lt_cons_iff,
      List.cons_lt_cons_iff, div_seconds_of_le hwv, div_seconds_of_le hwv, remainder_div hw,
      remainder_div hw, lt_iff_div_mod (s / w.seconds) _ (v.seconds / w.seconds),
      eq_iff_div_mod (s / w.seconds) _ (v.seconds / w.seconds)]
    tauto

theorem granularity_lt_of_isChain {v : TimeUnit} {us : List TimeUnit}
    (h : (v :: us).IsChain fun v w => w.coarser? = some v) :
    ∀ w ∈ us, w.granularity < v.granularity := by
  induction us generalizing v with
  | nil => simp
  | cons w us ih =>
    obtain ⟨hw, hus⟩ := List.isChain_cons_cons.mp h
    have hwv := granularity_lt_of_coarser? hw
    refine List.forall_mem_cons.mpr ⟨hwv, fun x hx => ?_⟩
    exact Nat.lt_trans (ih hus x hx) hwv

end TimeUnit

namespace Template

/-- The units of the placeholders go down without a gap and end in `u`, and each is shown in two
digits or more. -/
structure Clock (t : Template) (u : TimeUnit) : Prop where
  descends : (t.placeholders.map Placeholder.unit).IsChain fun v w => w.coarser? = some v
  finest : (t.placeholders.map Placeholder.unit).getLast? = some u
  double : ∀ p ∈ t.placeholders, p.width = .double

section Units
variable {t : Template} {c : TimeUnit} {us : List TimeUnit}
variable (hunits : t.placeholders.map Placeholder.unit = c :: us)
variable (hchain : (c :: us).IsChain fun v w => w.coarser? = some v)
include hunits hchain

theorem granularity_le_of_isChain : ∀ p ∈ t.placeholders, p.unit.granularity ≤ c.granularity := by
  intro p hp
  have hmem : p.unit ∈ c :: us := hunits ▸ List.mem_map_of_mem hp
  rcases List.mem_cons.mp hmem with he | hu
  · exact he ▸ Nat.le_refl _
  · exact Nat.le_of_lt (TimeUnit.granularity_lt_of_isChain hchain _ hu)

theorem countsIn_of_isChain : t.CountsIn c := by
  have hc : t.coarsest? = some c := by
    refine coarsest?_eq_some_iff.mpr ⟨?_, fun p hp => ?_⟩
    · exact List.mem_map.mp (hunits ▸ List.mem_cons_self)
    · exact TimeUnit.granularity_le_iff.mp (granularity_le_of_isChain hunits hchain p hp)
  exact fun d hd => Option.some.inj (hd.symm.trans hc)

theorem map_share_of_isChain (s : Nat) : (t.placeholders.map fun p => c.share p.unit s) =
    s / c.seconds :: us.map fun w => w.remainder s / w.seconds := by
  have hmap : (t.placeholders.map fun p => c.share p.unit s) =
      (t.placeholders.map Placeholder.unit).map fun w => c.share w s := by
    rw [List.map_map]
    rfl
  rw [hmap, hunits, List.map_cons, TimeUnit.share_self]
  congr 1
  refine List.map_congr_left fun w hw => ?_
  have hne : w ≠ c := fun he =>
    Nat.lt_irrefl _ (he ▸ TimeUnit.granularity_lt_of_isChain hchain w hw)
  rw [TimeUnit.share, if_neg hne]

end Units

namespace Clock
variable {t : Template} {u : TimeUnit}

theorem exists_units (h : t.Clock u) :
    ∃ c us, t.placeholders.map Placeholder.unit = c :: us ∧
      (c :: us).IsChain (fun v w => w.coarser? = some v) ∧ (c :: us).getLast? = some u := by
  obtain ⟨hchain, hlast, -⟩ := h
  cases hunits : t.placeholders.map Placeholder.unit with
  | nil =>
    rw [hunits] at hlast
    cases hlast
  | cons c us => exact ⟨c, us, rfl, hunits ▸ hchain, hunits ▸ hlast⟩

section Two
variable (h : t.Clock u) (ht : t.WellFormed) {m n : Int64}
include h ht

/-- Piece by piece, more time is never shorter. -/
theorem exists_pieces : ∃ c,
    (∀ millis, (t.render millis).toList =
      t.segments.flatMap fun s => (s.spelled c (wholeSeconds millis)).toList) ∧
    (∀ s s' : Nat, s / u.seconds ≤ s' / u.seconds → ∀ segment ∈ t.segments,
      (segment.spelled c s).toList.length ≤ (segment.spelled c s').toList.length) ∧
    ∀ s s' : Nat, (t.placeholders.map fun p => c.share p.unit s) <
      (t.placeholders.map fun p => c.share p.unit s') ↔ s / u.seconds < s' / u.seconds := by
  obtain ⟨c, us, hunits, hchain, hlast⟩ := h.exists_units
  have hle := granularity_le_of_isChain hunits hchain
  refine ⟨c, (countsIn_of_isChain hunits hchain).toList_render_segments ht, ?_, fun s s' => ?_⟩
  · intro s s' hs
    have huc : u.granularity ≤ c.granularity := by
      have hmem : u ∈ t.placeholders.map Placeholder.unit := hunits ▸ List.mem_of_getLast? hlast
      obtain ⟨p, hp, rfl⟩ := List.mem_map.mp hmem
      exact hle p hp
    apply Segment.length_spelled_le
    · exact fun p hp => hle p (mem_placeholders.mpr hp)
    · exact fun p hp _ => h.double p (mem_placeholders.mpr hp)
    · rw [TimeUnit.div_seconds_of_le huc, TimeUnit.div_seconds_of_le huc]
      exact Nat.div_le_div_right hs
  · rw [map_share_of_isChain hunits hchain, map_share_of_isChain hunits hchain]
    exact TimeUnit.shares_lt_iff hchain hlast s s'

theorem length_render_le (hs : wholeSeconds m / u.seconds ≤ wholeSeconds n / u.seconds) :
    (t.render m).length ≤ (t.render n).length := by
  obtain ⟨c, hrender, hle, -⟩ := h.exists_pieces ht
  rw [← String.length_toList, ← String.length_toList, hrender, hrender]
  exact length_flatMap_le (hle _ _ hs)

theorem render_lt_iff (hl : (t.render m).length = (t.render n).length) :
    t.render m < t.render n ↔ wholeSeconds m / u.seconds < wholeSeconds n / u.seconds := by
  obtain ⟨c, hrender, hle, hcounts⟩ := h.exists_pieces ht
  rw [← String.length_toList, ← String.length_toList, hrender, hrender] at hl
  rw [String.lt_iff, hrender, hrender, ← hcounts]
  apply Segment.flatMap_spelled_lt_iff
  rcases Nat.le_total (wholeSeconds m / u.seconds) (wholeSeconds n / u.seconds) with hs | hs
  · exact length_eq_of_length_flatMap_eq (hle _ _ hs) hl
  · exact fun s hmem => (length_eq_of_length_flatMap_eq (hle _ _ hs) hl.symm s hmem).symm

end Two

end Clock

/-- Two texts of one length are in the order of their whole units of the finest, and a longer text
has more of them. -/
theorem ofString_sorts (format : String) {u : TimeUnit} (h : (ofString format).Clock u)
    (m n : Int64) :
    (((ofString format).render m).length = ((ofString format).render n).length →
      ((ofString format).render m < (ofString format).render n ↔
        (m.toInt.tdiv 1000).toNat / u.seconds < (n.toInt.tdiv 1000).toNat / u.seconds)) ∧
    (((ofString format).render m).length < ((ofString format).render n).length →
      (m.toInt.tdiv 1000).toNat / u.seconds < (n.toInt.tdiv 1000).toNat / u.seconds) := by
  have ht := wellFormed_ofString format
  refine ⟨h.render_lt_iff ht, fun hl => ?_⟩
  apply Nat.lt_of_not_le
  exact fun hs => Nat.not_lt_of_le (h.length_render_le ht hs) hl

/-- The hours grow from two digits to three; the minutes have two and touch them. -/
theorem ofString_sorts_minutes :
    (ofString "[at ]hhmm").Clock .minute ∧
    ((ofString "[at ]hhmm").render 35999999).length =
      ((ofString "[at ]hhmm").render 359999999).length ∧
    ((ofString "[at ]hhmm").render 359999999).length <
      ((ofString "[at ]hhmm").render 360000000).length ∧
    ((35999999 : Int64).toInt.tdiv 1000).toNat / TimeUnit.minute.seconds = 599 ∧
    ((359999999 : Int64).toInt.tdiv 1000).toNat / TimeUnit.minute.seconds = 5999 ∧
    (ofString "[at ]hhmm").render 35999999 < (ofString "[at ]hhmm").render 359999999 ∧
    ((359999999 : Int64).toInt.tdiv 1000).toNat / TimeUnit.minute.seconds <
      ((360000000 : Int64).toInt.tdiv 1000).toNat / TimeUnit.minute.seconds := by
  have hp : (ofString "[at ]hhmm").placeholders = [⟨.hour, .double⟩, ⟨.minute, .double⟩] := by
    decide +kernel
  have h : (ofString "[at ]hhmm").Clock .minute := by
    constructor <;> rw [hp] <;> decide
  have heq : ((ofString "[at ]hhmm").render 35999999).length =
      ((ofString "[at ]hhmm").render 359999999).length := by decide +kernel
  have hlt : ((ofString "[at ]hhmm").render 359999999).length <
      ((ofString "[at ]hhmm").render 360000000).length := by decide +kernel
  have hearly : ((35999999 : Int64).toInt.tdiv 1000).toNat / TimeUnit.minute.seconds = 599 := by
    decide +kernel
  have hlate : ((359999999 : Int64).toInt.tdiv 1000).toNat / TimeUnit.minute.seconds = 5999 := by
    decide +kernel
  have hsorts := (ofString_sorts _ h 35999999 359999999).1 heq
  rw [hearly, hlate] at hsorts
  exact ⟨h, heq, hlt, hearly, hlate, hsorts.mpr (by decide), (ofString_sorts _ h _ _).2 hlt⟩

end Template

end DurationFormat
